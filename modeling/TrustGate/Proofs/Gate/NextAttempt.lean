import TrustGate.Proofs.Gate.Outcomes
import TrustGate.Proofs.Gate.Pinning
import TrustGate.Proofs.Gate.Trust
import TrustGate.Proofs.Policy

/-!
# What an acceptance means for the next attempt

Whether the user is asked about an attempt follows from the stored profile, and
an acceptance changes that profile. This file joins the two.

If everything is saved, the approval is remembered: the user is asked about the
network again only after its trust has been reset. `Remembering` is what every
operation preserves then. On a device that pins certificates it holds because no
flow of a network with an authority can start, and on another because nothing
takes an approval back.

If the certificate cannot be pinned, the permission to trust a first certificate
is taken back along with the approval. So the user is asked again just if taking
it back failed too, and otherwise the next attempt passes without a certificate
and without a question.
-/

namespace TrustGate

namespace Gate

/-! ## What the store fails at -/

/-- The change that a call asks of the store, if the store fails at it. -/
def failed? : Exchange.Event GateReply → Option (NetworkId × Store.Change)
  | ⟨.update id change, .error _⟩ => some (id, change)
  | _ => none

/-- The changes that the turn asks of the store and that fail. -/
def Turn.failures {σ : Type} (turn : Turn σ) : List (NetworkId × Store.Change) :=
  turn.transcript.filterMap failed?

section Calls

variable {gate : Gate} {flow : Flow} {transcript record : Transcript} {id : NetworkId}

theorem failed?_of_accepted :
    (gate.dismissal ++ record ++ [⟨.report (.accepted flow.ssid), ()⟩] : Transcript).filterMap
      failed? = record.filterMap failed? := by
  have dismissal : gate.dismissal.filterMap failed? = [] := by
    unfold Gate.dismissal
    split <;> rfl
  -- Neither taking the prompt down nor the report at the end is a call of the store.
  rw [List.filterMap_append, List.filterMap_append, dismissal, List.nil_append]
  exact List.append_nil _

theorem amendment_of_accepted (profile : NetworkProfile) :
    amendment id (gate.dismissal ++ record ++ [⟨.report (.accepted flow.ssid), ()⟩]) profile =
      amendment id record profile := by
  rw [amendment_append, amendment_report, amendment_append, amendment_dismissal]

theorem remembers_of_records {profile : NetworkProfile} {tofuSupported : Bool}
    (records : Records flow record) (policy : flow.policy = .ofDevice tofuSupported)
    (saved : record.filterMap failed? = []) (asks : profile.asks tofuSupported = true) :
    (amendment flow.networkId record profile).Remembers tofuSupported := by
  cases records with
  | pinned tofu certificate joined =>
      obtain rfl : tofuSupported = true := ofDevice_eq_tofu_iff.mp (policy.symm.trans tofu)
      rw [amendment_cons, amendment_cons, amended_update, amended_update]
      exact (NetworkProfile.remembers_of_pin asks _).setAutoConnect true joined.isOk
  | unpinned tofu certificate error approved enabled joined =>
      -- The pin itself failed, so not all of the acceptance was saved.
      simp [failed?] at saved
  | remembered legacy approved joined =>
      obtain rfl : tofuSupported = false := by
        cases tofuSupported with
        | false => rfl
        | true => cases policy.symm.trans legacy
      rw [amendment_cons, amendment_cons, amended_update, amended_update]
      cases approved with
      | error error => simp [failed?] at saved
      | ok =>
          exact (NetworkProfile.remembers_of_setApproved asks).setAutoConnect true joined.isOk

/-- If the pin of an acceptance failed, a device that pins certificates asks about the network again
just if the permission to trust a first certificate could not be taken back either. -/
theorem asks_of_failed_pin {profile : NetworkProfile} {certificate : ServerCertificate}
    (records : Records flow record)
    (failed : (flow.networkId, .pin certificate) ∈ record.filterMap failed?)
    (asks : profile.asks true = true) :
    (amendment flow.networkId record profile).asks true = true ↔
      (flow.networkId, .setTofu false) ∈ record.filterMap failed? := by
  -- Only one way to write an acceptance down starts with a pin that fails.
  cases records with
  | pinned tofu held joined => cases joined <;> simp [failed?] at failed
  | unpinned tofu held error approved enabled joined =>
      rw [amendment_cons, amended_error]
      simp only [amendment_cons, amendment_nil, amended_update, NetworkProfile.asks_setAutoConnect,
        NetworkProfile.asks_setTofu, NetworkProfile.asks_setApproved, asks]
      cases enabled <;> cases approved <;> cases joined <;>
        simp [failed?, Except.isOk, Except.toBool]
  | remembered legacy approved joined =>
      cases approved <;> cases joined <;> simp [failed?] at failed

end Calls

/-! ## Attempts over a store -/

section Attempts

variable {ρ : Type} {others : (call : GateCall) → ρ → GateReply call × ρ}

theorem Performs.changes_of_unnamed {gate after : Gate} {operation : Operation}
    {transcript : Transcript} {result : Option Bool}
    (performs : gate.Performs operation transcript result after)
    (unnamed : (seen reported? transcript).filterMap TrustOutcome.ssid? = []) :
    seen changed? transcript = [] := by
  rcases performs with ⟨effect, _, makes, _⟩
  rw [reports_of_makes makes] at unnamed
  apply changes_of_makes makes
  intro decides
  cases effect with
  | accepted | rejected => cases unnamed
  | _ => exact decides

/-- As long as nothing is reported for a network, the store stays as it is. -/
theorem Reached.store_eq {first gate : Gate} {initial site : StoreSite ρ}
    {past : List (Turn (StoreSite ρ))}
    (reached : Reached (StoreSite.reply others) first initial past gate site)
    (unnamed : ∀ turn ∈ past, turn.named = []) : site.store = initial.store := by
  induction reached with
  | start => rfl
  | @turn past gate site _ operation ih =>
      simp only [List.forall_mem_append, List.forall_mem_singleton] at unnamed
      have performs := performs_turn (StoreSite.reply others) gate site operation
      have answered := answered_turn (StoreSite.reply others) gate site operation
      rw [store_of_answered answered (performs.changes_of_unnamed unnamed.2), ih unnamed.1]

theorem Reached.store_eq_of_pending {first gate : Gate} {initial site : StoreSite ρ}
    {past : List (Turn (StoreSite ρ))} {flow current : Flow}
    (reached : Reached (StoreSite.reply others) first initial past gate site)
    (unstarted : ∀ turn ∈ past, ¬turn.StartsFlow) (isPending : first.flow? = some flow)
    (still : gate.flow? = some current) :
    current.connection = flow.connection ∧ site.store = initial.store := by
  rcases reached.phase isPending unstarted with ⟨same, unnamed⟩ | ⟨ended, _⟩
  · rw [still] at same
    have unnamedTurns : ∀ turn ∈ past, turn.named = [] := List.flatMap_eq_nil_iff.mp unnamed
    exact ⟨Option.some.inj same, reached.store_eq unnamedTurns⟩
  · simp [still] at ended

theorem hasValidTrust_of_answered {site later : StoreSite ρ} {transcript : Transcript}
    {id : NetworkId} {trusted : Bool}
    (answered : Exchange.Answered (StoreSite.reply others) site transcript later)
    (unchanged : seen changed? transcript = [])
    (asked : ⟨.hasValidTrust id, trusted⟩ ∈ transcript) :
    site.store.hasValidTrust id = trusted := by
  rcases List.append_of_mem asked with ⟨first, second, rfl⟩
  rw [seen_append, List.append_eq_nil_iff] at unchanged
  rcases Exchange.answered_append_iff.mp answered with ⟨middle, before, replied, _⟩
  -- Nothing was changed before the question, so the reply is about the store at the beginning.
  rw [← store_of_answered before unchanged.1]
  exact replied

theorem hasValidTrust_of_asks {store : Store} {profile : NetworkProfile} {tofuSupported : Bool}
    (stored : store.get? profile.networkId = some profile)
    (asks : profile.asks tofuSupported = true) :
    store.hasValidTrust profile.networkId = false := by
  rcases NetworkProfile.asks_iff.mp asks with ⟨enterprise, present, _, untrusted, _⟩
  simp [Store.hasValidTrust, stored, present, untrusted]

/-- An attempt with the stored profile is let pass just if nobody has to be asked about it. -/
theorem result_of_prepare_stored (gate : Gate) {site : StoreSite ρ} {id : NetworkId}
    {profile : NetworkProfile} (stored : site.store.get? id = some profile) :
    (gate.turn (StoreSite.reply others) site (.prepare profile)).result =
      some (profile.asks gate.settings.tofuSupported) := by
  obtain rfl := Store.networkId_of_get? stored
  have answered := answered_turn (StoreSite.reply others) gate site (.prepare profile)
  rcases performs_turn (StoreSite.reply others) gate site (.prepare profile) with
    ⟨effect, brings, makes, _⟩
  generalize (gate.turn (StoreSite.reply others) site (.prepare profile)).result = result
    at brings ⊢
  generalize (gate.turn (StoreSite.reply others) site (.prepare profile)).transcript = transcript
    at answered makes
  cases brings with
  | exempt free => simp [NetworkProfile.asks, free]
  | started needed => simp [NetworkProfile.asks, needed]
  | trusted needed =>
      have unchanged := changes_of_makes makes (fun decides => decides)
      have asks : profile.asks gate.settings.tofuSupported = true := by
        simp [NetworkProfile.asks, needed]
      have untrusted := hasValidTrust_of_asks stored asks
      cases makes with
      | trusted =>
          have trusted : site.store.hasValidTrust profile.networkId = true :=
            hasValidTrust_of_answered answered unchanged (by simp)
          cases untrusted.symm.trans trusted

theorem result_of_eq_turn {turn : Turn (StoreSite ρ)} {id : NetworkId} {profile : NetworkProfile}
    (performed : turn = turn.before.turn (StoreSite.reply others) turn.earlier turn.operation)
    (prepared : turn.operation = .prepare profile)
    (stored : turn.earlier.store.get? id = some profile) :
    turn.result = some (profile.asks turn.before.settings.tofuSupported) := by
  have result : (turn.before.turn (StoreSite.reply others) turn.earlier (.prepare profile)).result =
      some (profile.asks turn.before.settings.tofuSupported) :=
    result_of_prepare_stored turn.before stored
  rwa [← prepared, ← performed] at result

/-- A flow that is pending after the start of one, and before that of another, is for the network of
the former; and the store is still as it was then. -/
theorem flow_of_started {start : Turn (StoreSite ρ)} {segment : List (Turn (StoreSite ρ))}
    {gate : Gate} {site : StoreSite ρ} {profile : NetworkProfile} {flow : Flow}
    (performed : start = start.before.turn (StoreSite.reply others) start.earlier start.operation)
    (prepared : start.operation = .prepare profile) (started : start.result = some true)
    (reached : Reached (StoreSite.reply others) start.after start.later segment gate site)
    (unstarted : ∀ turn ∈ segment, ¬turn.StartsFlow) (isPending : gate.flow? = some flow) :
    flow.networkId = profile.networkId ∧
      flow.policy = .ofDevice start.before.settings.tofuSupported ∧
      site.store = start.earlier.store := by
  have performs := performs_of_eq_turn performed
  rw [prepared, started] at performs
  rcases performs with ⟨effect, brings, makes, after⟩
  cases brings with
  | started needed =>
      rcases reached.store_eq_of_pending unstarted (congrArg Gate.flow? after) isPending with
        ⟨same, store⟩
      have unchanged : start.later.store = start.earlier.store :=
        store_of_answered (answered_of_eq_turn performed) (changes_of_makes makes id)
      refine ⟨congrArg (·.identity.networkId) same, ?_, store.trans unchanged⟩
      exact (congrArg PendingConnection.policy same).trans (policy_of_approvalNeed needed)

/-- The acceptance of the flow of a stored network makes of its profile what was written down, and
fails at what could not be. -/
theorem stored_of_acceptance {start accept : Turn (StoreSite ρ)}
    {segment : List (Turn (StoreSite ρ))} {profile : NetworkProfile} {flow : Flow}
    {record : Transcript}
    (performedStart :
      start = start.before.turn (StoreSite.reply others) start.earlier start.operation)
    (prepared : start.operation = .prepare profile)
    (stored : start.earlier.store.get? profile.networkId = some profile)
    (started : start.result = some true)
    (reached : Reached (StoreSite.reply others) start.after start.later segment accept.before
      accept.earlier)
    (unstarted : ∀ turn ∈ segment, ¬turn.StartsFlow)
    (performed :
      accept = accept.before.turn (StoreSite.reply others) accept.earlier accept.operation)
    (isPending : accept.before.flow? = some flow)
    (whole : accept.transcript =
      accept.before.dismissal ++ record ++ [⟨.report (.accepted flow.ssid), ()⟩]) :
    profile.asks start.before.settings.tofuSupported = true ∧
      flow.networkId = profile.networkId ∧
      flow.policy = .ofDevice start.before.settings.tofuSupported ∧
      accept.later.store.get? profile.networkId =
        some (amendment profile.networkId record profile) ∧
      accept.failures = record.filterMap failed? := by
  rcases flow_of_started performedStart prepared started reached unstarted isPending with
    ⟨network, policy, sameStore⟩
  refine ⟨?asks, network, policy, ?found, ?failures⟩
  case asks =>
    have result := result_of_eq_turn performedStart prepared stored
    rw [started] at result
    exact (Option.some.inj result).symm
  case found =>
    rw [get?_of_answered (answered_of_eq_turn performed), sameStore, stored, Option.map_some,
      whole, amendment_of_accepted]
  case failures => rw [Turn.failures, whole, failed?_of_accepted]

end Attempts

/-! ## A pin that failed -/

section FailedPin

variable {ρ : Type} {others : (call : GateCall) → ρ → GateReply call × ρ}

theorem exists_error_of_failed {transcript : Transcript} {id : NetworkId} {change : Store.Change}
    (failed : (id, change) ∈ transcript.filterMap failed?) :
    ∃ error, ⟨.update id change, .error error⟩ ∈ transcript := by
  rcases List.mem_filterMap.mp failed with ⟨event, mem, same⟩
  unfold failed? at same
  split at same
  · next error =>
      cases same
      exact ⟨error, mem⟩
  · cases same

/-- On a device that pins certificates, let the flow of a stored network be accepted and the pin
fail. The next attempt, with the profile that is stored by then, is asked about just if the
acceptance also failed to take back the permission to trust a first certificate. -/
theorem asked_after_failed_pin_iff {first : Gate} {initial : StoreSite ρ}
    {operations : List Operation} (past segment between future : List (Turn (StoreSite ρ)))
    {start accept again : Turn (StoreSite ρ)} {profile : NetworkProfile}
    {certificate : ServerCertificate} (device : first.settings.tofuSupported = true)
    (cut : history (StoreSite.reply others) first initial operations =
      past ++ start :: (segment ++ accept :: (between ++ again :: future)))
    (prepared : start.operation = .prepare profile) (started : start.result = some true)
    (stored : start.earlier.store.get? profile.networkId = some profile)
    (unstarted : ∀ turn ∈ segment, ¬turn.StartsFlow)
    (failed : (profile.networkId, .pin certificate) ∈ accept.failures)
    (unstartedSince : ∀ turn ∈ between, ¬turn.StartsFlow) :
    ∃ now, again.earlier.store.get? profile.networkId = some now ∧
      (again.operation = .prepare now →
        (again.result = some true ↔ (profile.networkId, .setTofu false) ∈ accept.failures)) := by
  rcases reached_of_history_turn cut with ⟨reachedStart, performedStart, _, continued⟩
  rcases reached_of_history_turn continued.symm with ⟨reached, performed, _, continuedAgain⟩
  rcases reached_of_history_turn continuedAgain.symm with ⟨reachedAgain, performedAgain, _⟩
  rcases performs_of_eq_turn performed with ⟨effect, brings, makes, after⟩
  rcases exists_error_of_failed failed with ⟨error, pins⟩
  rcases exists_records_of_pin makes pins with ⟨flow, record, rfl, records, _, whole⟩
  rcases stored_of_acceptance performedStart prepared stored started reached unstarted performed
    brings.fits.1 whole with ⟨asks, network, _, left, failures⟩
  rw [reachedStart.settings_eq, device] at asks
  -- Between the acceptance and the next attempt no flow is pending, so the store stays.
  have idle : accept.after.flow? = none := by rw [after]; rfl
  have kept : again.earlier.store = accept.later.store :=
    reachedAgain.store_eq (reachedAgain.idle_of_unstarted idle unstartedSince).2
  have found : again.earlier.store.get? profile.networkId =
      some (amendment profile.networkId record profile) := kept ▸ left
  refine ⟨_, found, fun retried => ?_⟩
  have cutAgain : history (StoreSite.reply others) first initial operations =
      (past ++ start :: (segment ++ accept :: between)) ++ again :: future := by simpa using cut
  have deviceAgain : again.before.settings.tofuSupported = true := by
    rw [(reached_of_history_turn cutAgain).1.settings_eq, device]
  have next := asks_of_failed_pin records (network ▸ failures ▸ failed) asks
  rw [network, ← failures] at next
  rw [result_of_eq_turn performedAgain retried found, deviceAgain, Option.some.injEq, next]

/-- A network is accepted while saving fails as listed, and then tried again with a profile. -/
def retried (faults : List (Option SaveStep)) (now : NetworkProfile) :
    List (Turn (StoreSite Surroundings)) :=
  history (StoreSite.reply Surroundings.reply) { settings := ⟨true, "wlan0", ""⟩ }
    { store := .ofList [newcomer 5 "corp"], faults, rest := {} } [
      .prepare (newcomer 5 "corp"), .offer "corp" (radius [1]), .request true,
      .respond ⟨some "corp", .accept, .dialog⟩, .prepare now]

/-- If nothing fails but the pin, the next attempt passes without a question, though no certificate
was pinned. -/
theorem failed_pin_passes_unasked :
    ∃ start segment accept again now,
      retried [some .rename] now = [] ++ start :: (segment ++ accept :: ([] ++ [again])) ∧
        start.operation = .prepare (newcomer 5 "corp") ∧ start.result = some true ∧
        start.earlier.store.get? 5 = some (newcomer 5 "corp") ∧
        (∀ turn ∈ segment, ¬turn.StartsFlow) ∧
        accept.outcomes = [.accepted "corp"] ∧ accept.failures = [(5, .pin (radius [1]))] ∧
        again.earlier.store.get? 5 = some now ∧ again.earlier.store.hasValidTrust 5 = false ∧
        again.operation = .prepare now ∧ again.result = some false := by
  refine ⟨_, [_, _], _, _, { newcomer 5 "corp" with enterprise := some { eapMethod := .peap } },
    rfl, rfl, rfl, rfl, ?_, rfl, rfl, rfl, rfl, rfl, rfl⟩
  simp [Turn.StartsFlow, turn]

/-- If taking back the permission fails too, the next attempt is asked about. -/
theorem failed_recovery_asked_again :
    ∃ again ∈ retried [some .rename, some .rename, some .rename] (newcomer 5 "corp"),
      again.operation = .prepare (newcomer 5 "corp") ∧ again.result = some true := by
  have cut : retried [some .rename, some .rename, some .rename] (newcomer 5 "corp") =
      [] ++ _ :: ([_, _] ++ _ :: ([] ++ _ :: [])) := rfl
  rcases asked_after_failed_pin_iff [] [_, _] [] [] rfl cut rfl rfl rfl
    (by simp [Turn.StartsFlow, turn]) (.head _) (by simp) with ⟨now, found, asked⟩
  refine ⟨_, .tail _ (.tail _ (.tail _ (.tail _ (.head _)))), rfl, ?_⟩
  cases found
  exact (asked rfl).mpr (.tail _ (.tail _ (.head _)))

end FailedPin

/-! ## An approval that was saved -/

section Saved

variable {ρ : Type} {others : (call : GateCall) → ρ → GateReply call × ρ}

/-- An approval of the network is stored, and on a device that pins certificates no other flow for
it is pending. -/
structure Remembering (gate : Gate) (store : Store) (id : NetworkId) : Prop where
  stored : ∃ profile, store.get? id = some profile ∧ profile.Remembers gate.settings.tofuSupported
  free : gate.settings.tofuSupported = true → ∀ flow, gate.flow? = some flow → flow.networkId ≠ id

theorem Remembering.hasValidTrust {gate : Gate} {store : Store} {id : NetworkId}
    (remembering : Remembering gate store id) (device : gate.settings.tofuSupported = true) :
    store.hasValidTrust id = true := by
  rcases remembering.stored with ⟨profile, found, enterprise, present, _, approved⟩
  rw [device, if_pos rfl] at approved
  simp [Store.hasValidTrust, found, present, approved.2]

section Step

variable {gate : Gate} {site later : StoreSite ρ} {id : NetworkId} {effect : Effect}
  {transcript : Transcript}

theorem remembers_of_amends {flow : Flow} {profile amended : NetworkProfile}
    {outcome : TrustOutcome} (legacy : flow.policy = .legacy)
    (amends : Amends flow transcript profile outcome amended)
    (remembers : profile.Remembers false) : amended.Remembers false := by
  -- Without certificates no answer takes an approval back: a refusal only stops joining alone.
  cases amends with
  | rejected parted => exact remembers.setAutoConnect false parted
  | remembered _ approved joined =>
      exact (remembers.setApproved approved).setAutoConnect true joined
  | pinned tofu | unpinned tofu => cases legacy.symm.trans tofu

theorem Remembering.stored_of_amends {flow : Flow} {outcome : TrustOutcome}
    (remembering : Remembering gate site.store id) (coherent : gate.Coherent)
    (isPending : gate.flow? = some flow)
    (answered : Exchange.Answered (StoreSite.reply others) site transcript later)
    (own : ∀ change ∈ seen changed? transcript, change.1 = flow.networkId)
    (amends : ∀ profile, Amends flow transcript profile outcome
      (amendment flow.networkId transcript profile)) :
    ∃ profile, later.store.get? id = some profile ∧
      profile.Remembers gate.settings.tofuSupported := by
  rcases remembering.stored with ⟨profile, found, remembers⟩
  rcases amends_of_answered answered own amends with ⟨elsewhere, here⟩
  by_cases same : flow.networkId = id
  · subst same
    rcases here profile found with ⟨amended, stored, amends⟩
    refine ⟨amended, stored, ?_⟩
    have policy := (coherent.flow flow isPending).policy
    cases device : gate.settings.tofuSupported with
    | true => exact absurd rfl (remembering.free device flow isPending)
    | false =>
        rw [device] at policy remembers
        exact remembers_of_amends policy amends remembers
  · exact ⟨profile, (elsewhere id (Ne.symm same)).trans found, remembers⟩

theorem Remembering.after (remembering : Remembering gate site.store id)
    (coherent : gate.Coherent) (fits : effect.Fits gate) (makes : effect.Makes gate transcript)
    (answered : Exchange.Answered (StoreSite.reply others) site transcript later) :
    Remembering (effect.after gate) later.store id := by
  have kept : ¬effect.Decides → later.store = site.store := fun undecided =>
    store_of_answered answered (changes_of_makes makes undecided)
  refine ⟨?stored, ?free⟩
  case stored =>
    rw [settings_after]
    cases effect with
    | accepted flow =>
        exact remembering.stored_of_amends coherent fits.1 answered (changes_of_accepted makes)
          (amends_of_accepted makes)
    | rejected flow =>
        exact remembering.stored_of_amends coherent fits answered (changes_of_rejected makes)
          (amends_of_rejected makes)
    | _ => exact kept (fun decides => decides) ▸ remembering.stored
  case free =>
    rw [settings_after]
    intro device flow isPending
    cases effect with
    | nothing | dismissed => exact remembering.free device flow isPending
    | kept current pending | presented current prompt handle =>
        cases isPending
        exact remembering.free device current fits.1
    | dropped trusted? => simp [Effect.after] at isPending
    | failed | accepted | rejected => cases isPending
    | started profile policy =>
        -- The store vouches for the network, so no flow for it can have started.
        have unchanged := changes_of_makes makes (fun decides => decides)
        cases isPending
        cases makes with
        | started drops =>
            rintro rfl
            have untrusted : site.store.hasValidTrust profile.networkId = false :=
              hasValidTrust_of_answered answered unchanged (by simp)
            cases untrusted.symm.trans (remembering.hasValidTrust device)

end Step

theorem Reached.remembering {first gate : Gate} {initial site : StoreSite ρ}
    {past : List (Turn (StoreSite ρ))} {id : NetworkId}
    (reached : Reached (StoreSite.reply others) first initial past gate site)
    (coherent : first.Coherent) (remembering : Remembering first initial.store id) :
    Remembering gate site.store id := by
  induction reached with
  | start => exact remembering
  | @turn past gate site reached operation ih =>
      rcases performs_turn (StoreSite.reply others) gate site operation with
        ⟨effect, brings, makes, after⟩
      have answered := answered_turn (StoreSite.reply others) gate site operation
      rw [after]
      exact ih.after (reached.coherent coherent) brings.fits makes answered

/-- Let the flow of a stored network be accepted and all of the acceptance be saved. Whatever
happens then, an attempt with the profile that is stored by then passes without a question; and if
the trust in the network is reset, the next attempt is asked about again. -/
theorem approval_remembered_until_reset {first gate : Gate} {initial site : StoreSite ρ}
    {operations : List Operation} {segment further : List (Turn (StoreSite ρ))}
    {start accept : Turn (StoreSite ρ)} {profile : NetworkProfile}
    (cut : history (StoreSite.reply others) first initial operations =
      start :: (segment ++ [accept]))
    (prepared : start.operation = .prepare profile)
    (stored : start.earlier.store.get? profile.networkId = some profile)
    (started : start.result = some true) (unstarted : ∀ turn ∈ segment, ¬turn.StartsFlow)
    (accepted : .accepted profile.ssid ∈ accept.outcomes) (saved : accept.failures = [])
    (reached : Reached (StoreSite.reply others) accept.after accept.later further gate site) :
    ∃ now, site.store.get? profile.networkId = some now ∧
      (gate.turn (StoreSite.reply others) site (.prepare now)).result = some false ∧
      ∀ folder,
        let left := site.store.update folder profile.networkId .reset
        left.result = .ok () →
          ∃ again, left.store.get? profile.networkId = some again ∧
            (gate.turn (StoreSite.reply others)
              { site with store := left.store, folder := left.folder }
              (.prepare again)).result = some true := by
  have cutStart : history (StoreSite.reply others) first initial operations =
      [] ++ start :: (segment ++ [accept]) := cut
  rcases reached_of_history_turn cutStart with ⟨_, performedStart, _, continued⟩
  rcases reached_of_history_turn continued.symm with ⟨reachedAccept, performed, _⟩
  have performs := performs_of_eq_turn performed
  have settings : accept.after.settings = start.before.settings := by
    rw [performs.settings_eq, reachedAccept.settings_eq,
      (performs_of_eq_turn performedStart).settings_eq]
  rcases performs with ⟨effect, brings, makes, after⟩
  rcases exists_records_of_accepted makes accepted with ⟨flow, record, rfl, records, whole⟩
  rcases stored_of_acceptance performedStart prepared stored started reachedAccept unstarted
    performed brings.fits.1 whole with ⟨asks, network, policy, left, failures⟩
  have remembers : (amendment profile.networkId record profile).Remembers
      accept.after.settings.tofuSupported := by
    rw [settings, ← network]
    exact remembers_of_records records policy (failures.symm.trans saved) asks
  have idle : accept.after.flow? = none := by rw [after]; rfl
  have coherent : accept.after.Coherent := coherent_of_idle idle (by rw [after]; rfl)
  have remembering : Remembering accept.after accept.later.store profile.networkId := by
    refine ⟨⟨_, left, remembers⟩, fun _ current isPending => ?_⟩
    simp [idle] at isPending
  -- From here on only the stored profile matters.
  rcases (reached.remembering coherent remembering).stored with ⟨now, found, remembersNow⟩
  refine ⟨now, found, ?_, ?_⟩
  · rw [result_of_prepare_stored gate found, remembersNow.asks_eq_false]
  · intro folder left updated
    have again : left.store.get? profile.networkId = some (Store.Change.reset.amend now) := by
      rw [Store.get?_of_update, updated, found, Option.map_some, if_pos rfl]
      rfl
    refine ⟨_, again, ?_⟩
    rw [result_of_prepare_stored gate again, remembersNow.asks_reset]

/-- A network is accepted on a device that pins certificates. -/
def approved : List (Turn (StoreSite Surroundings)) :=
  history (StoreSite.reply Surroundings.reply) { settings := ⟨true, "wlan0", ""⟩ }
    { store := .ofList [newcomer 5 "corp", newcomer 9 "lab"], rest := {} } [
      .prepare (newcomer 5 "corp"), .offer "corp" (radius [1]), .request true,
      .respond ⟨some "corp", .accept, .dialog⟩]

/-- While a flow for another network is pending, the network is still approved, and it is no longer
once its trust has been reset. -/
theorem approved_while_another_is_pending :
    ∃ accept ∈ approved, ∃ further gate site now again,
      let left := site.store.update {} 5 .reset
      Reached (StoreSite.reply Surroundings.reply) accept.after accept.later further gate site ∧
        gate.state = .awaitingCertificate ∧ site.store.get? 5 = some now ∧
        (gate.turn (StoreSite.reply Surroundings.reply) site (.prepare now)).result = some false ∧
        left.result = .ok () ∧ left.store.get? 5 = some again ∧
        (gate.turn (StoreSite.reply Surroundings.reply)
          { site with store := left.store, folder := left.folder }
          (.prepare again)).result = some true := by
  have cut : approved = _ :: ([_, _] ++ [_]) := rfl
  rcases approval_remembered_until_reset cut rfl rfl rfl (by simp [Turn.StartsFlow, turn])
    (.head _) rfl (Reached.start.turn (.prepare (newcomer 9 "lab"))) with
    ⟨now, found, passes, asked⟩
  rcases asked {} rfl with ⟨again, foundAgain, asksAgain⟩
  exact ⟨_, .tail _ (.tail _ (.tail _ (.head _))), _, _, _, now, again, .turn .start _, rfl,
    found, passes, rfl, foundAgain, asksAgain⟩

end Saved

end Gate

end TrustGate
