import TrustGate.Gate.Surroundings
import TrustGate.Proofs.Gate.SlotSite
import TrustGate.Proofs.Hex

/-!
# What is pinned

A certificate goes from an offer into the flow, from there onto the dialog, and
from an acceptance into the store. This file ties the ends together: what the
gate asks the store to pin is the one certificate that was taken since the flow
started, what is stored says the same as the certificate, and so does the dialog
on screen.

`SinceStart` carries the first part along a history: the certificates taken since
the start of the pending flow are just the one that the flow holds.
-/

namespace TrustGate

/-- The stored form of a network has the certificate as its authority. -/
def Store.HasPinned (store : Store) (id : NetworkId) (certificate : ServerCertificate) : Prop :=
  ∃ profile enterprise authority info,
    store.get? id = some profile ∧ profile.enterprise = some enterprise ∧
      enterprise.caCertificate = some authority ∧
      Hex.decode? authority.derHex = some certificate.der ∧
      authority.fingerprint = Hex.encode (Sha256.digest certificate.der) ∧
      certificate.subjectInfo = .ok info ∧ authority.commonName = info.commonName ∧
      info.commonName ≠ ""

/-- The dialog shows who a certificate is for, who issued it and how its digest begins. -/
def Dialog.Shows (dialog : Dialog) (certificate : ServerCertificate) : Prop :=
  ∃ subject issuer,
    certificate.subjectInfo = .ok subject ∧ certificate.issuerInfo = .ok issuer ∧
      dialog.message[2]? = some ("Server name: " ++ subject.commonName) ∧
      dialog.message[3]? = some ("Issuer name: " ++ issuer.commonName) ∧
      dialog.message.getLast? = some ("SHA-256 fingerprint: " ++
        String.ofList ((Hex.encode (Sha256.digest certificate.der)).toList.take 16))

namespace Gate

/-! ## What was offered -/

section Offered

variable {σ : Type} {respond : (call : GateCall) → σ → GateReply call × σ}

/-- The certificate that an operation with a result has brought to the pending flow. -/
def takenBy? : Operation → Option Bool → Option ServerCertificate
  | .offer _ certificate, some true => some certificate
  | _, _ => none

/-- The certificate that the turn has brought to the pending flow. -/
def Turn.taken? (turn : Turn σ) : Option ServerCertificate :=
  takenBy? turn.operation turn.result

/-- The certificate that an effect gives to the pending flow. -/
def Effect.kept? : Effect → Option ServerCertificate
  | kept _ pending => some pending.certificate
  | _ => none

/-- The turns so far end with the start of the flow and turns that have brought to it just the
certificate that it holds. -/
def SinceStart (past : List (Turn σ)) (flow : Flow) : Prop :=
  ∃ earlier start between, past = earlier ++ start :: between ∧ start.StartsFlow ∧
    start.after.flow?.map Flow.connection = some flow.connection ∧
    (∀ turn ∈ between, ¬turn.StartsFlow) ∧
    between.filterMap Turn.taken? =
      (flow.certificate?.map PendingCertificate.certificate).toList

theorem Brings.taken {gate : Gate} {operation : Operation} {result : Option Bool} {effect : Effect}
    (brings : gate.Brings operation result effect) : takenBy? operation result = effect.kept? := by
  cases brings with
  | kept takes => exact congrArg some (parsed_of_readCertificate? takes.readable).1.symm
  | _ => rfl

theorem Brings.of_started {gate : Gate} {operation : Operation} {result : Option Bool}
    {profile : NetworkProfile} {policy : TrustPolicy}
    (brings : gate.Brings operation result (.started profile policy)) :
    operation = .prepare profile ∧ result = some true := by
  cases brings with
  | started _ => exact ⟨rfl, rfl⟩

theorem Brings.started_of_prepared {gate : Gate} {operation : Operation} {result : Option Bool}
    {effect : Effect} (brings : gate.Brings operation result effect)
    (prepared : ∃ profile, operation = .prepare profile ∧ result = some true) :
    ∃ profile policy, effect = .started profile policy := by
  cases brings with
  | started _ => exact ⟨_, _, rfl⟩
  | _ => simp at prepared

/-- What an operation makes of the flow: one starts, none is pending afterwards, or the pending one
goes on with the certificate that it had and the one that the operation has brought. -/
inductive Passes (gate after : Gate) (operation : Operation) (result : Option Bool) : Prop
  | starts {profile : NetworkProfile} {policy : TrustPolicy}
      (prepared : operation = .prepare profile) (started : result = some true)
      (fresh : after.flow? = some (.ofProfile profile policy))
  | ends (idle : after.flow? = none) (untaken : takenBy? operation result = none)
  | goesOn {before now : Flow} (wasPending : gate.flow? = some before)
      (isPending : after.flow? = some now) (same : now.connection = before.connection)
      (unstarted : ¬∃ profile, operation = .prepare profile ∧ result = some true)
      (brought : (now.certificate?.map PendingCertificate.certificate).toList =
        (before.certificate?.map PendingCertificate.certificate).toList ++
          (takenBy? operation result).toList)

theorem Performs.passes {gate after : Gate} {operation : Operation} {transcript : Transcript}
    {result : Option Bool} (performs : gate.Performs operation transcript result after) :
    gate.Passes after operation result := by
  rcases performs with ⟨effect, brings, _, rfl⟩
  have fits := brings.fits
  have taken := brings.taken
  have unstarted : (∀ profile policy, effect ≠ .started profile policy) →
      ¬∃ profile, operation = .prepare profile ∧ result = some true := by
    intro other started
    rcases brings.started_of_prepared started with ⟨profile, policy, same⟩
    exact other profile policy same
  cases effect with
  | nothing | dismissed =>
      cases pending? : gate.flow? with
      | none => exact .ends pending? taken
      | some flow =>
          exact .goesOn pending? pending? rfl (unstarted (by simp)) (by simp [taken, Effect.kept?])
  | started profile policy =>
      rcases brings.of_started with ⟨prepared, started⟩
      exact .starts prepared started rfl
  | kept flow pending =>
      rcases fits with ⟨isPending, lacked, _, _⟩
      exact .goesOn isPending rfl rfl (unstarted (by simp)) (by simp [taken, Effect.kept?, lacked])
  | presented flow prompt handle =>
      exact .goesOn fits.1 rfl rfl (unstarted (by simp)) (by simp [taken, Effect.kept?])
  | dropped trusted? => exact .ends (flow?_retire gate) taken
  | failed | accepted | rejected => exact .ends rfl taken

theorem SinceStart.turn {past : List (Turn σ)} {turn : Turn σ} {before after : Flow}
    (since : SinceStart past before) (unstarted : ¬turn.StartsFlow)
    (same : after.connection = before.connection)
    (brought : (after.certificate?.map PendingCertificate.certificate).toList =
      (before.certificate?.map PendingCertificate.certificate).toList ++ turn.taken?.toList) :
    SinceStart (past ++ [turn]) after := by
  rcases since with ⟨earlier, start, between, rfl, starts, started, unstartedBetween, held⟩
  refine ⟨earlier, start, between ++ [turn], by simp, starts, same ▸ started, ?_, ?_⟩
  · intro other mem
    rcases List.mem_append.mp mem with between | last
    · exact unstartedBetween other between
    · exact List.mem_singleton.mp last ▸ unstarted
  · rw [List.filterMap_append, held, brought]
    cases taken : turn.taken? <;> simp [taken]

/-- Every pending flow of a gate that began without one was started, and holds what was taken
since. -/
theorem Reached.sinceStart {first gate : Gate} {initial surroundings : σ} {past : List (Turn σ)}
    (reached : Reached respond first initial past gate surroundings) (idle : first.flow? = none)
    {flow : Flow} (isPending : gate.flow? = some flow) : SinceStart past flow := by
  induction reached generalizing flow with
  | start => simp [idle] at isPending
  | @turn past gate surroundings _ operation ih =>
      cases (performs_turn respond gate surroundings operation).passes with
      | starts prepared started fresh =>
          rw [fresh] at isPending
          cases isPending
          exact ⟨past, _, [], rfl, ⟨_, prepared, started⟩, by rw [fresh]; rfl, by simp, rfl⟩
      | ends idle _ => simp [idle] at isPending
      | goesOn wasPending stillPending same unstarted brought =>
          rw [stillPending] at isPending
          cases isPending
          exact (ih wasPending).turn unstarted same brought

end Offered

/-! ## What is stored -/

section Stored

variable {gate : Gate} {effect : Effect} {transcript : Transcript} {id : NetworkId}
  {certificate : ServerCertificate} {result : Except Store.Error Unit}

/-- Nothing but an acceptance asks the store to pin a certificate. -/
theorem exists_records_of_pin (makes : effect.Makes gate transcript)
    (pins : ⟨.update id (.pin certificate), result⟩ ∈ transcript) :
    ∃ flow record, effect = .accepted flow ∧ Records flow record ∧
      ⟨.update id (.pin certificate), result⟩ ∈ record ∧
      transcript = gate.dismissal ++ record ++ [⟨.report (.accepted flow.ssid), ()⟩] := by
  have asked : (id, .pin certificate) ∈ seen changed? transcript := by
    rw [seen, List.mem_filterMap]
    exact ⟨_, pins, rfl⟩
  have decides : effect.Decides := by
    apply Classical.byContradiction
    intro undecided
    simp [changes_of_makes makes undecided] at asked
  cases makes with
  | @accepted flow record records =>
      refine ⟨flow, record, rfl, records, ?_, rfl⟩
      rcases List.mem_append.mp pins with pins | reported
      · exact (List.mem_append.mp pins).resolve_left (not_mem_dismissal (by simp))
      · cases List.mem_singleton.mp reported
  | rejected joined drops =>
      simp [seen_dismissal changed? gate fun _ => rfl,
        seen_of_drops changed? drops (fun _ => rfl) fun _ => rfl, changed?] at asked
  | _ => exact False.elim decides

theorem exists_records_of_accepted {ssid : String} (makes : effect.Makes gate transcript)
    (reported : .accepted ssid ∈ seen reported? transcript) :
    ∃ flow record, effect = .accepted flow ∧ Records flow record ∧
      transcript = gate.dismissal ++ record ++ [⟨.report (.accepted flow.ssid), ()⟩] := by
  rw [reports_of_makes makes] at reported
  cases makes with
  | accepted records => exact ⟨_, _, rfl, records, rfl⟩
  | _ => simp [Effect.reports] at reported

/-- What is pinned is the certificate of a flow that was to pin one, and a pin that worked is
followed just by the permission to join. -/
theorem pin_of_records {flow : Flow} {record : Transcript} (records : Records flow record)
    (pins : ⟨.update id (.pin certificate), result⟩ ∈ record) :
    flow.policy = .tofu ∧ flow.networkId = id ∧
      flow.certificate?.map PendingCertificate.certificate = some certificate ∧
      (result = .ok () → ∃ joined, record =
        [⟨.update id (.pin certificate), .ok ()⟩,
          ⟨.update id (.setAutoConnect true), joined⟩]) := by
  cases records with
  | pinned tofu held joined =>
      cases pins with
      | head => exact ⟨tofu, rfl, by rw [held]; rfl, fun _ => ⟨joined, rfl⟩⟩
      | tail _ rest => cases List.mem_singleton.mp rest
  | unpinned tofu held error disapproved disabled joined =>
      cases pins with
      | head => exact ⟨tofu, rfl, by rw [held]; rfl, fun worked => by cases worked⟩
      | tail _ rest =>
          have asked := List.mem_map_of_mem (f := Sigma.fst) rest
          simp at asked
  | remembered legacy approved joined =>
      have asked := List.mem_map_of_mem (f := Sigma.fst) pins
      simp at asked

/-- A certificate whose names could be read is stored with its bytes, its digest and its name. -/
theorem hasPinned_of_amended {store : Store} {profile : NetworkProfile}
    {pending : PendingCertificate} (joined : Bool)
    (found : store.get? id = some (Store.Change.amendIf (.setAutoConnect true) joined
      (Store.Change.amend (.pin pending.certificate) profile)))
    (applied : Store.Change.apply (.pin pending.certificate) profile =
      .ok (Store.Change.amend (.pin pending.certificate) profile))
    (readable : readCertificate? pending.certificate = some pending) :
    store.HasPinned id pending.certificate := by
  rcases parsed_of_readCertificate? readable with ⟨_, subject, _⟩
  rcases Option.isSome_iff_exists.mp (Store.mapEnterprise_of_onEnterprise applied).1 with
    ⟨enterprise, present⟩
  refine ⟨_, { enterprise with caCertificate := some (Store.pinned pending.certificate) },
    Store.pinned pending.certificate, pending.subject, found, ?_, rfl, ?_, rfl, subject, ?_, ?_⟩
  · cases joined <;>
      simp [Store.Change.amendIf, Store.Change.amend, NetworkProfile.mapEnterprise, present]
  · exact Hex.decode?_encode pending.certificate.der
  · simp [Store.pinned, subject]
  · exact SubjectInfo.commonName_ne_empty_of_parse subject

/-- A pin that worked leaves the certificate in the store. -/
theorem hasPinned_of_answered {ρ : Type} {others : (call : GateCall) → ρ → GateReply call × ρ}
    {site later : StoreSite ρ} {pending : PendingCertificate} {outcome : TrustOutcome}
    {joined : Except Store.Error Unit}
    (readable : readCertificate? pending.certificate = some pending)
    (answered : Exchange.Answered (StoreSite.reply others) site
      (gate.dismissal ++
        [⟨.update id (.pin pending.certificate), .ok ()⟩,
          ⟨.update id (.setAutoConnect true), joined⟩] ++ [⟨.report outcome, ()⟩]) later) :
    later.store.HasPinned id pending.certificate := by
  have stored := get?_of_answered answered id
  rw [List.append_assoc, Exchange.answered_append_iff] at answered
  rcases answered with ⟨middle, dismissed, replied, _⟩
  rcases exists_of_reply replied with ⟨profile, found, applied⟩
  -- The profile that was pinned into is the one from before, for dismissing changes none.
  rw [get?_of_answered dismissed] at found
  rcases Option.map_eq_some_iff.mp found with ⟨former, before, same⟩
  rw [amendment_dismissal] at same
  subst same
  rw [before, Option.map_some, amendment_append, amendment_report, amendment_append,
    amendment_dismissal, amendment_cons, amendment_cons, amended_update, amended_update] at stored
  exact hasPinned_of_amended joined.isOk stored applied readable

end Stored

/-! ## What is shown -/

section Shown

variable {flow : Flow} {pending : PendingCertificate}

theorem shows_tofuDialog (ssid : String)
    (readable : readCertificate? pending.certificate = some pending) :
    (tofuDialog ssid pending).Shows pending.certificate := by
  rcases parsed_of_readCertificate? readable with ⟨_, subject, issuer⟩
  refine ⟨pending.subject, pending.issuer, subject, issuer, rfl, rfl, ?_⟩
  rw [tofuDialog, PendingCertificate.lines, ← List.cons_append, ← List.cons_append,
    List.getLast?_concat]
  rfl

/-- Accepting a flow that is to pin its certificate asks the store for just that first. -/
theorem changes_of_accept {σ : Type} (respond : (call : GateCall) → σ → GateReply call × σ)
    {gate : Gate} (surroundings : σ) (isPending : gate.flow? = some flow)
    (tofu : flow.policy = .tofu) (held : flow.certificate? = some pending) {response : Response}
    (source : response.source = .dialog) (accepts : response.action = .accept)
    (current : response.ssid? = some flow.ssid) :
    (gate.turn respond surroundings (.respond response)).changes.head? =
      some (flow.networkId, .pin pending.certificate) := by
  rcases performs_turn respond gate surroundings (.respond response) with
    ⟨effect, brings, makes, _⟩
  have hears : gate.Hears response := fun notified => by simp [source] at notified
  have has : lacksCertificate flow = false := by simp [lacksCertificate, held]
  have asked := brings.of_answer hears isPending current has
  rw [accepts] at asked
  subst asked
  rw [Turn.changes]
  generalize (gate.turn respond surroundings (.respond response)).transcript = transcript at makes ⊢
  cases makes with
  | accepted records =>
      rw [seen_append, seen_append, seen_dismissal changed? gate fun _ => rfl]
      cases records with
      | pinned _ certificate joined | unpinned _ certificate _ _ _ joined =>
          cases held.symm.trans certificate
          rfl
      | remembered legacy => simp [tofu] at legacy

end Shown

/-- In a history over a store and a screen, what the gate asks the store to pin is the certificate
of the flow that is accepted, and this is the only one that was taken since the flow started. A pin
that works leaves the bytes of the certificate, their digest and the name of its subject in the
store. And whenever a dialog about a certificate is on screen, also within an operation, it shows
the certificate that accepting the pending flow would ask the store to pin. -/
theorem pinned_as_offered_and_shown {ρ : Type}
    (others : (call : GateCall) → ρ → GateReply call × ρ) (settings : GateSettings)
    (store : Store) (folder : Folder) (faults : List (Option SaveStep))
    (answered : List (List PromptHandle)) (rest : ρ) (operations : List Operation) :
    let reply := StoreSite.reply (SlotSite.reply others)
    let turns := history reply { settings } { store, folder, faults, rest := { answered, rest } }
      operations
    (∀ past turn future id certificate result, turns = past ++ turn :: future →
      ⟨.update id (.pin certificate), result⟩ ∈ turn.transcript →
        (∃ flow, turn.before.flow? = some flow ∧ flow.policy = .tofu ∧ flow.networkId = id ∧
          turn.outcomes = [.accepted flow.ssid] ∧
          ∃ earlier start between, past = earlier ++ start :: between ∧ start.StartsFlow ∧
            start.after.flow?.map Flow.connection = some flow.connection ∧
            (∀ turn ∈ between, ¬turn.StartsFlow) ∧
            between.filterMap Turn.taken? = [certificate]) ∧
        (result = .ok () → turn.later.store.HasPinned id certificate)) ∧
    (∀ turn ∈ turns, ∀ first second moment handle dialog, turn.transcript = first ++ second →
      Exchange.Answered reply turn.earlier first moment →
      moment.rest.slot.current? = some (handle, .dialog dialog) → dialog.policy = .tofu →
        ∃ flow certificate, turn.before.flow? = some flow ∧ flow.policy = .tofu ∧
          dialog.Shows certificate ∧
          ∀ site,
            (turn.before.turn reply site (.respond (dialog.respond .positive))).changes.head? =
              some (flow.networkId, .pin certificate)) := by
  intro reply turns
  refine ⟨?_, ?_⟩
  · intro past turn future id certificate result cut pins
    rcases reached_of_history_turn cut with ⟨reached, performed, _⟩
    have answers := answered_of_eq_turn performed
    rcases performs_of_eq_turn performed with ⟨effect, brings, makes, _⟩
    have outcomes := reports_of_makes makes
    rcases exists_records_of_pin makes pins with ⟨flow, record, rfl, records, recorded, whole⟩
    have isPending : turn.before.flow? = some flow := brings.fits.1
    rcases pin_of_records records recorded with ⟨tofu, network, held, worked⟩
    rcases Option.map_eq_some_iff.mp held with ⟨pending, has, rfl⟩
    rcases reached.sinceStart rfl isPending with
      ⟨earlier, start, between, cutPast, starts, started, unstarted, taken⟩
    rw [held] at taken
    refine ⟨⟨flow, isPending, tofu, network, outcomes, earlier, start, between, cutPast, starts,
      started, unstarted, taken⟩, ?_⟩
    intro isOk
    rcases worked isOk with ⟨joined, rfl⟩
    have coherent := (reached.coherent (coherent_of_fresh settings)).flow flow isPending
    rw [whole] at answers
    exact hasPinned_of_answered (coherent.readable pending has).2 answers
  · intro turn mem first second moment handle dialog cut answers current tofu
    rcases exists_reached_of_mem mem with ⟨past, reached, performed⟩
    rcases performs_of_eq_turn performed with ⟨effect, brings, makes, _⟩
    rw [cut] at makes
    have showsIn := (showsIn_slotSite others).storeSite
    have onScreen := reached.onScreen showsIn (by simp [OnScreen])
    rcases OnScreen.during showsIn onScreen brings.fits makes answers current with
      ⟨flow, asDialog, isPending, prompts⟩
    rcases Flow.eq_tofuDialog_of_prompt? prompts tofu with ⟨policy, pending, held, rfl⟩
    have coherent := (reached.coherent (coherent_of_fresh settings)).flow flow isPending
    refine ⟨flow, pending.certificate, isPending, policy,
      shows_tofuDialog flow.ssid (coherent.readable pending held).2, ?_⟩
    intro site
    exact changes_of_accept reply site isPending policy held rfl rfl rfl

section Pinned

/-- The operations by which a user approves a network in the dialog about its certificate. -/
def approvalByDialog : List Operation := [
  .prepare (newcomer 5 "corp"), .offer "corp" (radius [1]), .request true,
  .respond ⟨"corp", .accept, .dialog⟩]

/-- The approval over a store that has the network, with a disk that works. -/
def approvedByDialog : List (Turn (StoreSite (SlotSite Surroundings))) :=
  history (StoreSite.reply (SlotSite.reply Surroundings.reply)) { settings := ⟨true, "wlan0", ""⟩ }
    { store := .ofList [newcomer 5 "corp"], rest := { rest := {} } } approvalByDialog

/-- What was pinned, if that worked. -/
def pinned? : Exchange.Event GateReply → Option (NetworkId × ServerCertificate)
  | ⟨.update id (.pin certificate), .ok ()⟩ => some (id, certificate)
  | _ => none

theorem mem_of_pinned? {transcript : Transcript} {id : NetworkId} {certificate : ServerCertificate}
    (pinned : (id, certificate) ∈ transcript.filterMap pinned?) :
    ⟨.update id (.pin certificate), .ok ()⟩ ∈ transcript := by
  obtain ⟨event, mem, found⟩ := List.mem_filterMap.mp pinned
  unfold pinned? at found
  split at found <;> cases found
  exact mem

/-- The dialog is on screen until it is accepted, and shows what is in the store afterwards. -/
theorem certificate_of_dialog_pinned :
    ∃ turn ∈ approvedByDialog, turn.outcomes = [.accepted "corp"] ∧
      (∃ handle dialog, turn.earlier.rest.slot.current? = some (handle, .dialog dialog) ∧
        dialog.policy = .tofu ∧ dialog.Shows (radius [1])) ∧
      turn.later.store.HasPinned 5 (radius [1]) := by
  obtain ⟨pinned, shown⟩ := pinned_as_offered_and_shown Surroundings.reply ⟨true, "wlan0", ""⟩
    (.ofList [newcomer 5 "corp"]) {} [] [] {} approvalByDialog
  have mem : _ ∈ approvedByDialog := .tail _ (.tail _ (.tail _ (.head _)))
  refine ⟨_, mem, by decide +kernel, ?_, ?_⟩
  · obtain ⟨flow, certificate, isPending, _, shows, accepts⟩ :=
      shown _ mem [] _ _ _ _ rfl rfl rfl rfl
    have asked : some (flow.networkId, Store.Change.pin certificate) =
        some (5, .pin (radius [1])) :=
      (accepts { store := {}, rest := { rest := {} } }).symm.trans (by decide +kernel)
    simp only [Option.some.injEq, Prod.mk.injEq, Store.Change.pin.injEq] at asked
    obtain ⟨-, rfl⟩ := asked
    exact ⟨_, _, rfl, rfl, shows⟩
  · exact (pinned [_, _, _] _ [] 5 (radius [1]) (.ok ()) rfl
      (mem_of_pinned? (by decide +kernel))).2 rfl

end Pinned

end Gate

end TrustGate
