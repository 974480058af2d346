import TrustGate.Gate.Surroundings
import TrustGate.Proofs.Gate.StoreSite

/-!
# What changes trust

A gate over a store changes the store only when an answer of the user ends the
pending flow, and then only the profile of that flow's network. `Amends` lists
what may become of the profile. The changes of one answer may fail one by one,
so each of them is made or not.
-/

namespace TrustGate

namespace Gate

/-- What an answer that ends a flow may make of the profile of its network. -/
inductive Amends (flow : Flow) (transcript : Transcript) (profile : NetworkProfile) :
    TrustOutcome → NetworkProfile → Prop
  | rejected (parted : Bool) :
      Amends flow transcript profile (.rejected flow.ssid)
        (Store.Change.amendIf (.setAutoConnect false) parted profile)
  | remembered (legacy : flow.policy = .legacy) (approved joined : Bool) :
      Amends flow transcript profile (.accepted flow.ssid)
        (Store.Change.amendIf (.setAutoConnect true) joined
          (Store.Change.amendIf (.setApproved true) approved profile))
  | pinned {pending : PendingCertificate} (tofu : flow.policy = .tofu)
      (certificate : flow.certificate? = some pending)
      (installed : ⟨.update flow.networkId (.pin pending.certificate), .ok ()⟩ ∈ transcript)
      (joined : Bool) :
      Amends flow transcript profile (.accepted flow.ssid)
        (Store.Change.amendIf (.setAutoConnect true) joined
          (Store.Change.amend (.pin pending.certificate) profile))
  | unpinned {pending : PendingCertificate} (tofu : flow.policy = .tofu)
      (certificate : flow.certificate? = some pending) (error : Store.Error)
      (failed : ⟨.update flow.networkId (.pin pending.certificate), .error error⟩ ∈ transcript)
      (disapproved disabled joined : Bool) :
      Amends flow transcript profile (.accepted flow.ssid)
        (Store.Change.amendIf (.setAutoConnect true) joined
          (Store.Change.amendIf (.setTofu false) disabled
            (Store.Change.amendIf (.setApproved false) disapproved profile)))

section Answer

variable {gate : Gate} {flow : Flow} {transcript : Transcript}

theorem amends_of_records {record : Transcript} (records : Records flow record)
    (within : record ⊆ transcript) (profile : NetworkProfile) :
    Amends flow transcript profile (.accepted flow.ssid)
      (amendment flow.networkId record profile) := by
  cases records with
  | pinned tofu certificate joined =>
      rw [amendment_cons, amendment_cons, amended_update, amended_update]
      exact .pinned tofu certificate (within (.head _)) joined.isOk
  | unpinned tofu certificate error disapproved disabled joined =>
      rw [amendment_cons, amendment_cons, amendment_cons, amendment_cons]
      simp only [amended_update]
      exact .unpinned tofu certificate error (within (.head _)) disapproved.isOk disabled.isOk
        joined.isOk
  | remembered legacy approved joined =>
      rw [amendment_cons, amendment_cons, amended_update, amended_update]
      exact .remembered legacy approved.isOk joined.isOk

theorem networkId_of_records {record : Transcript} (records : Records flow record) :
    ∀ change ∈ seen changed? record, change.1 = flow.networkId := by
  cases records <;> simp [changed?]

theorem changes_of_accepted (makes : (Effect.accepted flow).Makes gate transcript) :
    ∀ change ∈ seen changed? transcript, change.1 = flow.networkId := by
  cases makes with
  | accepted records =>
      simpa [seen_dismissal changed? gate fun _ => rfl, changed?] using
        networkId_of_records records

theorem changes_of_rejected (makes : (Effect.rejected flow).Makes gate transcript) :
    ∀ change ∈ seen changed? transcript, change.1 = flow.networkId := by
  cases makes with
  | rejected joined drops =>
      simp [seen_dismissal changed? gate fun _ => rfl,
        seen_of_drops changed? drops (fun _ => rfl) fun _ => rfl, changed?]

theorem amends_of_accepted (makes : (Effect.accepted flow).Makes gate transcript)
    (profile : NetworkProfile) :
    Amends flow transcript profile (.accepted flow.ssid)
      (amendment flow.networkId transcript profile) := by
  cases makes with
  | accepted records =>
      rw [amendment_append, amendment_report, amendment_append, amendment_dismissal]
      exact amends_of_records records (by simp) profile

theorem amends_of_rejected (makes : (Effect.rejected flow).Makes gate transcript)
    (profile : NetworkProfile) :
    Amends flow transcript profile (.rejected flow.ssid)
      (amendment flow.networkId transcript profile) := by
  cases makes with
  | @rejected _ drop joined drops =>
      have dropped : ∀ profile, amendment flow.networkId drop profile = profile := fun profile =>
        amendment_of_unchanged _ profile
          (by simp [seen_of_drops changed? drops (fun _ => rfl) fun _ => rfl])
      rw [amendment_append, amendment_report, amendment_append, amendment_dismissal,
        amendment_cons, dropped, amended_update]
      exact .rejected joined.isOk

/-- The calls of an answer reach the profile of its network and no other. -/
theorem amends_of_answered {ρ : Type} {others : (call : GateCall) → ρ → GateReply call × ρ}
    {site later : StoreSite ρ} {outcome : TrustOutcome}
    (answered : Exchange.Answered (StoreSite.reply others) site transcript later)
    (own : ∀ change ∈ seen changed? transcript, change.1 = flow.networkId)
    (amends : ∀ profile, Amends flow transcript profile outcome
      (amendment flow.networkId transcript profile)) :
    (∀ id, id ≠ flow.networkId → later.store.get? id = site.store.get? id) ∧
      ∀ profile, site.store.get? flow.networkId = some profile →
        ∃ amended, later.store.get? flow.networkId = some amended ∧
          Amends flow transcript profile outcome amended := by
  refine ⟨fun id other => ?_, fun profile found => ⟨_, ?_, amends profile⟩⟩
  · rw [get?_of_answered answered]
    cases found : site.store.get? id with
    | none => rfl
    | some profile =>
        have unchanged : ∀ change, (id, change) ∉ seen changed? transcript :=
          fun change asked => other (own _ asked)
        exact congrArg some (amendment_of_unchanged id profile unchanged)
  · rw [get?_of_answered answered, found]
    rfl

end Answer

/-- In a history over a store no operation changes which networks are stored, how they are called
or how they authenticate users. The store stays as it is unless the operation is a response that
ends the pending flow by an acceptance or a refusal; then the profiles of all other networks stay,
and the one of the flow's network is amended as the outcome and the policy allow. -/
theorem trust_changes_by_resolution_only {ρ : Type}
    {others : (call : GateCall) → ρ → GateReply call × ρ} {settings : GateSettings}
    {site : StoreSite ρ} {operations : List Operation} {turn : Turn (StoreSite ρ)}
    (mem : turn ∈ history (StoreSite.reply others) { settings } site operations) :
    (∀ id, (turn.later.store.get? id).map NetworkProfile.fixed =
      (turn.earlier.store.get? id).map NetworkProfile.fixed) ∧
    (turn.later.store = turn.earlier.store ∨
      ∃ response flow outcome, turn.operation = .respond response ∧
        response.ssid? = some flow.ssid ∧ turn.before.flow? = some flow ∧
        turn.after.flow? = none ∧ turn.outcomes = [outcome] ∧
        (response.action = .accept ∧ outcome = .accepted flow.ssid ∨
          response.action = .reject ∧ outcome = .rejected flow.ssid) ∧
        (∀ id, id ≠ flow.networkId → turn.later.store.get? id = turn.earlier.store.get? id) ∧
        ∀ profile, turn.earlier.store.get? flow.networkId = some profile →
          ∃ amended, turn.later.store.get? flow.networkId = some amended ∧
            Amends flow turn.transcript profile outcome amended) := by
  rcases exists_reached_of_mem mem with ⟨_, _, performed⟩
  have answered := answered_of_eq_turn performed
  refine ⟨fun id => ?_, ?_⟩
  · rw [get?_of_answered answered, Option.map_map]
    exact Option.map_congr fun profile _ => fixed_amendment id profile turn.transcript
  · rcases performs_of_eq_turn performed with ⟨effect, brings, makes, after⟩
    have reports := reports_of_makes makes
    cases effect with
    | accepted flow =>
        rcases brings.of_accepted with ⟨response, responded, accepts, current, isPending⟩
        refine .inr ⟨response, flow, _, responded, current, isPending, by rw [after]; rfl, reports,
          .inl ⟨accepts, rfl⟩, ?_⟩
        exact amends_of_answered answered (changes_of_accepted makes) (amends_of_accepted makes)
    | rejected flow =>
        rcases brings.of_rejected with ⟨response, responded, rejects, current, isPending⟩
        refine .inr ⟨response, flow, _, responded, current, isPending, by rw [after]; rfl, reports,
          .inr ⟨rejects, rfl⟩, ?_⟩
        exact amends_of_answered answered (changes_of_rejected makes) (amends_of_rejected makes)
    | _ => exact .inl (store_of_answered answered (changes_of_makes makes id))

section FailedPin

/-- A network is approved while the disk fails at the first save, so its certificate is not
pinned. -/
def failedPin : List (Turn (StoreSite Surroundings)) :=
  history (StoreSite.reply Surroundings.reply) { settings := ⟨true, "wlan0", ""⟩ }
    { store := .ofList [newcomer 5 "corp", newcomer 9 "lab"], faults := [some .rename],
      rest := {} } [
      .prepare (newcomer 5 "corp"), .offer "corp" (radius [1]), .request true,
      .respond ⟨some "corp", .accept, .dialog⟩]

/-- The acceptance after a failed pin changes the store, but no other network in it. The certificate
that could not be saved is not in the store either. -/
theorem failed_pin_keeps_other_networks :
    ∃ turn ∈ failedPin, turn.later.store ≠ turn.earlier.store ∧
      ∃ flow, turn.before.flow? = some flow ∧
        turn.later.store.hasValidTrust flow.networkId = false ∧
        ∀ id, id ≠ flow.networkId → turn.later.store.get? id = turn.earlier.store.get? id := by
  have mem : _ ∈ failedPin := .tail _ (.tail _ (.tail _ (.head _)))
  refine ⟨_, mem, ?changed, ?_⟩
  case changed => decide
  rcases (trust_changes_by_resolution_only mem).2.resolve_left (by decide) with
    ⟨_, flow, _, _, _, isPending, _, _, _, others, _⟩
  refine ⟨flow, isPending, ?_, others⟩
  cases isPending
  rfl

end FailedPin

end Gate

end TrustGate
