import TrustGate.Proofs.Addressing
import TrustGate.Proofs.Gate.NextAttempt

/-!
# Evaluations and the gate

What a user is told of a saved network is what the gate does when a connection to it
is tried. Both ask first whether the profile needs an approval, and then whether the
store has an authority for the network. The second question is about the stored
profile, and the profile that an argument finds is the stored one, since each profile
is kept under its own number. So its answer is known by then: a stored profile with an
authority needs no approval in the first place.
-/

namespace TrustGate

/-! ## What is told of a stored profile -/

/-- What is told where the policy alone decides. -/
def Evaluation.ofNeed : ApprovalNeed → Evaluation
  | .exempt reason => .exempt reason
  | .required policy => .required policy

theorem Evaluation.ofNeed_ne_trusted (need : ApprovalNeed) : ofNeed need ≠ trusted := by
  cases need <;> simp [ofNeed]

theorem Evaluation.ofNeed_eq_required_iff {need : ApprovalNeed} {policy : TrustPolicy} :
    ofNeed need = required policy ↔ need.policy? = some policy := by
  cases need <;> simp [ofNeed, ApprovalNeed.policy?]

/-- All that can be told of a network. -/
def Evaluation.all : List Evaluation := [
  .exempt .notEnterprise, .exempt .noServerCertificate, .exempt .caCertificatePresent,
  .exempt .tofuDisabled, .exempt .previouslyApproved, .trusted, .required .tofu, .required .legacy]

theorem Evaluation.mem_all (evaluation : Evaluation) : evaluation ∈ all := by
  rcases evaluation with ⟨⟨⟩⟩ | _ | ⟨⟨⟩⟩ <;> decide

/-- Different evaluations read differently. -/
theorem Evaluation.text_injective : Function.Injective Evaluation.text := by
  have apart : ∀ evaluation ∈ all, ∀ other ∈ all,
      evaluation.text = other.text → evaluation = other := by decide +kernel
  exact fun evaluation other => apart evaluation evaluation.mem_all other other.mem_all

namespace Store

/-- Of a stored profile the policy alone decides. -/
theorem evaluate_of_stored {store : Store} {profile : NetworkProfile}
    (stored : store.get? profile.networkId = some profile) (tofuSupported : Bool) :
    store.evaluate profile tofuSupported = .ofNeed (profile.approvalNeed tofuSupported) := by
  unfold evaluate
  cases needed : profile.approvalNeed tofuSupported with
  | exempt reason => rfl
  | required policy =>
      have asks : profile.asks tofuSupported = true := by
        rw [NetworkProfile.asks, needed]
        rfl
      simp [Gate.hasValidTrust_of_asks stored asks, Evaluation.ofNeed]

end Store

/-! ## What the gate does with it -/

namespace Gate

variable {ρ : Type} {others : (call : GateCall) → ρ → GateReply call × ρ}

/-- An attempt with a stored profile starts the flow for which the policy asks. -/
theorem flow?_of_prepare_stored (gate : Gate) {site : StoreSite ρ} {profile : NetworkProfile}
    (stored : site.store.get? profile.networkId = some profile) {policy : TrustPolicy}
    (needed : (profile.approvalNeed gate.settings.tofuSupported).policy? = some policy) :
    (gate.turn (StoreSite.reply others) site (.prepare profile)).after.flow? =
      some (.ofProfile profile policy) := by
  have result :
      (gate.turn (StoreSite.reply others) site (.prepare profile)).result = some true := by
    rw [result_of_prepare_stored gate stored, NetworkProfile.asks, needed]
    rfl
  have performs := performs_turn (StoreSite.reply others) gate site (.prepare profile)
  rw [result] at performs
  rcases performs with ⟨effect, brings, -, after⟩
  cases brings with
  | started same =>
      obtain rfl := Option.some.inj (needed.symm.trans same)
      exact congrArg Gate.flow? after

end Gate

namespace Store

variable {ρ : Type} {others : (call : GateCall) → ρ → GateReply call × ρ}

/-- From any folder that opens, after any operations on the store and in any state of a gate over
it: opening the folder again gives the store that the gate uses, so it makes no difference which of
them is asked. Of a network that an argument finds the user is told that an approval is needed just
if an attempt with its profile starts a flow, and the flow is for this network and under the policy
that was told. That the store has an authority is never told of such a network. -/
theorem evaluation_agrees_with_gate {folder : Folder} {opened : Store}
    (opens : ofFolder folder = .ok opened) {calls : List Call} {now : InUse}
    (reached : InUse.performAll ⟨opened, folder⟩ calls = now) {argument : String}
    {profile : NetworkProfile} (resolved : now.store.resolve? argument = some profile)
    {gate : Gate} {site : StoreSite ρ} (same : site.store = now.store) :
    let text := (now.store.evaluate profile gate.settings.tofuSupported).text
    let turn := gate.turn (StoreSite.reply others) site (.prepare profile)
    ofFolder now.folder = .ok now.store ∧
      ((∃ policy : TrustPolicy, text = "Approval needed under policy: " ++ policy.name) ↔
        turn.result = some true) ∧
      (∀ policy : TrustPolicy, text = "Approval needed under policy: " ++ policy.name →
        ∃ flow, turn.after.flow? = some flow ∧ flow.policy = policy ∧
          flow.ssid = profile.ssid ∧ flow.networkId = profile.networkId) ∧
      text ≠ "No approval needed: a trusted certificate is stored" := by
  have agrees : now.Agrees := reached ▸ (InUse.agrees_of_opened opens).performAll calls
  have stored := get?_of_resolve? resolved
  have kept : site.store.get? profile.networkId = some profile := same ▸ stored
  intro text turn
  have evaluated : text =
      (Evaluation.ofNeed (profile.approvalNeed gate.settings.tofuSupported)).text :=
    congrArg Evaluation.text (evaluate_of_stored stored _)
  have told (policy : TrustPolicy) : text = "Approval needed under policy: " ++ policy.name ↔
      (profile.approvalNeed gate.settings.tofuSupported).policy? = some policy := by
    rw [evaluated, ← Evaluation.ofNeed_eq_required_iff]
    exact Evaluation.text_injective.eq_iff (b := .required policy)
  refine ⟨agrees, ?started, ?flow, ?untold⟩
  case started =>
    have result : turn.result = some (profile.asks gate.settings.tofuSupported) :=
      Gate.result_of_prepare_stored gate kept
    simp only [told, result, NetworkProfile.asks, Option.some.injEq, Option.isSome_iff_exists]
  case flow =>
    intro policy tells
    exact ⟨_, gate.flow?_of_prepare_stored kept ((told policy).mp tells), rfl, rfl, rfl⟩
  case untold =>
    rw [evaluated]
    exact Evaluation.text_injective.ne (Evaluation.ofNeed_ne_trusted _)

/-- Two networks of one name. -/
def twins : List NetworkProfile :=
  [Gate.newcomer 5 "corp", Gate.newcomer 9 "corp"]

def twinsFolder : Folder where
  profiles := .file (Utf8.encodeString (NetworkProfile.listText twins))

/-- A gate that cannot pin, while the flow of one of the twins is pending. -/
def busyGate : Gate where
  settings := ⟨false, "wlan0", ""⟩
  flow? := some (.ofProfile (Gate.newcomer 5 "corp") .legacy)
  registration? := some .legacy

/-- The network of the pending flow has been approved meanwhile, and the other is tried. -/
theorem told_and_asked_of_other_twin :
    let approve : Call := { operation := .update 5 (.setApproved true) }
    let now := InUse.performAll ⟨ofList twins, twinsFolder⟩ [approve]
    let turn := busyGate.turn (StoreSite.reply Surroundings.reply)
      { store := now.store, rest := {} } (.prepare (Gate.newcomer 9 "corp"))
    ofFolder twinsFolder = .ok (ofList twins) ∧
      ofFolder now.folder = .ok now.store ∧
      now.store.resolve? "+09" = some (Gate.newcomer 9 "corp") ∧
      (now.store.evaluate (Gate.newcomer 9 "corp") false).text =
        "Approval needed under policy: legacy" ∧
      turn.result = some true ∧ ∃ flow, turn.after.flow? = some flow ∧ flow.networkId = 9 := by
  intro approve now turn
  have opens : ofFolder twinsFolder = .ok (ofList twins) := ofFolder_of_file rfl
  have resolved : now.store.resolve? "+09" = some (Gate.newcomer 9 "corp") := by decide +kernel
  have told : (now.store.evaluate (Gate.newcomer 9 "corp") false).text =
      "Approval needed under policy: legacy" := by decide +kernel
  rcases @evaluation_agrees_with_gate _ Surroundings.reply _ _ opens [approve] now rfl _ _ resolved
    busyGate { store := now.store, rest := {} } rfl with ⟨again, started, flow, -⟩
  rcases flow .legacy told with ⟨pending, found, -, -, network⟩
  exact ⟨opens, again, resolved, told, started.mp ⟨.legacy, told⟩, pending, found, network⟩

end Store

end TrustGate
