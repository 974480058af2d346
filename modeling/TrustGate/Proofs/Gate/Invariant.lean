import TrustGate.Gate.Surroundings
import TrustGate.Proofs.Gate.History

/-!
# What holds of a gate at all times

Between its operations a gate has a prompt on the surface just while it awaits
an answer, listens to the notifications of its flow, works under the policy that
the device allows, and asks about a certificate only when it has one whose names
it could read. `Coherent` collects this, and `Reached.coherent` says that a
coherent gate stays so whatever it is asked to do and whatever is replied. The
main statement spells out what this means for a gate that began fresh.
-/

namespace TrustGate

/-- The policy of all approvals on a device. -/
def TrustPolicy.ofDevice (tofuSupported : Bool) : TrustPolicy :=
  if tofuSupported then .tofu else .legacy

theorem policy_of_approvalNeed {profile : NetworkProfile} {tofuSupported : Bool}
    {policy : TrustPolicy}
    (needed : (profile.approvalNeed tofuSupported).policy? = some policy) :
    policy = .ofDevice tofuSupported := by
  unfold NetworkProfile.approvalNeed Enterprise.approvalNeed at needed
  cases tofuSupported <;> grind [ApprovalNeed.policy?, TrustPolicy.ofDevice]

open DistinguishedName in
theorem SubjectInfo.commonName_ne_empty_of_parse {name : String} {info : SubjectInfo}
    (parsed : parse name = .ok info) : info.commonName ≠ "" := by
  unfold parse at parsed
  cases read : (components name.toList).foldlM addComponent
    { raw := String.ofList (unescape name.toList) } with
  | error error => simp [read, bind, Except.bind] at parsed
  | ok found =>
      simp only [read, bind, Except.bind] at parsed
      split at parsed
      · cases parsed
      · next named =>
          cases parsed
          simpa using named

theorem ofDevice_eq_tofu_iff {tofuSupported : Bool} :
    TrustPolicy.ofDevice tofuSupported = .tofu ↔ tofuSupported = true := by
  cases tofuSupported <;> simp [TrustPolicy.ofDevice]

/-- The flow is one that a gate with these settings may hold while it listens to the notifications
of a policy. -/
structure Flow.Coherent (flow : Flow) (settings : GateSettings)
    (registration? : Option TrustPolicy) : Prop where
  registered : registration? = some flow.policy
  policy : flow.policy = .ofDevice settings.tofuSupported
  requires : flow.connection.requiresCaCertificate = true
  certified : flow.stage = .approval → Gate.lacksCertificate flow = false
  readable : ∀ pending, flow.certificate? = some pending →
    flow.ssid ≠ "" ∧ Gate.readCertificate? pending.certificate = some pending

namespace Gate

variable {σ : Type} {respond : (call : GateCall) → σ → GateReply call × σ}

/-- The parts of the gate agree with one another. -/
structure Coherent (gate : Gate) : Prop where
  prompted : gate.prompt?.isSome = true ↔ gate.state = .awaitingApproval
  flow : ∀ flow, gate.flow? = some flow → flow.Coherent gate.settings gate.registration?

theorem state_eq_idle_iff {gate : Gate} : gate.state = .idle ↔ gate.flow? = none := by
  unfold state FlowState.ofFlow?
  split
  · next idle => simp [idle]
  · next flow isPending => split <;> simp [isPending]

theorem state_eq_awaitingApproval_iff {gate : Gate} :
    gate.state = .awaitingApproval ↔ ∃ flow, gate.flow? = some flow ∧ flow.stage = .approval := by
  unfold state FlowState.ofFlow?
  split
  · next idle => simp [idle]
  · next flow isPending => cases stage : flow.stage <;> simp [isPending, stage]

theorem coherent_of_fresh (settings : GateSettings) : Coherent { settings } where
  prompted := by simp [state, FlowState.ofFlow?]
  flow := by simp

/-- A gate without a flow and without a prompt is coherent. -/
theorem coherent_of_idle {gate : Gate} (idle : gate.flow? = none) (clear : gate.prompt? = none) :
    gate.Coherent where
  prompted := by simp [state_eq_awaitingApproval_iff, idle, clear]
  flow := by simp [idle]

/-- Only a flow that awaits an answer has been shown. -/
theorem Coherent.prompt?_eq_none {gate : Gate} (coherent : gate.Coherent) {flow : Flow}
    (isPending : gate.flow? = some flow) (lacks : lacksCertificate flow = true) :
    gate.prompt? = none := by
  rw [← Option.not_isSome_iff_eq_none, coherent.prompted, state_eq_awaitingApproval_iff]
  rintro ⟨current, currentPending, awaiting⟩
  have same : current = flow := Option.some.inj (currentPending.symm.trans isPending)
  subst same
  simp [(coherent.flow current isPending).certified awaiting] at lacks

theorem Coherent.after {gate : Gate} (coherent : gate.Coherent) {effect : Effect}
    (fits : effect.Fits gate) : (effect.after gate).Coherent := by
  cases effect with
  | nothing => exact coherent
  | dismissed =>
      rcases fits with ⟨flow, isPending, lacks⟩
      have same : Effect.dismissed.after gate = gate := by
        rw [Effect.after, ← coherent.prompt?_eq_none isPending lacks]
      exact same ▸ coherent
  | dropped trusted? => exact coherent_of_idle (flow?_retire gate) rfl
  | started profile policy =>
      refine ⟨by simp [Effect.after, state_eq_awaitingApproval_iff, Flow.ofProfile], ?_⟩
      intro flow isPending
      cases isPending
      exact {
        registered := rfl
        policy := (policy_of_approvalNeed fits).trans (by simp [Effect.after])
        requires := @ApprovalNeed.isRequired_of_policy? (.required policy) policy rfl
        certified := by simp [Flow.ofProfile]
        readable := by simp [Flow.ofProfile] }
  | kept flow pending =>
      rcases fits with ⟨isPending, lacked, named, readable⟩
      have before := coherent.flow flow isPending
      refine ⟨?_, ?_⟩
      · simpa [Effect.after, state_eq_awaitingApproval_iff, isPending] using coherent.prompted
      · intro current currentPending
        cases currentPending
        exact { before with
          certified := fun _ => by simp [lacksCertificate]
          readable := fun kept same => by
            cases same
            exact ⟨named, readable⟩ }
  | presented flow prompt handle =>
      rcases fits with ⟨isPending, has, _⟩
      refine ⟨by simp [Effect.after, state_eq_awaitingApproval_iff], ?_⟩
      intro current currentPending
      cases currentPending
      exact { coherent.flow flow isPending with certified := fun _ => has }
  | failed | accepted | rejected => exact coherent_of_idle rfl rfl

theorem Reached.coherent {first gate : Gate} {initial surroundings : σ} {past : List (Turn σ)}
    (reached : Reached respond first initial past gate surroundings)
    (coherent : first.Coherent) : gate.Coherent := by
  induction reached with
  | start => exact coherent
  | @turn _ gate surroundings _ operation ih =>
      rcases performs_turn respond gate surroundings operation with
        ⟨effect, brings, _, after⟩
      rw [after]
      exact ih.after brings.fits

/-- Whatever a fresh gate has been asked to do and whatever was replied, it holds a prompt just
while it awaits an answer. A pending flow has the policy of the device, and its notifications are
the ones that are listened to; its server has to prove its identity. A certificate is there when the
user is asked about one, it is held for a network with a name, and the names kept with it are those
that its own subject and issuer give, neither of them empty. -/
theorem coherent_of_reached_from_fresh {settings : GateSettings} {initial surroundings : σ}
    {past : List (Turn σ)} {gate : Gate}
    (reached : Reached respond { settings } initial past gate surroundings) :
    (gate.prompt?.isSome = true ↔ gate.state = .awaitingApproval) ∧
    ∀ flow, gate.flow? = some flow →
      gate.registration? = some flow.policy ∧
      (flow.policy = .tofu ↔ settings.tofuSupported = true) ∧
      flow.connection.requiresCaCertificate = true ∧
      (flow.policy = .tofu → gate.state = .awaitingApproval → flow.certificate?.isSome = true) ∧
      ∀ pending, flow.certificate? = some pending →
        flow.ssid ≠ "" ∧
        SubjectInfo.parse pending.certificate.subject = .ok pending.subject ∧
        SubjectInfo.parse pending.certificate.issuer = .ok pending.issuer ∧
        pending.subject.commonName ≠ "" ∧ pending.issuer.commonName ≠ "" := by
  have coherent : gate.Coherent := reached.coherent (coherent_of_fresh settings)
  refine ⟨coherent.prompted, fun flow isPending => ?_⟩
  have parts := coherent.flow flow isPending
  rw [reached.settings_eq] at parts
  refine ⟨parts.registered, ?policy, parts.requires, ?certified, ?readable⟩
  case policy => exact parts.policy ▸ ofDevice_eq_tofu_iff
  case certified =>
    intro tofu awaiting
    rcases state_eq_awaitingApproval_iff.mp awaiting with ⟨current, currentPending, shown⟩
    cases isPending.symm.trans currentPending
    have has : lacksCertificate flow = false := parts.certified shown
    simpa [lacksCertificate, tofu, Option.isSome_iff_ne_none] using has
  case readable =>
    intro pending held
    rcases parts.readable pending held with ⟨named, readable⟩
    rcases parsed_of_readCertificate? readable with ⟨_, subject, issuer⟩
    exact ⟨named, subject, issuer, SubjectInfo.commonName_ne_empty_of_parse subject,
      SubjectInfo.commonName_ne_empty_of_parse issuer⟩

/-- A gate that has shown a dialog about a certificate holds the prompt and the certificate. -/
theorem dialog_shown_with_certificate :
    ∃ past gate surroundings,
      Reached Surroundings.reply { settings := ⟨true, "wlan0", ""⟩ } {} past gate surroundings ∧
        gate.state = .awaitingApproval ∧ gate.prompt?.isSome = true ∧
        ∃ flow, gate.flow? = some flow ∧ flow.policy = .tofu ∧ flow.certificate?.isSome = true := by
  have reached : Reached Surroundings.reply { settings := ⟨true, "wlan0", ""⟩ } {} _ _ _ :=
    ((Reached.start.turn (.prepare (newcomer 5 "corp"))).turn (.offer "corp" (radius [1]))).turn
      (.request true)
  rcases coherent_of_reached_from_fresh reached with ⟨prompted, flows⟩
  refine ⟨_, _, _, reached, rfl, prompted.mpr rfl, _, rfl, rfl, ?_⟩
  exact (flows _ rfl).2.2.2.1 rfl rfl

end Gate

end TrustGate
