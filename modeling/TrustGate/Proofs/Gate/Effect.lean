import TrustGate.Gate.Basic
import TrustGate.Proofs.Exchange

/-!
# What the operations of a gate do

Every operation of a gate has one of nine effects. This file names them, says
which operation has which effect under which condition (`Gate.Brings`), what
calls an effect makes (`Gate.Effect.Makes`) and how it leaves the gate
(`Gate.Effect.after`). The main statement `Gate.performs_of_yields` says that
an operation comes to nothing else, whatever the replies are; proofs about runs
go by the cases of `Effect` and do not open the operations again.
-/

namespace TrustGate

/-- The prompt about a flow: its dialog, if it can have one, or its notification. -/
def Flow.prompt? (flow : Flow) (asDialog : Bool) (helpLink : String) : Option Prompt :=
  if asDialog then (Dialog.ofFlow? flow.connection flow.certificate? helpLink).map .dialog
  else some (.notification (.ofFlow flow.connection helpLink))

/-- The flow that a profile starts which has to be approved under a policy. -/
def Flow.ofProfile (profile : NetworkProfile) (policy : TrustPolicy) : Flow where
  connection :=
    ⟨⟨profile.ssid, profile.networkId⟩, (ApprovalNeed.required policy).isRequired, policy⟩

namespace Gate

/-- The calls of an operation with their replies. -/
abbrev Transcript :=
  List (Exchange.Event GateReply)

/-- The calls that take the prompt away. -/
def dismissal (gate : Gate) : Transcript :=
  match gate.prompt? with
  | none => []
  | some handle => [⟨.dismiss handle, ()⟩]

/-- The calls that drop the session of a network, if one is given, and the credentials of an
interface, with any replies. -/
inductive Drops (interface : String) : Option NetworkId → Transcript → Prop
  | all (forgot : Bool) : Drops interface none [⟨.forgetCredentials interface, forgot⟩]
  | network (id : NetworkId) (ended forgot : Bool) :
      Drops interface (some id)
        [⟨.invalidateSession id, ended⟩, ⟨.forgetCredentials interface, forgot⟩]

/-- The calls that write down an approval, with any replies. -/
inductive Records (flow : Flow) : Transcript → Prop
  | pinned {pending : PendingCertificate} (tofu : flow.policy = .tofu)
      (certificate : flow.certificate? = some pending) (joined : Except Store.Error Unit) :
      Records flow
        [⟨.update flow.networkId (.pin pending.certificate), .ok ()⟩,
          ⟨.update flow.networkId (.setAutoConnect true), joined⟩]
  | unpinned {pending : PendingCertificate} (tofu : flow.policy = .tofu)
      (certificate : flow.certificate? = some pending) (error : Store.Error)
      (approved enabled joined : Except Store.Error Unit) :
      Records flow
        [⟨.update flow.networkId (.pin pending.certificate), .error error⟩,
          ⟨.update flow.networkId (.setApproved false), approved⟩,
          ⟨.update flow.networkId (.setTofu false), enabled⟩,
          ⟨.update flow.networkId (.setAutoConnect true), joined⟩]
  | remembered (legacy : flow.policy = .legacy) (approved joined : Except Store.Error Unit) :
      Records flow
        [⟨.update flow.networkId (.setApproved true), approved⟩,
          ⟨.update flow.networkId (.setAutoConnect true), joined⟩]

/-- What an operation does to a gate and to what surrounds it. -/
inductive Effect
  | nothing
  /-- The prompt is taken away and the flow stays. -/
  | dismissed
  /-- What there is of a flow is given up without a report. The network is the one whose stored
  trust was looked up, if it was. -/
  | dropped (trusted? : Option NetworkId)
  | started (profile : NetworkProfile) (policy : TrustPolicy)
  /-- The flow keeps a certificate. -/
  | kept (flow : Flow) (pending : PendingCertificate)
  | presented (flow : Flow) (prompt : Prompt) (handle : PromptHandle)
  /-- What there is of a flow ends as an error, reported for a network if one is known. -/
  | failed (ssid? : Option String)
  | accepted (flow : Flow)
  | rejected (flow : Flow)

/-- The gate after an effect. -/
def Effect.after (gate : Gate) : Effect → Gate
  | nothing => gate
  | dismissed => { gate with prompt? := none }
  | dropped _ => { gate.retire with prompt? := none, registration? := none }
  | started profile policy =>
      { gate.retire with
        prompt? := none
        registration? := some policy
        flow? := some (.ofProfile profile policy) }
  | kept flow pending => { gate with flow? := some { flow with certificate? := some pending } }
  | presented flow _ handle =>
      { gate with flow? := some { flow with stage := .approval }, prompt? := some handle }
  | failed ssid? => { gate with flow? := none, prompt? := none, retired? := ssid? }
  | accepted flow => { gate with flow? := none, prompt? := none, retired? := some flow.ssid }
  | rejected flow => { gate with flow? := none, prompt? := none, retired? := some flow.ssid }

/-- The calls of an effect, with any replies. -/
inductive Effect.Makes (gate : Gate) : Effect → Transcript → Prop
  | nothing : Makes gate nothing []
  | dismissed : Makes gate dismissed gate.dismissal
  | dropped : Makes gate (dropped none) gate.dismissal
  | trusted (id : NetworkId) :
      Makes gate (dropped (some id)) (gate.dismissal ++ [⟨.hasValidTrust id, true⟩])
  | started {profile : NetworkProfile} {policy : TrustPolicy} {drop : Transcript}
      (drops : Drops gate.settings.interface (some profile.networkId) drop) :
      Makes gate (started profile policy)
        (gate.dismissal ++ ⟨.hasValidTrust profile.networkId, false⟩ :: drop)
  | kept {flow : Flow} {pending : PendingCertificate} : Makes gate (kept flow pending) []
  | presented {flow : Flow} {prompt : Prompt} {handle : PromptHandle} :
      Makes gate (presented flow prompt handle)
        (gate.dismissal ++ [⟨.present prompt, handle⟩])
  | failed {ssid? : Option String} {drop : Transcript}
      (drops : Drops gate.settings.interface (gate.flow?.map Flow.networkId) drop) :
      Makes gate (failed ssid?) (gate.dismissal ++ drop ++ [⟨.report (.errored ssid?), ()⟩])
  | accepted {flow : Flow} {record : Transcript} (records : Records flow record) :
      Makes gate (accepted flow)
        (gate.dismissal ++ record ++ [⟨.report (.accepted flow.ssid), ()⟩])
  | rejected {flow : Flow} {drop : Transcript} (joined : Except Store.Error Unit)
      (drops : Drops gate.settings.interface (some flow.networkId) drop) :
      Makes gate (rejected flow)
        (gate.dismissal ++ ⟨.update flow.networkId (.setAutoConnect false), joined⟩ :: drop ++
          [⟨.report (.rejected flow.ssid), ()⟩])

/-- The gate takes a certificate for the flow that is pending. -/
structure Takes (gate : Gate) (ssid : String) (certificate : ServerCertificate) (flow : Flow)
    (pending : PendingCertificate) : Prop where
  isPending : gate.flow? = some flow
  named : ssid ≠ ""
  current : flow.ssid = ssid
  first : flow.certificate? = none
  readable : readCertificate? certificate = some pending

/-- The gate listens to a response. Only actions of notifications have to be registered. -/
def Hears (gate : Gate) (response : Response) : Prop :=
  response.source = .notification → gate.listensTo response.action = true

/-- A response that comes while no flow is pending is a late one for the flow that ended last. -/
def IsLate (gate : Gate) (response : Response) : Prop :=
  response.ssid?.isSome ∧ response.ssid? = gate.retired?

/-- Which operation has which result and which effect. -/
inductive Brings (gate : Gate) : Operation → Option Bool → Effect → Prop
  | exempt {profile : NetworkProfile}
      (free : (profile.approvalNeed gate.settings.tofuSupported).policy? = none) :
      Brings gate (.prepare profile) (some false) (.dropped none)
  | trusted {profile : NetworkProfile} {policy : TrustPolicy}
      (needed : (profile.approvalNeed gate.settings.tofuSupported).policy? = some policy) :
      Brings gate (.prepare profile) (some false) (.dropped (some profile.networkId))
  | started {profile : NetworkProfile} {policy : TrustPolicy}
      (needed : (profile.approvalNeed gate.settings.tofuSupported).policy? = some policy) :
      Brings gate (.prepare profile) (some true) (.started profile policy)
  | declined {ssid : String} {certificate : ServerCertificate}
      (unfit : ∀ flow pending, ¬gate.Takes ssid certificate flow pending) :
      Brings gate (.offer ssid certificate) (some false) .nothing
  | kept {ssid : String} {certificate : ServerCertificate} {flow : Flow}
      {pending : PendingCertificate} (takes : gate.Takes ssid certificate flow pending) :
      Brings gate (.offer ssid certificate) (some true) (.kept flow pending)
  | unasked {userInitiated : Bool} (idle : gate.flow? = none) :
      Brings gate (.request userInitiated) (some false) .nothing
  | lacking {userInitiated : Bool} {flow : Flow} (isPending : gate.flow? = some flow)
      (lacks : lacksCertificate flow = true) :
      Brings gate (.request userInitiated) (some true) (.failed (some flow.ssid))
  | asked {userInitiated : Bool} {flow : Flow} {prompt : Prompt} (handle : PromptHandle)
      (isPending : gate.flow? = some flow) (has : lacksCertificate flow = false)
      (prompts : flow.prompt? userInitiated gate.settings.helpLink = some prompt) :
      Brings gate (.request userInitiated) (some true) (.presented flow prompt handle)
  | unheard {response : Response} (unheard : ¬gate.Hears response) :
      Brings gate (.respond response) none .nothing
  | stale {response : Response} {flow : Flow} (heard : gate.Hears response)
      (isPending : gate.flow? = some flow) (other : response.ssid? ≠ some flow.ssid) :
      Brings gate (.respond response) none .nothing
  | reviewedIdle {response : Response} (heard : gate.Hears response) (idle : gate.flow? = none)
      (review : response.action = .review) : Brings gate (.respond response) none .nothing
  | late {response : Response} (heard : gate.Hears response) (idle : gate.flow? = none)
      (decides : response.action ≠ .review) (late : gate.IsLate response) :
      Brings gate (.respond response) none .nothing
  | escalated {response : Response} (heard : gate.Hears response) (idle : gate.flow? = none)
      (decides : response.action ≠ .review) (unknown : ¬gate.IsLate response) :
      Brings gate (.respond response) none (.failed none)
  | unreviewable {response : Response} {flow : Flow} (heard : gate.Hears response)
      (isPending : gate.flow? = some flow) (current : response.ssid? = some flow.ssid)
      (review : response.action = .review) (lacks : lacksCertificate flow = true) :
      Brings gate (.respond response) none .dismissed
  | reviewed {response : Response} {flow : Flow} {prompt : Prompt} (handle : PromptHandle)
      (heard : gate.Hears response) (isPending : gate.flow? = some flow)
      (current : response.ssid? = some flow.ssid) (review : response.action = .review)
      (prompts : flow.prompt? true gate.settings.helpLink = some prompt) :
      Brings gate (.respond response) none (.presented flow prompt handle)
  | unacceptable {response : Response} {flow : Flow} (heard : gate.Hears response)
      (isPending : gate.flow? = some flow) (current : response.ssid? = some flow.ssid)
      (accept : response.action = .accept) (lacks : lacksCertificate flow = true) :
      Brings gate (.respond response) none (.failed (some flow.ssid))
  | accepted {response : Response} {flow : Flow} (heard : gate.Hears response)
      (isPending : gate.flow? = some flow) (current : response.ssid? = some flow.ssid)
      (accept : response.action = .accept) (has : lacksCertificate flow = false) :
      Brings gate (.respond response) none (.accepted flow)
  | rejected {response : Response} {flow : Flow} (heard : gate.Hears response)
      (isPending : gate.flow? = some flow) (current : response.ssid? = some flow.ssid)
      (reject : response.action = .reject) :
      Brings gate (.respond response) none (.rejected flow)
  | cleared : Brings gate .clear none (.dropped none)

/-- What performing an operation can come to. -/
def Performs (gate : Gate) (operation : Operation) (transcript : Transcript)
    (result : Option Bool) (after : Gate) : Prop :=
  ∃ effect, gate.Brings operation result effect ∧ effect.Makes gate transcript ∧
    after = effect.after gate

/-! ## The steps of operations -/

/-- Just the flows that lack their certificate have no dialog. -/
theorem ofFlow?_eq_none_iff {flow : Flow} {helpLink : String} :
    Dialog.ofFlow? flow.connection flow.certificate? helpLink = none ↔
      lacksCertificate flow = true := by
  cases policy : flow.connection.policy <;>
    simp [Dialog.ofFlow?, lacksCertificate, Flow.policy, policy]

@[simp]
theorem settings_retire (gate : Gate) : gate.retire.settings = gate.settings := by
  unfold retire
  split <;> rfl

@[simp]
theorem flow?_retire (gate : Gate) : gate.retire.flow? = none := by
  unfold retire
  split
  · next idle => exact idle
  · rfl

@[simp]
theorem dismissal_retire (gate : Gate) : gate.retire.dismissal = gate.dismissal := by
  unfold retire
  split <;> rfl

section Steps

variable {gate after : Gate} {transcript : Transcript}

theorem yields_dismissPrompt_iff :
    gate.dismissPrompt.Yields transcript after ↔
      transcript = gate.dismissal ∧ after = { gate with prompt? := none } := by
  rcases gate with ⟨settings, flow?, prompt?, registration?, retired?⟩
  cases prompt? with
  | none => simp [dismissPrompt, dismissal]
  | some handle =>
      simp only [dismissPrompt, dismissal, ask, Exchange.yields_bind_iff,
        Exchange.yields_call_iff, Exchange.yields_pure_iff]
      constructor
      · rintro ⟨_, _, _, rfl, ⟨rfl, rfl⟩, rfl⟩
        exact ⟨rfl, rfl⟩
      · rintro ⟨rfl, rfl⟩
        exact ⟨_, (), [], rfl, ⟨rfl, rfl⟩, rfl⟩

theorem drops_of_yields {id? : Option NetworkId} {done : Unit}
    (yields : (gate.dropCredentials id?).Yields transcript done) :
    Drops gate.settings.interface id? transcript := by
  cases id? with
  | none =>
      simp only [dropCredentials, resetCredentials, ask, Exchange.yields_bind_iff,
        Exchange.yields_call_iff, Exchange.yields_pure_iff] at yields
      rcases yields with ⟨_, forgot, _, rfl, ⟨rfl, _⟩, rfl⟩
      exact .all forgot
  | some id =>
      simp only [dropCredentials, resetCredentials, ask, Exchange.yields_bind_iff,
        Exchange.yields_call_iff, Exchange.yields_pure_iff] at yields
      rcases yields with ⟨_, ended, _, rfl, ⟨_, forgot, _, rfl, ⟨rfl, _⟩, rfl⟩, rfl⟩
      exact .network id ended forgot

theorem makes_of_present {flow : Flow} {prompt : Prompt}
    (yields : (gate.present flow prompt).Yields transcript after) :
    ∃ handle, (Effect.presented flow prompt handle).Makes gate transcript ∧
      after = (Effect.presented flow prompt handle).after gate := by
  simp only [present, ask, Exchange.yields_bind_iff, Exchange.yields_call_iff,
    Exchange.yields_pure_iff, yields_dismissPrompt_iff] at yields
  rcases yields with ⟨_, _, _, ⟨rfl, rfl⟩, ⟨_, handle, _, rfl, ⟨rfl, rfl⟩, rfl⟩, rfl⟩
  exact ⟨handle, .presented, rfl⟩

theorem makes_of_resolveError {ssid? : Option String}
    (yields : (gate.resolveError ssid?).Yields transcript after) :
    (Effect.failed ssid?).Makes gate transcript ∧ after = (Effect.failed ssid?).after gate := by
  simp only [resolveError, ask, Exchange.yields_bind_iff, Exchange.yields_call_iff,
    Exchange.yields_pure_iff, yields_dismissPrompt_iff] at yields
  rcases yields with
    ⟨_, _, _, ⟨rfl, rfl⟩, ⟨drop, _, _, dropped, ⟨_, _, _, rfl, ⟨rfl, rfl⟩, rfl⟩, rfl⟩, rfl⟩
  rw [← List.append_assoc]
  exact ⟨.failed (drops_of_yields dropped), rfl⟩

theorem records_of_recordApproval {flow : Flow} {done : Unit}
    (has : lacksCertificate flow = false)
    (yields : (recordApproval flow).Yields transcript done) : Records flow transcript := by
  simp only [recordApproval] at yields
  split at yields
  · next pending tofu certificate =>
      simp only [pin, ask, Exchange.yields_bind_iff, Exchange.yields_call_iff,
        Exchange.yields_pure_iff] at yields
      rcases yields with
        ⟨_, _, _, ⟨_, saved, _, rfl, reverted, rfl⟩, ⟨_, joined, _, rfl, ⟨rfl, _⟩, rfl⟩, rfl⟩
      cases saved with
      | ok =>
          rw [Exchange.yields_pure_iff] at reverted
          rcases reverted with ⟨rfl, _⟩
          exact .pinned tofu certificate joined
      | error error =>
          simp only [Exchange.yields_bind_iff, Exchange.yields_call_iff,
            Exchange.yields_pure_iff] at reverted
          rcases reverted with ⟨_, approved, _, rfl, ⟨_, enabled, _, rfl, ⟨rfl, _⟩, rfl⟩, rfl⟩
          exact .unpinned tofu certificate error approved enabled joined
  · next notPinned =>
      have legacy : flow.policy = .legacy := by
        cases policy : flow.policy with
        | legacy => rfl
        | tofu =>
            cases certificate : flow.certificate? with
            | none => simp [lacksCertificate, policy, certificate] at has
            | some pending => exact absurd certificate (notPinned pending policy)
      simp only [ask, Exchange.yields_bind_iff, Exchange.yields_call_iff,
        Exchange.yields_pure_iff] at yields
      rcases yields with ⟨_, approved, _, rfl, ⟨_, joined, _, rfl, ⟨rfl, _⟩, rfl⟩, rfl⟩
      exact .remembered legacy approved joined

/-- An accepted flow that lacks its certificate fails. -/
theorem makes_of_resolveAccept {flow : Flow}
    (yields : (gate.resolveAccept flow).Yields transcript after) :
    ∃ effect : Effect, effect.Makes gate transcript ∧ after = effect.after gate ∧
      effect = if lacksCertificate flow then .failed (some flow.ssid) else .accepted flow := by
  cases lacks : lacksCertificate flow with
  | true =>
      simp only [resolveAccept, lacks, if_true] at yields
      rcases makes_of_resolveError yields with ⟨makes, rfl⟩
      exact ⟨_, makes, rfl, rfl⟩
  | false =>
      simp only [resolveAccept, lacks, Bool.false_eq_true, if_false, ask,
        Exchange.yields_bind_iff, Exchange.yields_call_iff, Exchange.yields_pure_iff,
        yields_dismissPrompt_iff] at yields
      rcases yields with
        ⟨_, _, _, ⟨rfl, rfl⟩, ⟨record, _, _, recorded, ⟨_, _, _, rfl, ⟨rfl, rfl⟩, rfl⟩, rfl⟩, rfl⟩
      rw [← List.append_assoc]
      exact ⟨_, .accepted (records_of_recordApproval lacks recorded), rfl, rfl⟩

theorem makes_of_resolveReject {flow : Flow}
    (yields : (gate.resolveReject flow).Yields transcript after) :
    (Effect.rejected flow).Makes gate transcript ∧
      after = (Effect.rejected flow).after gate := by
  simp only [resolveReject, ask, Exchange.yields_bind_iff, Exchange.yields_call_iff,
    Exchange.yields_pure_iff, yields_dismissPrompt_iff] at yields
  rcases yields with
    ⟨_, _, _, ⟨rfl, rfl⟩, ⟨_, joined, _, rfl, ⟨drop, _, _, dropped,
      ⟨_, _, _, rfl, ⟨rfl, rfl⟩, rfl⟩, rfl⟩, rfl⟩, rfl⟩
  have makes : (Effect.rejected flow).Makes gate _ :=
    .rejected joined (drops_of_yields dropped)
  simp only [List.append_assoc, List.cons_append, List.nil_append] at makes ⊢
  exact ⟨makes, rfl⟩

theorem makes_of_presentDialog {flow : Flow}
    (yields : (gate.presentDialog flow).Yields transcript after) :
    (Dialog.ofFlow? flow.connection flow.certificate? gate.settings.helpLink = none ∧
        transcript = [] ∧ after = gate) ∨
      ∃ prompt handle, flow.prompt? true gate.settings.helpLink = some prompt ∧
        (Effect.presented flow prompt handle).Makes gate transcript ∧
        after = (Effect.presented flow prompt handle).after gate := by
  cases dialog? : Dialog.ofFlow? flow.connection flow.certificate? gate.settings.helpLink with
  | none =>
      simp only [presentDialog, dialog?, Exchange.yields_done_iff] at yields
      exact .inl ⟨rfl, yields⟩
  | some dialog =>
      simp only [presentDialog, dialog?] at yields
      rcases makes_of_present yields with ⟨handle, makes, rfl⟩
      exact .inr ⟨.dialog dialog, handle, by simp [Flow.prompt?, dialog?], makes, rfl⟩

end Steps

/-! ## Operations -/

section Operations

variable {gate after : Gate} {transcript : Transcript} {result : Option Bool}

theorem performs_prepare {profile : NetworkProfile} {started : Bool}
    (yields : (gate.prepare profile).Yields transcript (started, after)) :
    gate.Performs (.prepare profile) transcript (some started) after := by
  simp only [prepare, Exchange.yields_bind_iff, yields_dismissPrompt_iff] at yields
  rcases yields with ⟨_, _, rest, ⟨rfl, rfl⟩, yields, rfl⟩
  rw [dismissal_retire]
  split at yields
  · next free =>
      simp only [Exchange.yields_pure_iff, Prod.mk.injEq] at yields
      rcases yields with ⟨rfl, rfl, rfl⟩
      rw [List.append_nil]
      exact ⟨_, .exempt (by simpa using free), .dropped, rfl⟩
  · next policy needed =>
      rw [settings_retire] at needed
      simp only [ask, Exchange.yields_bind_iff, Exchange.yields_call_iff] at yields
      rcases yields with ⟨_, trusted, rest, rfl, yields, rfl⟩
      split at yields
      · next isTrusted =>
          simp only [Exchange.yields_pure_iff, Prod.mk.injEq] at yields
          rcases yields with ⟨rfl, rfl, rfl⟩
          subst isTrusted
          exact ⟨_, .trusted needed, .trusted _, rfl⟩
      · next isTrusted =>
          simp only [start, Exchange.yields_bind_iff, Exchange.yields_pure_iff,
            Prod.mk.injEq] at yields
          rcases yields with ⟨drop, _, _, dropped, ⟨rfl, rfl, rfl⟩, rfl⟩
          have drops := drops_of_yields dropped
          have untrusted : trusted = false := Bool.eq_false_iff.mpr isTrusted
          subst untrusted
          rw [List.append_nil]
          refine ⟨_, .started needed, .started (by simpa using drops), ?_⟩
          simp [Effect.after, Flow.ofProfile, ApprovalNeed.policy?_eq_some_iff.mp needed]

theorem offer_of_takes {ssid : String} {certificate : ServerCertificate} {flow : Flow}
    {pending : PendingCertificate} (takes : gate.Takes ssid certificate flow pending) :
    gate.offer ssid certificate = (true, (Effect.kept flow pending).after gate) := by
  rcases takes with ⟨isPending, named, current, first, readable⟩
  simp [offer, isPending, named, current, first, readable, Effect.after]

theorem offer_of_unfit {ssid : String} {certificate : ServerCertificate}
    (unfit : ∀ flow pending, ¬gate.Takes ssid certificate flow pending) :
    gate.offer ssid certificate = (false, gate) := by
  unfold offer
  split
  · rfl
  · next flow isPending =>
      split
      · rfl
      · next fit =>
          rw [not_or, not_or, Classical.not_not, Classical.not_not] at fit
          rcases fit with ⟨named, current, first⟩
          split
          · rfl
          · next pending readable =>
              exact absurd ⟨isPending, named, current, first, readable⟩ (unfit flow pending)

theorem performs_offer {ssid : String} {certificate : ServerCertificate} {taken : Bool}
    (offered : gate.offer ssid certificate = (taken, after)) :
    gate.Performs (.offer ssid certificate) [] (some taken) after := by
  by_cases fit : ∃ flow pending, gate.Takes ssid certificate flow pending
  · rcases fit with ⟨flow, pending, takes⟩
    rw [offer_of_takes takes, Prod.mk.injEq] at offered
    rcases offered with ⟨rfl, rfl⟩
    exact ⟨_, .kept takes, .kept, rfl⟩
  · have unfit : ∀ flow pending, ¬gate.Takes ssid certificate flow pending :=
      fun flow pending takes => fit ⟨flow, pending, takes⟩
    rw [offer_of_unfit unfit, Prod.mk.injEq] at offered
    rcases offered with ⟨rfl, rfl⟩
    exact ⟨_, .declined unfit, .nothing, rfl⟩

theorem performs_request {userInitiated asked : Bool}
    (yields : (gate.request userInitiated).Yields transcript (asked, after)) :
    gate.Performs (.request userInitiated) transcript (some asked) after := by
  unfold request at yields
  split at yields
  · next idle =>
      simp only [Exchange.yields_pure_iff, Prod.mk.injEq] at yields
      rcases yields with ⟨rfl, rfl, rfl⟩
      exact ⟨_, .unasked idle, .nothing, rfl⟩
  · next flow isPending =>
      cases lacks : lacksCertificate flow with
      | true =>
          simp only [lacks, if_true, Exchange.yields_bind_iff, Exchange.yields_pure_iff,
            Prod.mk.injEq] at yields
          rcases yields with ⟨_, _, _, failed, ⟨rfl, rfl, rfl⟩, rfl⟩
          rcases makes_of_resolveError failed with ⟨makes, rfl⟩
          rw [List.append_nil]
          exact ⟨_, .lacking isPending lacks, makes, rfl⟩
      | false =>
          simp only [lacks, Bool.false_eq_true, if_false] at yields
          cases userInitiated with
          | true =>
              simp only [if_true, Exchange.yields_bind_iff, Exchange.yields_pure_iff,
                Prod.mk.injEq] at yields
              rcases yields with ⟨_, _, _, presented, ⟨rfl, rfl, rfl⟩, rfl⟩
              rw [List.append_nil]
              rcases makes_of_presentDialog presented with
                ⟨noDialog, _⟩ | ⟨prompt, handle, prompts, makes, rfl⟩
              · rw [ofFlow?_eq_none_iff, lacks] at noDialog
                exact absurd noDialog Bool.false_ne_true
              · exact ⟨_, .asked handle isPending lacks prompts, makes, rfl⟩
          | false =>
              simp only [Bool.false_eq_true, if_false, Exchange.yields_bind_iff,
                Exchange.yields_pure_iff, Prod.mk.injEq] at yields
              rcases yields with ⟨_, _, _, presented, ⟨rfl, rfl, rfl⟩, rfl⟩
              rw [List.append_nil]
              rcases makes_of_present presented with ⟨handle, makes, rfl⟩
              exact ⟨_, .asked handle isPending lacks rfl, makes, rfl⟩

theorem performs_review {response : Response} (heard : gate.Hears response)
    (review : response.action = .review)
    (yields : (gate.review response.ssid?).Yields transcript after) :
    gate.Performs (.respond response) transcript none after := by
  unfold Gate.review at yields
  split at yields
  · next idle =>
      rcases Exchange.yields_pure_iff.mp yields with ⟨rfl, rfl⟩
      exact ⟨_, .reviewedIdle heard idle review, .nothing, rfl⟩
  · next flow isPending =>
      split at yields
      · next other =>
          rcases Exchange.yields_pure_iff.mp yields with ⟨rfl, rfl⟩
          exact ⟨_, .stale heard isPending other, .nothing, rfl⟩
      · next current =>
          rw [Classical.not_not] at current
          simp only [Exchange.yields_bind_iff, yields_dismissPrompt_iff] at yields
          rcases yields with ⟨_, _, _, ⟨rfl, rfl⟩, presented, rfl⟩
          rcases makes_of_presentDialog presented with
            ⟨noDialog, rfl, rfl⟩ | ⟨prompt, handle, prompts, makes, rfl⟩
          · rw [List.append_nil]
            exact ⟨_, .unreviewable heard isPending current review
              (ofFlow?_eq_none_iff.mp noDialog), .dismissed, rfl⟩
          · cases makes
            exact ⟨_, .reviewed handle heard isPending current review prompts, .presented, rfl⟩

theorem performs_decide {response : Response} {resolve : Gate → Flow → Exchange GateReply Gate}
    (heard : gate.Hears response) (decides : response.action ≠ .review)
    (resolves : ∀ flow, gate.flow? = some flow → response.ssid? = some flow.ssid →
      (resolve gate flow).Yields transcript after →
        gate.Performs (.respond response) transcript none after)
    (yields : (gate.decide response.ssid? resolve).Yields transcript after) :
    gate.Performs (.respond response) transcript none after := by
  unfold Gate.decide at yields
  split at yields
  · next idle =>
      split at yields
      · next late =>
          rcases Exchange.yields_done_iff.mp yields with ⟨rfl, rfl⟩
          exact ⟨_, .late heard idle decides late, .nothing, rfl⟩
      · next unknown =>
          rcases makes_of_resolveError yields with ⟨makes, rfl⟩
          exact ⟨_, .escalated heard idle decides unknown, makes, rfl⟩
  · next flow isPending =>
      split at yields
      · next current => exact resolves flow isPending current yields
      · next other =>
          rcases Exchange.yields_done_iff.mp yields with ⟨rfl, rfl⟩
          exact ⟨_, .stale heard isPending other, .nothing, rfl⟩

theorem performs_respond {response : Response}
    (yields : (gate.respond response).Yields transcript after) :
    gate.Performs (.respond response) transcript none after := by
  unfold respond at yields
  split at yields
  · next unheard =>
      rcases Exchange.yields_done_iff.mp yields with ⟨rfl, rfl⟩
      refine ⟨_, .unheard ?_, .nothing, rfl⟩
      intro hears
      simp [hears unheard.1] at unheard
  · next notUnheard =>
      have heard : gate.Hears response := fun notified => by simpa [notified] using notUnheard
      cases action : response.action with
      | review =>
          simp only [action] at yields
          exact performs_review heard action yields
      | accept =>
          simp only [action] at yields
          refine performs_decide heard (by simp [action]) ?_ yields
          intro flow isPending current resolved
          rcases makes_of_resolveAccept resolved with ⟨effect, makes, rfl, rfl⟩
          cases lacks : lacksCertificate flow with
          | true =>
              simp only [lacks, if_true] at makes ⊢
              exact ⟨_, .unacceptable heard isPending current action lacks, makes, rfl⟩
          | false =>
              simp only [lacks, Bool.false_eq_true, if_false] at makes ⊢
              exact ⟨_, .accepted heard isPending current action lacks, makes, rfl⟩
      | reject =>
          simp only [action] at yields
          refine performs_decide heard (by simp [action]) ?_ yields
          intro flow isPending current resolved
          rcases makes_of_resolveReject resolved with ⟨makes, rfl⟩
          exact ⟨_, .rejected heard isPending current action, makes, rfl⟩

theorem performs_clear (yields : gate.clear.Yields transcript after) :
    gate.Performs .clear transcript none after := by
  simp only [clear, Exchange.yields_bind_iff, Exchange.yields_pure_iff,
    yields_dismissPrompt_iff] at yields
  rcases yields with ⟨_, _, _, ⟨rfl, rfl⟩, ⟨rfl, rfl⟩, rfl⟩
  rw [List.append_nil]
  refine ⟨_, .cleared, .dropped, ?_⟩
  cases flow? : gate.flow? <;> simp [Effect.after, retire, flow?]

/-- Whatever the replies are, an operation comes to one of the effects that it can bring. -/
theorem performs_of_yields {operation : Operation}
    (yields : (gate.perform operation).Yields transcript (result, after)) :
    gate.Performs operation transcript result after := by
  cases operation with
  | prepare profile =>
      simp only [perform, Exchange.yields_bind_iff, Exchange.yields_pure_iff,
        Prod.mk.injEq] at yields
      rcases yields with ⟨_, ⟨started, _⟩, _, prepared, ⟨rfl, rfl, rfl⟩, rfl⟩
      rw [List.append_nil]
      exact performs_prepare prepared
  | offer ssid certificate =>
      simp only [perform, Exchange.yields_done_iff, Prod.mk.injEq] at yields
      rcases yields with ⟨rfl, rfl, rfl⟩
      exact performs_offer rfl
  | request userInitiated =>
      simp only [perform, Exchange.yields_bind_iff, Exchange.yields_pure_iff,
        Prod.mk.injEq] at yields
      rcases yields with ⟨_, ⟨asked, _⟩, _, requested, ⟨rfl, rfl, rfl⟩, rfl⟩
      rw [List.append_nil]
      exact performs_request requested
  | respond response =>
      simp only [perform, Exchange.yields_bind_iff, Exchange.yields_pure_iff,
        Prod.mk.injEq] at yields
      rcases yields with ⟨_, _, _, responded, ⟨rfl, rfl, rfl⟩, rfl⟩
      rw [List.append_nil]
      exact performs_respond responded
  | clear =>
      simp only [perform, Exchange.yields_bind_iff, Exchange.yields_pure_iff,
        Prod.mk.injEq] at yields
      rcases yields with ⟨_, _, _, cleared, ⟨rfl, rfl, rfl⟩, rfl⟩
      rw [List.append_nil]
      exact performs_clear cleared

end Operations

/-! ## What an effect is about -/

/-- The effect is one on the flow that is pending, or on a gate without one. -/
def Effect.Fits (gate : Gate) : Effect → Prop
  | dismissed => ∃ flow, gate.flow? = some flow ∧ lacksCertificate flow = true
  | started profile policy =>
      (profile.approvalNeed gate.settings.tofuSupported).policy? = some policy
  | kept flow pending =>
      gate.flow? = some flow ∧ flow.certificate? = none ∧ flow.ssid ≠ "" ∧
        readCertificate? pending.certificate = some pending
  | presented flow prompt _ =>
      gate.flow? = some flow ∧ lacksCertificate flow = false ∧
        ∃ asDialog, flow.prompt? asDialog gate.settings.helpLink = some prompt
  | failed (some ssid) => ∃ flow, gate.flow? = some flow ∧ flow.ssid = ssid
  | failed none => gate.flow? = none
  | accepted flow => gate.flow? = some flow ∧ lacksCertificate flow = false
  | rejected flow => gate.flow? = some flow
  | _ => True

theorem parsed_of_readCertificate? {certificate : ServerCertificate}
    {pending : PendingCertificate} (readable : readCertificate? certificate = some pending) :
    pending.certificate = certificate ∧ certificate.subjectInfo = .ok pending.subject ∧
      certificate.issuerInfo = .ok pending.issuer := by
  unfold readCertificate? at readable
  split at readable
  · next subject issuer =>
      cases readable
      exact ⟨rfl, subject, issuer⟩
  · cases readable

theorem lacksCertificate_of_prompt? {flow : Flow} {helpLink : String} {prompt : Prompt}
    (prompts : flow.prompt? true helpLink = some prompt) : lacksCertificate flow = false := by
  cases lacks : lacksCertificate flow with
  | false => rfl
  | true => simp [Flow.prompt?, ofFlow?_eq_none_iff.mpr lacks] at prompts

theorem Brings.fits {gate : Gate} {operation : Operation} {result : Option Bool}
    {effect : Effect} (brings : gate.Brings operation result effect) : effect.Fits gate := by
  cases brings with
  | unreviewable _ isPending _ _ lacks => exact ⟨_, isPending, lacks⟩
  | started needed => exact needed
  | kept takes =>
      rcases takes with ⟨isPending, named, current, first, readable⟩
      have same := (parsed_of_readCertificate? readable).1
      exact ⟨isPending, first, current ▸ named, same ▸ readable⟩
  | lacking isPending _ | unacceptable _ isPending _ _ _ => exact ⟨_, isPending, rfl⟩
  | asked _ isPending has prompts => exact ⟨isPending, has, _, prompts⟩
  | reviewed _ _ isPending _ _ prompts =>
      exact ⟨isPending, lacksCertificate_of_prompt? prompts, _, prompts⟩
  | escalated _ idle _ _ => exact idle
  | accepted _ isPending _ _ has => exact ⟨isPending, has⟩
  | rejected _ isPending _ _ => exact isPending
  | _ => trivial

/-- A flow is accepted by a response that is for it. -/
theorem Brings.of_accepted {gate : Gate} {operation : Operation} {result : Option Bool}
    {flow : Flow} (brings : gate.Brings operation result (.accepted flow)) :
    ∃ response, operation = .respond response ∧ response.action = .accept ∧
      response.ssid? = some flow.ssid ∧ gate.flow? = some flow := by
  cases brings with
  | accepted _ isPending current accept _ => exact ⟨_, rfl, accept, current, isPending⟩

/-- A flow is refused by a response that is for it. -/
theorem Brings.of_rejected {gate : Gate} {operation : Operation} {result : Option Bool}
    {flow : Flow} (brings : gate.Brings operation result (.rejected flow)) :
    ∃ response, operation = .respond response ∧ response.action = .reject ∧
      response.ssid? = some flow.ssid ∧ gate.flow? = some flow := by
  cases brings with
  | rejected _ isPending current reject => exact ⟨_, rfl, reject, current, isPending⟩

/-- What a response does that is listened to while a flow is pending: nothing if it is for another
network, and else what it asks for. -/
theorem Brings.of_response {gate : Gate} {response : Response} {result : Option Bool}
    {effect : Effect} {flow : Flow} (brings : gate.Brings (.respond response) result effect)
    (hears : gate.Hears response) (isPending : gate.flow? = some flow) :
    response.ssid? ≠ some flow.ssid ∧ effect = .nothing ∨
      response.ssid? = some flow.ssid ∧
        match response.action with
        | .review =>
            lacksCertificate flow = true ∧ effect = .dismissed ∨
              ∃ prompt handle, flow.prompt? true gate.settings.helpLink = some prompt ∧
                effect = .presented flow prompt handle
        | .accept =>
            lacksCertificate flow = true ∧ effect = .failed (some flow.ssid) ∨
              lacksCertificate flow = false ∧ effect = .accepted flow
        | .reject => effect = .rejected flow := by
  have same : ∀ {other}, gate.flow? = some other → other = flow := fun otherPending =>
    Option.some.inj (otherPending.symm.trans isPending)
  cases brings with
  | unheard unheard => exact absurd hears unheard
  | reviewedIdle _ idle _ | late _ idle _ _ | escalated _ idle _ _ => simp [isPending] at idle
  | stale _ otherPending other =>
      cases same otherPending
      exact .inl ⟨other, rfl⟩
  | unreviewable _ otherPending current review lacks =>
      cases same otherPending
      rw [review]
      exact .inr ⟨current, .inl ⟨lacks, rfl⟩⟩
  | reviewed handle _ otherPending current review prompts =>
      cases same otherPending
      rw [review]
      exact .inr ⟨current, .inr ⟨_, handle, prompts, rfl⟩⟩
  | unacceptable _ otherPending current accept lacks =>
      cases same otherPending
      rw [accept]
      exact .inr ⟨current, .inl ⟨lacks, rfl⟩⟩
  | accepted _ otherPending current accept has =>
      cases same otherPending
      rw [accept]
      exact .inr ⟨current, .inr ⟨has, rfl⟩⟩
  | rejected _ otherPending current reject =>
      cases same otherPending
      rw [reject]
      exact .inr ⟨current, rfl⟩

/-- What a response does that is listened to, is for the pending flow and finds there what it needs:
what it asks for. -/
theorem Brings.of_answer {gate : Gate} {response : Response} {result : Option Bool}
    {effect : Effect} {flow : Flow} (brings : gate.Brings (.respond response) result effect)
    (hears : gate.Hears response) (isPending : gate.flow? = some flow)
    (current : response.ssid? = some flow.ssid) (certified : lacksCertificate flow = false) :
    match response.action with
    | .review =>
        ∃ prompt handle, flow.prompt? true gate.settings.helpLink = some prompt ∧
          effect = .presented flow prompt handle
    | .accept => effect = .accepted flow
    | .reject => effect = .rejected flow := by
  have asked := ((brings.of_response hears isPending).resolve_left fun other =>
    other.1 current).2
  cases action : response.action with
  | review =>
      rw [action] at asked
      exact asked.resolve_left (by simp [certified])
  | accept =>
      rw [action] at asked
      exact (asked.resolve_left (by simp [certified])).2
  | reject => rwa [action] at asked

/-! ## What the calls show -/

section Calls

variable {β : Type} {view : GateCall → Option β}

/-- What a view finds in the calls of a transcript. -/
def seen (view : GateCall → Option β) (transcript : Transcript) : List β :=
  transcript.filterMap fun event => view event.1

@[simp]
theorem seen_nil : seen view [] = [] :=
  rfl

@[simp]
theorem seen_cons (event : Exchange.Event GateReply) (rest : Transcript) :
    seen view (event :: rest) = (view event.1).toList ++ seen view rest := by
  cases found : view event.1 <;> simp [seen, found]

@[simp]
theorem seen_append (first second : Transcript) :
    seen view (first ++ second) = seen view first ++ seen view second :=
  List.filterMap_append

theorem seen_dismissal (view : GateCall → Option β) (gate : Gate)
    (blind : ∀ handle, view (.dismiss handle) = none) :
    seen view gate.dismissal = [] := by
  unfold dismissal
  split <;> simp [blind]

theorem seen_of_drops (view : GateCall → Option β) {interface : String} {id? : Option NetworkId}
    {drop : Transcript} (drops : Drops interface id? drop)
    (blindSession : ∀ id, view (.invalidateSession id) = none)
    (blindCredentials : ∀ interface, view (.forgetCredentials interface) = none) :
    seen view drop = [] := by
  cases drops <;> simp [blindSession, blindCredentials]

theorem seen_of_records (view : GateCall → Option β) {flow : Flow} {record : Transcript}
    (records : Records flow record) (blind : ∀ id change, view (.update id change) = none) :
    seen view record = [] := by
  cases records <;> simp [blind]

end Calls

/-- The outcome that a call reports, if it reports one. -/
def reported? : GateCall → Option TrustOutcome
  | .report outcome => some outcome
  | _ => none

/-- The change that a call asks of the store, if it asks for one. -/
def changed? : GateCall → Option (NetworkId × Store.Change)
  | .update id change => some (id, change)
  | _ => none

/-- The prompt that a call shows, if it shows one. -/
def shown? : GateCall → Option Prompt
  | .present prompt => some prompt
  | _ => none

/-- What the supplicant is asked to drop. -/
inductive Reset
  | session (id : NetworkId)
  | credentials (interface : String)
deriving Repr, DecidableEq

/-- What a call asks the supplicant to drop, if it asks for that. -/
def reset? : GateCall → Option Reset
  | .invalidateSession id => some (.session id)
  | .forgetCredentials interface => some (.credentials interface)
  | _ => none

/-- The outcomes that an effect reports. -/
def Effect.reports : Effect → List TrustOutcome
  | failed ssid? => [.errored ssid?]
  | accepted flow => [.accepted flow.ssid]
  | rejected flow => [.rejected flow.ssid]
  | _ => []

/-- The prompts that an effect shows. -/
def Effect.prompts : Effect → List Prompt
  | presented _ prompt _ => [prompt]
  | _ => []

/-- The effect resolves a flow by an answer of the user. -/
def Effect.Decides : Effect → Prop
  | accepted _ => True
  | rejected _ => True
  | _ => False

section Makes

variable {gate : Gate} {effect : Effect} {transcript : Transcript}

theorem reports_of_makes (makes : effect.Makes gate transcript) :
    seen reported? transcript = effect.reports := by
  have dismissal := seen_dismissal reported? gate fun _ => rfl
  cases makes with
  | nothing | kept => rfl
  | dismissed | dropped => exact dismissal
  | trusted | presented => simp [dismissal, reported?, Effect.reports]
  | started drops | failed drops | rejected _ drops =>
      have drop := seen_of_drops reported? drops (fun _ => rfl) fun _ => rfl
      simp [dismissal, drop, reported?, Effect.reports]
  | accepted records =>
      have record := seen_of_records reported? records fun _ _ => rfl
      simp [dismissal, record, reported?, Effect.reports]

theorem prompts_of_makes (makes : effect.Makes gate transcript) :
    seen shown? transcript = effect.prompts := by
  have dismissal := seen_dismissal shown? gate fun _ => rfl
  cases makes with
  | nothing | kept => rfl
  | dismissed | dropped => exact dismissal
  | trusted | presented => simp [dismissal, shown?, Effect.prompts]
  | started drops | failed drops | rejected _ drops =>
      have drop := seen_of_drops shown? drops (fun _ => rfl) fun _ => rfl
      simp [dismissal, drop, shown?, Effect.prompts]
  | accepted records =>
      have record := seen_of_records shown? records fun _ _ => rfl
      simp [dismissal, record, shown?, Effect.prompts]

theorem not_mem_dismissal {call : GateCall} {reply : GateReply call}
    (other : ∀ handle, call ≠ .dismiss handle) : ⟨call, reply⟩ ∉ gate.dismissal := by
  unfold dismissal
  split
  · simp
  · intro mem
    cases List.mem_singleton.mp mem
    exact other _ rfl

/-- A prompt is shown for the flow that is presented, and gets the handle that the gate then has. -/
theorem eq_presented_of_mem {prompt : Prompt} {handle : PromptHandle}
    (makes : effect.Makes gate transcript) (shown : ⟨.present prompt, handle⟩ ∈ transcript) :
    ∃ flow, effect = .presented flow prompt handle := by
  have prompted : prompt ∈ effect.prompts := by
    rw [← prompts_of_makes makes, seen, List.mem_filterMap]
    exact ⟨_, shown, rfl⟩
  cases makes with
  | presented =>
      rcases List.mem_append.mp shown with dismissed | presented
      · exact absurd dismissed (not_mem_dismissal (by simp))
      · cases List.mem_singleton.mp presented
        exact ⟨_, rfl⟩
  | _ => simp [Effect.prompts] at prompted

/-- Only the answers of the user change what is stored. -/
theorem changes_of_makes (makes : effect.Makes gate transcript) (undecided : ¬effect.Decides) :
    seen changed? transcript = [] := by
  have dismissal := seen_dismissal changed? gate fun _ => rfl
  cases makes with
  | nothing | kept => rfl
  | dismissed | dropped => exact dismissal
  | trusted | presented => simp [dismissal, changed?]
  | started drops | failed drops =>
      have drop := seen_of_drops changed? drops (fun _ => rfl) fun _ => rfl
      simp [dismissal, drop, changed?]
  | accepted | rejected => exact absurd trivial undecided

end Makes

end Gate

end TrustGate
