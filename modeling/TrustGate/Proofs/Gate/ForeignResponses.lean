import TrustGate.Gate.Surroundings
import TrustGate.Proofs.Gate.Invariant

/-!
# Responses that are not for the pending flow

While a flow is pending, a gate drops every response that carries another
network or none, and every action of a notification that the policy of the flow
does not offer. Dropping is complete: there is no call, and the gate keeps its
flow, its prompt and the name of the flow that ended last.

So such responses can be put into a run at any points at which a flow is pending
and nobody can tell. `Padded` relates the operations of a run to those with
responses put in; the points are those of the run without them, and the step
lemma says that they are also the points of the run with them.
-/

namespace TrustGate

/-- The actions of notifications that are listened to for a flow with the policy. -/
def TrustPolicy.actions : TrustPolicy → List ResponseAction
  | .tofu => [.review]
  | .legacy => [.accept, .reject]

/-- The response is not for the flow. -/
def Response.IsForeign (response : Response) (flow : Flow) : Prop :=
  response.ssid? ≠ some flow.ssid ∨
    response.source = .notification ∧ response.action ∉ flow.policy.actions

namespace Gate

variable {σ : Type} {respond : (call : GateCall) → σ → GateReply call × σ}

section Step

variable {gate : Gate} {flow : Flow} {response : Response}

theorem listensTo_iff {policy : TrustPolicy} (registered : gate.registration? = some policy)
    (action : ResponseAction) : gate.listensTo action = true ↔ action ∈ policy.actions := by
  cases policy <;> cases action <;> simp [listensTo, registered, TrustPolicy.actions]

/-- A response for another network is dropped, whatever it asks for. -/
theorem respond_of_elsewhere (isPending : gate.flow? = some flow)
    (elsewhere : response.ssid? ≠ some flow.ssid) : gate.respond response = .done gate := by
  unfold respond
  split
  · rfl
  · cases response.action with
    | review => simp [review, isPending, elsewhere, pure]
    | accept | reject => simp [decide, isPending, elsewhere]

theorem respond_of_foreign (coherent : gate.Coherent) (isPending : gate.flow? = some flow)
    (foreign : response.IsForeign flow) : gate.respond response = .done gate := by
  rcases foreign with elsewhere | ⟨notified, unoffered⟩
  · exact respond_of_elsewhere isPending elsewhere
  · have registered := (coherent.flow flow isPending).registered
    have unheard : gate.listensTo response.action = false :=
      Bool.eq_false_iff.mpr (mt (listensTo_iff registered response.action).mp unoffered)
    simp [respond, notified, unheard]

theorem perform_of_foreign (coherent : gate.Coherent) (isPending : gate.flow? = some flow)
    (foreign : response.IsForeign flow) :
    gate.perform (.respond response) = .done (none, gate) := by
  rw [perform, respond_of_foreign coherent isPending foreign]
  rfl

end Step

/-- The gate and the surroundings that a history leaves behind. -/
def ending (first : Gate) (initial : σ) (turns : List (Turn σ)) : Gate × σ :=
  match turns.getLast? with
  | none => (first, initial)
  | some last => (last.after, last.later)

theorem ending_cons (first : Gate) (initial : σ) (turn : Turn σ) (turns : List (Turn σ)) :
    ending first initial (turn :: turns) = ending turn.after turn.later turns := by
  cases turns with
  | nil => rfl
  | cons next turns => simp [ending, List.getLast?_eq_some_getLast]

/-- The second operations are the first, performed one after another, with responses put in at
points at which a flow is pending that they are not for. -/
inductive Padded (respond : (call : GateCall) → σ → GateReply call × σ) :
    Gate → σ → List Operation → List Operation → Prop
  | done (gate : Gate) (surroundings : σ) : Padded respond gate surroundings [] []
  | operation {gate : Gate} {surroundings : σ} (operation : Operation)
      {operations padded : List Operation}
      (later : Padded respond (gate.turn respond surroundings operation).after
        (gate.turn respond surroundings operation).later operations padded) :
      Padded respond gate surroundings (operation :: operations) (operation :: padded)
  | response {gate : Gate} {surroundings : σ} {flow : Flow} {response : Response}
      {operations padded : List Operation} (isPending : gate.flow? = some flow)
      (foreign : response.IsForeign flow)
      (later : Padded respond gate surroundings operations padded) :
      Padded respond gate surroundings operations (.respond response :: padded)

/-- Two histories from one point cannot be told apart: they have the same calls with the same
replies, the same results, and the same end. -/
structure Alike (gate : Gate) (surroundings : σ) (turns others : List (Turn σ)) : Prop where
  calls : others.flatMap Turn.transcript = turns.flatMap Turn.transcript
  results : others.filterMap Turn.result = turns.filterMap Turn.result
  ends : ending gate surroundings others = ending gate surroundings turns

theorem Alike.cons {gate : Gate} {surroundings : σ} {turn : Turn σ} {turns others : List (Turn σ)}
    (alike : Alike turn.after turn.later turns others) :
    Alike gate surroundings (turn :: turns) (turn :: others) where
  calls := by simp only [List.flatMap_cons, alike.calls]
  results := by simp only [List.filterMap_cons, alike.results]
  ends := by simp only [ending_cons, alike.ends]

/-- A turn that makes no call, has no result and changes nothing. -/
theorem Alike.idle {gate : Gate} {surroundings : σ} {turn : Turn σ} {turns others : List (Turn σ)}
    (silent : turn.transcript = []) (void : turn.result = none) (same : turn.after = gate)
    (undisturbed : turn.later = surroundings) (alike : Alike gate surroundings turns others) :
    Alike gate surroundings turns (turn :: others) where
  calls := by rw [List.flatMap_cons, silent, List.nil_append, alike.calls]
  results := by rw [List.filterMap_cons_none void, alike.results]
  ends := by rw [ending_cons, same, undisturbed, alike.ends]

theorem Coherent.alike_of_padded {gate : Gate} {surroundings : σ}
    {operations padded : List Operation} (coherent : gate.Coherent)
    (padding : Padded respond gate surroundings operations padded) :
    Alike gate surroundings (history respond gate surroundings operations)
      (history respond gate surroundings padded) := by
  induction padding with
  | done => exact ⟨rfl, rfl, rfl⟩
  | @operation gate surroundings operation _ _ _ ih =>
      rcases performs_turn respond gate surroundings operation with ⟨effect, brings, _, after⟩
      have coherentAfter : (gate.turn respond surroundings operation).after.Coherent :=
        after ▸ coherent.after brings.fits
      exact (ih coherentAfter).cons
  | @response gate surroundings _ response _ _ isPending foreign _ ih =>
      have dropped : gate.turn respond surroundings (.respond response) =
          ⟨.respond response, gate, surroundings, none, [], gate, surroundings⟩ := by
        simp only [turn, perform_of_foreign coherent isPending foreign, Exchange.run]
      rw [history, dropped]
      exact .idle rfl rfl rfl rfl (ih coherent)

/-- Whatever a fresh gate has been through, a response that is not for its pending flow makes no
call and leaves the gate as it is. From there on, let the gate perform some operations, and let any
number of such responses be put in wherever a flow is pending: there are the same calls with the
same replies, the same results, and in the end the same gate and the same surroundings. -/
theorem foreign_responses_have_no_effect {settings : GateSettings} {initial surroundings : σ}
    {past : List (Turn σ)} {gate : Gate}
    (reached : Reached respond { settings } initial past gate surroundings) :
    (∀ flow response, gate.flow? = some flow → response.IsForeign flow →
      gate.perform (.respond response) = .done (none, gate)) ∧
    ∀ operations padded, Padded respond gate surroundings operations padded →
      let turns := history respond gate surroundings operations
      let others := history respond gate surroundings padded
      others.flatMap Turn.transcript = turns.flatMap Turn.transcript ∧
        others.filterMap Turn.result = turns.filterMap Turn.result ∧
        ending gate surroundings others = ending gate surroundings turns := by
  have coherent : gate.Coherent := reached.coherent (coherent_of_fresh settings)
  refine ⟨fun flow response isPending foreign => ?_, fun operations padded padding => ?_⟩
  · exact perform_of_foreign coherent isPending foreign
  · have alike := coherent.alike_of_padded padding
    exact ⟨alike.calls, alike.results, alike.ends⟩

/-- A dialog is answered positively. -/
def positive : Operation :=
  .respond ⟨some "corp", .accept, .dialog⟩

/-- A refusal of nobody, one of another network, and one on a notification that has no such
button. -/
def refusals : List Operation :=
  [.respond ⟨none, .reject, .dialog⟩, .respond ⟨some "lab", .reject, .dialog⟩,
    .respond ⟨some "corp", .reject, .notification⟩]

/-- A dialog is accepted after refusals that are not for its flow, as without them. -/
theorem accepted_among_refusals :
    ∃ past gate surroundings,
      Reached Surroundings.reply { settings := ⟨true, "wlan0", ""⟩ } {} past gate surroundings ∧
        let turns := history Surroundings.reply gate surroundings [positive]
        Padded Surroundings.reply gate surroundings [positive] (refusals ++ [positive]) ∧
        (history Surroundings.reply gate surroundings (refusals ++ [positive])).flatMap
          Turn.transcript = turns.flatMap Turn.transcript ∧
        turns.flatMap Turn.outcomes = [.accepted "corp"] := by
  obtain ⟨past, gate, surroundings, reached, ⟨flow, isPending, named, policy⟩, accepts⟩ :
      ∃ past gate surroundings,
        Reached Surroundings.reply { settings := ⟨true, "wlan0", ""⟩ } {} past gate surroundings ∧
          (∃ flow, gate.flow? = some flow ∧ flow.ssid = "corp" ∧ flow.policy = .tofu) ∧
          (history Surroundings.reply gate surroundings [positive]).flatMap Turn.outcomes =
            [.accepted "corp"] :=
    ⟨_, _, _, ((Reached.start.turn (.prepare (newcomer 5 "corp"))).turn
      (.offer "corp" (radius [1]))).turn (.request true), ⟨_, rfl, rfl, rfl⟩, rfl⟩
  have padding :
      Padded Surroundings.reply gate surroundings [positive] (refusals ++ [positive]) := by
    refine .response isPending ?nobody (.response isPending ?other (.response isPending ?unoffered
      (.operation positive (.done _ _))))
    case nobody => exact .inl (by simp)
    case other => exact .inl (by simp [named])
    case unoffered => exact .inr ⟨rfl, by simp [policy, TrustPolicy.actions]⟩
  rcases foreign_responses_have_no_effect reached with ⟨_, undisturbed⟩
  exact ⟨past, gate, surroundings, reached, padding, (undisturbed _ _ padding).1, accepts⟩

end Gate

end TrustGate
