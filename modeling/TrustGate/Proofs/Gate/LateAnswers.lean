import TrustGate.Gate.Surroundings
import TrustGate.Proofs.Gate.Invariant
import TrustGate.Proofs.Gate.Prompts

/-!
# Late answers

The user may answer a prompt when the flow it was shown for is over and another
one is pending. A response carries the name of a network and nothing else, so it
is taken for an answer to the pending flow whenever the names agree: at another
attempt on the same network, and at an attempt on another saved network of the
same name. The main statement says exactly when the pending flow is left alone,
and a sample run shows an answer to one dialog that pins a certificate which no
prompt ever showed.
-/

namespace TrustGate

namespace Gate

variable {σ : Type} {respond : (call : GateCall) → σ → GateReply call × σ}

/-- The turn leaves the flow as it was, pending with its certificate and its stage, changes nothing
in the store and tells the owner nothing. -/
def Turn.Spares (turn : Turn σ) (flow : Flow) : Prop :=
  turn.after.flow? = some flow ∧ turn.changes = [] ∧ turn.outcomes = []

/-- A gate that works under the policy of a flow listens to the answers of its prompts. -/
theorem hears_of_answers {gate : Gate} {flow : Flow} {asDialog : Bool} {helpLink : String}
    {prompt : Prompt} {response : Response}
    (prompts : flow.prompt? asDialog helpLink = some prompt) (answers : prompt.Answers response)
    (registered : gate.registration? = some flow.policy) : gate.Hears response := by
  intro notified
  rcases Flow.source_of_answers prompts answers with
    ⟨source, _⟩ | ⟨_, ⟨policy, review⟩ | ⟨policy, decides⟩⟩
  · simp [notified] at source
  · simp [listensTo, registered, policy, review]
  · cases action : response.action with
    | review => exact absurd action decides
    | accept | reject => simp [listensTo, registered, policy]

section Response

variable {gate : Gate} {response : Response} {result : Option Bool} {effect : Effect}
  {transcript : Transcript} {flow : Flow}

/-- When a response leaves the pending flow alone. -/
theorem spares_iff_of_brings (brings : gate.Brings (.respond response) result effect)
    (makes : effect.Makes gate transcript) (hears : gate.Hears response)
    (isPending : gate.flow? = some flow)
    (reviewable : response.action = .review → flow.policy = .tofu) :
    ((effect.after gate).flow? = some flow ∧ seen changed? transcript = [] ∧
        seen reported? transcript = []) ↔
      response.ssid? ≠ some flow.ssid ∨
        response.action = .review ∧ (flow.certificate? = none ∨ flow.stage = .approval) := by
  rw [reports_of_makes makes]
  rcases brings.of_response hears isPending with ⟨other, rfl⟩ | ⟨current, asked⟩
  · exact iff_of_true ⟨isPending, changes_of_makes makes id, rfl⟩ (.inl other)
  · cases action : response.action with
    | review =>
        rw [action] at asked
        rcases asked with ⟨lacks, rfl⟩ | ⟨prompt, handle, prompts, rfl⟩
        · have uncertified : flow.certificate? = none := by
            simpa [lacksCertificate, reviewable action] using lacks
          exact iff_of_true ⟨isPending, changes_of_makes makes id, rfl⟩
            (.inr ⟨rfl, .inl uncertified⟩)
        · have unchanged := changes_of_makes makes id
          have certified : flow.certificate? ≠ none := by
            simpa [lacksCertificate, reviewable action] using lacksCertificate_of_prompt? prompts
          rcases flow with ⟨connection, certificate?, stage⟩
          simpa [Effect.after, Effect.reports, unchanged, current] using
            ⟨fun shown => .inr shown.symm, fun shown => (shown.resolve_left certified).symm⟩
    | accept =>
        rw [action] at asked
        rcases asked with ⟨_, rfl⟩ | ⟨_, rfl⟩ <;> simp [Effect.after, current]
    | reject =>
        rw [action] at asked
        subst asked
        simp [Effect.after, current]

end Response

/-- An answer to a prompt of one flow leaves the flow that is pending when it comes alone just if
their networks have different names, or if it asks for a review of a flow that has no certificate
yet or has been shown already. Whether the former flow is over makes no difference. -/
theorem late_answer_spares_iff {settings : GateSettings} {initial : σ}
    {operations : List Operation} (past between future : List (Turn σ)) {shown answer : Turn σ}
    {former flow : Flow} {prompt : Prompt} {handle : PromptHandle} {response : Response}
    (cut : history respond { settings } initial operations =
      past ++ shown :: (between ++ answer :: future))
    (about : shown.before.flow? = some former)
    (presented : ⟨.present prompt, handle⟩ ∈ shown.transcript)
    (answers : prompt.Answers response) (handled : answer.operation = .respond response)
    (isPending : answer.before.flow? = some flow) :
    answer.Spares flow ↔
      former.ssid ≠ flow.ssid ∨
        response.action = .review ∧ (flow.certificate? = none ∨ flow.stage = .approval) := by
  rcases reached_of_history_turn cut with ⟨reachedShown, performedShown, _⟩
  rcases performs_of_eq_turn performedShown with ⟨shows, bringsShown, makesShown, _⟩
  rcases eq_presented_of_mem makesShown presented with ⟨presentedFlow, rfl⟩
  rcases bringsShown.fits with ⟨presentedPending, _, _, prompts⟩
  cases Option.some.inj (presentedPending.symm.trans about)
  have formerCoherent := (reachedShown.coherent (coherent_of_fresh settings)).flow former about
  rw [reachedShown.settings_eq] at formerCoherent
  have cutAnswer : history respond { settings } initial operations =
      (past ++ shown :: between) ++ answer :: future := by simpa using cut
  rcases reached_of_history_turn cutAnswer with ⟨reached, performed, _⟩
  have coherent := (reached.coherent (coherent_of_fresh settings)).flow flow isPending
  rw [reached.settings_eq] at coherent
  -- Both flows are of one device, so the gate listens to the prompts of either.
  have samePolicy : flow.policy = former.policy :=
    coherent.policy.trans formerCoherent.policy.symm
  have hears : answer.before.Hears response :=
    hears_of_answers prompts answers (samePolicy ▸ coherent.registered)
  have reviewable : response.action = .review → flow.policy = .tofu := by
    intro review
    rcases Flow.source_of_answers prompts answers with
      ⟨_, decides⟩ | ⟨_, ⟨policy, _⟩ | ⟨_, decides⟩⟩
    · exact absurd review decides
    · exact samePolicy.trans policy
    · exact absurd review decides
  rcases performs_of_eq_turn performed with ⟨effect, brings, makes, after⟩
  rw [handled] at brings
  have spares := spares_iff_of_brings brings makes hears isPending reviewable
  rw [answers.ssid?, Flow.ssid_of_prompt? prompts, ne_eq, Option.some.injEq, ← after] at spares
  exact spares

section Namesakes

/-- The dialog of one network is shown, another network takes its place and presents a certificate,
and then the dialog is answered. -/
def overtaken (ssid : String) : List (Turn Surroundings) :=
  history Surroundings.reply { settings := ⟨true, "wlan0", ""⟩ } {} [
    .prepare (newcomer 5 "corp"), .offer "corp" (radius [1]), .request true,
    .prepare (newcomer 9 ssid), .offer ssid (radius [2]),
    .respond ⟨some "corp", .accept, .dialog⟩]

/-- The answer to the dialog about the network numbered 5, whose flow is over, pins the certificate
of its namesake numbered 9. No prompt but this dialog has been shown. -/
theorem late_answer_pins_unseen_certificate :
    ∃ past shown between answer prompt handle response former flow,
      overtaken "corp" = past ++ shown :: (between ++ [answer]) ∧
        (∃ start ∈ between, start.StartsFlow) ∧
        ⟨.present prompt, handle⟩ ∈ shown.transcript ∧ prompt.Answers response ∧
        answer.operation = .respond response ∧
        shown.before.flow? = some former ∧ former.networkId = 5 ∧
        answer.before.flow? = some flow ∧ flow.networkId = 9 ∧
        (overtaken "corp").flatMap (fun turn => seen shown? turn.transcript) = [prompt] ∧
        answer.changes = [(9, .pin (radius [2])), (9, .setAutoConnect true)] ∧
        ¬answer.Spares flow := by
  refine ⟨[_, _], _, [_, _], _, _, 1, _, _, _, rfl, ⟨_, .head _, _, rfl, rfl⟩, .head _,
    ⟨.positive, rfl⟩, rfl, rfl, rfl, rfl, rfl, rfl, rfl, fun spares => ?_⟩
  cases spares.1

/-- The same answer leaves the flow of a network of another name alone. -/
theorem late_answer_spares_other_name :
    ∃ answer ∈ overtaken "lab", ∃ flow,
      answer.operation = .respond ⟨some "corp", .accept, .dialog⟩ ∧
        answer.before.flow? = some flow ∧ flow.networkId = 9 ∧ answer.Spares flow := by
  refine ⟨_, .tail _ (.tail _ (.tail _ (.tail _ (.tail _ (.head _))))), _, rfl, rfl, rfl, ?_⟩
  apply (late_answer_spares_iff [_, _] [_, _] [] ?cut ?about ?presented ?answers ?handled
    ?isPending).mpr
  case cut => exact (rfl : overtaken "lab" = _)
  case about => rfl
  case presented => exact .head _
  case answers => exact ⟨.positive, rfl⟩
  case handled => rfl
  case isPending => rfl
  exact .inl (by decide)

end Namesakes

end Gate

end TrustGate
