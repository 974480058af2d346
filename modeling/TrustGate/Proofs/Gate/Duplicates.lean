import TrustGate.Gate.Surroundings
import TrustGate.Proofs.Gate.History

/-!
# Answers to the flow that ended last

When a flow is over, the user may still answer its prompts, and an answer may
come twice. A gate without a flow therefore keeps the name of the network whose
flow ended last, and drops answers that carry it. Any other answer then tells
that somebody waits for an outcome, so it is turned into an error.

Such an error ends no flow, but it is written over the name. The main statement
says exactly when an answer to the flow that ended last is dropped: when the
gate does not listen to it, or when no such error has been reported since the
flow ended. In a sample run a stray answer is enough for the second answer to an
accepted connection to drop the credentials of the interface.
-/

namespace TrustGate

namespace Gate

variable {σ : Type} {respond : (call : GateCall) → σ → GateReply call × σ}

namespace Turn

/-- The flow is pending before the turn and over after it: resolved, cleared or superseded. -/
def Concludes (turn : Turn σ) (flow : Flow) : Prop :=
  turn.before.flow? = some flow ∧ (turn.after.flow? = none ∨ turn.StartsFlow)

/-- The turn tells the owner nothing, changes nothing in the store and lets the supplicant drop
nothing. -/
def Silent (turn : Turn σ) : Prop :=
  turn.outcomes = [] ∧ turn.changes = [] ∧ turn.resets = []

end Turn

section Step

variable {gate after : Gate} {operation : Operation} {transcript : Transcript}
  {result : Option Bool}

theorem Performs.retired?_of_pending (performs : gate.Performs operation transcript result after)
    {flow : Flow} (isPending : gate.flow? = some flow) (idle : after.flow? = none) :
    after.retired? = some flow.ssid := by
  rcases performs with ⟨effect, brings, _, rfl⟩
  have fits := brings.fits
  cases effect with
  | nothing | dismissed => simp [Effect.after, isPending] at idle
  | dropped trusted? => simp [Effect.after, retire, isPending]
  | started | kept | presented => cases idle
  | failed ssid? =>
      cases ssid? with
      | none => simp [Effect.Fits, isPending] at fits
      | some ssid =>
          rcases fits with ⟨current, currentPending, rfl⟩
          cases currentPending.symm.trans isPending
          rfl
  | accepted current =>
      cases fits.1.symm.trans isPending
      rfl
  | rejected current =>
      cases Eq.trans (Eq.symm fits) isPending
      rfl

theorem Performs.retired?_of_idle (performs : gate.Performs operation transcript result after)
    (before : gate.flow? = none) (idle : after.flow? = none) (ssid : String) :
    after.retired? = some ssid ↔
      gate.retired? = some ssid ∧ .errored none ∉ seen reported? transcript := by
  rcases performs with ⟨effect, brings, makes, rfl⟩
  have fits := brings.fits
  rw [reports_of_makes makes]
  -- Only an error without a network writes over the name; the other effects need or leave a flow.
  cases effect with
  | nothing | dismissed => simp [Effect.after, Effect.reports]
  | dropped trusted? => simp [Effect.after, Effect.reports, retire, before]
  | started => cases idle
  | failed ssid? =>
      cases ssid? with
      | none => simp [Effect.after, Effect.reports]
      | some other => simp [Effect.Fits, before] at fits
  | kept | presented | accepted | rejected => simp [Effect.Fits, before] at fits

theorem silent_iff_of_brings {response : Response} {effect : Effect}
    (brings : gate.Brings (.respond response) result effect) (makes : effect.Makes gate transcript)
    (idle : gate.flow? = none) (decides : response.action ≠ .review) :
    (seen reported? transcript = [] ∧ seen changed? transcript = [] ∧
        seen reset? transcript = []) ↔
      ¬gate.Hears response ∨ gate.IsLate response := by
  cases brings with
  | unheard unheard =>
      cases makes
      exact iff_of_true ⟨rfl, rfl, rfl⟩ (.inl unheard)
  | late _ _ _ late =>
      cases makes
      exact iff_of_true ⟨rfl, rfl, rfl⟩ (.inr late)
  | escalated heard _ _ unknown =>
      rw [reports_of_makes makes]
      have neither : ¬(¬gate.Hears response ∨ gate.IsLate response) :=
        not_or.mpr ⟨Classical.not_not.mpr heard, unknown⟩
      exact iff_of_false (by simp [Effect.reports]) neither
  | reviewedIdle _ _ review => exact absurd review decides
  | stale _ isPending | unreviewable _ isPending | reviewed _ _ isPending
  | unacceptable _ isPending | accepted _ isPending | rejected _ isPending =>
      simp [isPending] at idle

end Step

/-- Over turns that end no flow and leave none pending, none was pending at their beginning, and the
name that was kept then is kept still if no error without a network was reported. -/
theorem Reached.retired? {first gate : Gate} {initial surroundings : σ} {since : List (Turn σ)}
    (reached : Reached respond first initial since gate surroundings)
    (unconcluded : ∀ turn ∈ since, ∀ flow, ¬turn.Concludes flow) (idle : gate.flow? = none) :
    first.flow? = none ∧ ∀ ssid, gate.retired? = some ssid ↔
      first.retired? = some ssid ∧ ∀ turn ∈ since, .errored none ∉ turn.outcomes := by
  induction reached with
  | start => simp [idle]
  | @turn since gate surroundings _ operation ih =>
      simp only [List.forall_mem_append, List.forall_mem_singleton] at unconcluded ⊢
      have before : gate.flow? = none := by
        apply Option.eq_none_iff_forall_ne_some.mpr
        intro flow isPending
        exact unconcluded.2 flow ⟨isPending, .inl idle⟩
      rcases ih unconcluded.1 before with ⟨idleFirst, kept⟩
      refine ⟨idleFirst, fun ssid => ?_⟩
      have performs := performs_turn respond gate surroundings operation
      rw [performs.retired?_of_idle before idle ssid, kept, and_assoc]
      rfl

/-- While no flow is pending, an acceptance or a refusal for the network whose flow ended last is
met with silence just if the gate does not listen to it or no error without a network has been
reported since that flow ended. -/
theorem answer_to_last_flow_silent_iff {settings : GateSettings} {initial : σ}
    {operations : List Operation} (earlier since future : List (Turn σ)) {last answer : Turn σ}
    {former : Flow} {response : Response}
    (cut : history respond { settings } initial operations =
      earlier ++ last :: (since ++ answer :: future))
    (concludes : last.Concludes former)
    (unconcluded : ∀ turn ∈ since, ∀ flow, ¬turn.Concludes flow)
    (idle : answer.before.flow? = none) (handled : answer.operation = .respond response)
    (decides : response.action ≠ .review) (named : response.ssid? = some former.ssid) :
    answer.Silent ↔
      ¬answer.before.Hears response ∨ ∀ turn ∈ since, .errored none ∉ turn.outcomes := by
  rcases reached_of_history_turn cut with ⟨_, performedLast, _, continued⟩
  rcases reached_of_history_turn continued.symm with ⟨reached, performed, _⟩
  rcases reached.retired? unconcluded idle with ⟨idleAfter, kept⟩
  have retired : last.after.retired? = some former.ssid :=
    (performs_of_eq_turn performedLast).retired?_of_pending concludes.1 idleAfter
  rcases performs_of_eq_turn performed with ⟨effect, brings, makes, _⟩
  rw [handled] at brings
  have late : answer.before.IsLate response ↔ ∀ turn ∈ since, .errored none ∉ turn.outcomes := by
    calc answer.before.IsLate response
        ↔ answer.before.retired? = some former.ssid := by simp [IsLate, named, eq_comm]
      _ ↔ ∀ turn ∈ since, .errored none ∉ turn.outcomes := by rw [kept, retired]; simp
  rw [← late]
  exact silent_iff_of_brings brings makes idle decides

section Strays

/-- The dialog about a network is answered positively. -/
def acceptance : Response :=
  ⟨some "corp", .accept, .dialog⟩

/-- A network is accepted, other answers come, and then the acceptance comes once more. -/
def acceptedTwice (strays : List Response) : List (Turn Surroundings) :=
  history Surroundings.reply { settings := ⟨false, "wlan0", ""⟩ } {}
    ([.prepare (newcomer 5 "corp"), .request true, .respond acceptance] ++
      (strays ++ [acceptance]).map .respond)

/-- After an answer for another network, the second acceptance of a network is reported as an error,
and the credentials of the interface are dropped. -/
theorem second_acceptance_after_stray_drops_credentials :
    ∃ earlier last stray answer former response,
      acceptedTwice [⟨some "lab", .reject, .dialog⟩] = earlier ++ last :: ([stray] ++ [answer]) ∧
        last.Concludes former ∧ last.outcomes = [.accepted former.ssid] ∧
        (∀ flow, ¬stray.Concludes flow) ∧
        answer.before.flow? = none ∧ answer.operation = .respond response ∧
        response.action = .accept ∧ response.ssid? = some former.ssid ∧
        answer.outcomes = [.errored none] ∧ answer.resets = [.credentials "wlan0"] := by
  refine ⟨[_, _], _, _, _, _, _, rfl, ⟨rfl, .inl rfl⟩, rfl, fun flow concludes => ?_, rfl, rfl, rfl,
    rfl, rfl, rfl⟩
  cases concludes.1

/-- Right after the first, the second acceptance is met with silence. -/
theorem second_acceptance_silent :
    ∃ answer ∈ acceptedTwice [], answer.before.flow? = none ∧
      answer.operation = .respond acceptance ∧ answer.Silent := by
  refine ⟨_, .tail _ (.tail _ (.tail _ (.head _))), rfl, rfl, ?_⟩
  apply (answer_to_last_flow_silent_iff [_, _] [] [] ?cut ?concludes ?unconcluded ?idle ?handled
    ?decides ?named).mpr
  case cut => exact (rfl : acceptedTwice [] = _)
  case concludes => exact ⟨rfl, .inl rfl⟩
  case unconcluded => simp
  case idle => rfl
  case handled => rfl
  case decides => simp [acceptance]
  case named => rfl
  exact .inr (by simp)

end Strays

end Gate

end TrustGate
