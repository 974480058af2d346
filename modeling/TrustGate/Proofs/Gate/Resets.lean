import TrustGate.Proofs.Gate.History

/-!
# When credentials are dropped

A supplicant that keeps its session would let the next attempt pass without
asking the server for its certificate, so a gate has it drop the session and all
credentials when a flow starts and when one is refused or fails. This file says
that it does so then and at no other time.

`Turn.Occasion` lists the occasions with the network whose session is dropped,
and `DropsOnce` says where in a transcript it happens: at one place, the session
right before the credentials, and before anything is reported. The main
statement joins the two and counts over a whole history.
-/

namespace TrustGate

/-- Whether a flow was refused. -/
def TrustOutcome.isRejected : TrustOutcome → Bool
  | rejected _ => true
  | _ => false

/-- Whether a flow ended as an error. -/
def TrustOutcome.isErrored : TrustOutcome → Bool
  | errored _ => true
  | _ => false

namespace Gate

/-- The interface whose credentials are dropped, if these are what is dropped. -/
def Reset.interface? : Reset → Option String
  | credentials interface => some interface
  | session _ => none

/-- The session of a network is dropped, if one is given, and right after that the credentials of an
interface. Nothing else is dropped, and nothing is reported before. -/
def DropsOnce (interface : String) (id? : Option NetworkId) (transcript : Transcript) : Prop :=
  ∃ first drop last, transcript = first ++ drop ++ last ∧ Drops interface id? drop ∧
    seen reset? first = [] ∧ seen reset? last = [] ∧ seen reported? first = []

/-- Whether an operation with a result has started a flow. -/
def startedBy : Operation → Option Bool → Bool
  | .prepare _, some true => true
  | _, _ => false

namespace Turn

variable {σ : Type}

/-- Whether the turn starts a flow. -/
def isStart (turn : Turn σ) : Bool :=
  startedBy turn.operation turn.result

/-- The interfaces whose credentials the turn drops, one for each call. -/
def forgotten (turn : Turn σ) : List String :=
  turn.resets.filterMap Reset.interface?

/-- Why the turn drops credentials, with the network whose session is dropped too, if one is. -/
inductive Occasion (turn : Turn σ) : Option NetworkId → Prop
  | started {profile : NetworkProfile} (prepared : turn.operation = .prepare profile)
      (started : turn.result = some true) : Occasion turn (some profile.networkId)
  | rejected {flow : Flow} (isPending : turn.before.flow? = some flow)
      (reported : turn.outcomes = [.rejected flow.ssid]) : Occasion turn (some flow.networkId)
  | failed {flow : Flow} (isPending : turn.before.flow? = some flow)
      (reported : turn.outcomes = [.errored (some flow.ssid)]) :
      Occasion turn (some flow.networkId)
  | escalated (idle : turn.before.flow? = none) (reported : turn.outcomes = [.errored none]) :
      Occasion turn none

theorem isStart_iff {turn : Turn σ} : turn.isStart = true ↔ turn.StartsFlow := by
  unfold isStart startedBy StartsFlow
  split
  · next prepared started => simp [prepared, started]
  · next other =>
      simp only [Bool.false_eq_true, false_iff]
      rintro ⟨profile, prepared, started⟩
      exact other profile prepared started

end Turn

/-! ## Effects -/

/-- For which effects credentials are dropped, with the network whose session is dropped too, if one
is. -/
def Effect.occasion? (gate : Gate) : Effect → Option (Option NetworkId)
  | started profile _ => some (some profile.networkId)
  | failed _ => some (gate.flow?.map Flow.networkId)
  | rejected flow => some (some flow.networkId)
  | _ => none

section Makes

variable {gate : Gate} {effect : Effect} {transcript : Transcript} {id? : Option NetworkId}

theorem dropsOnce_of_makes (makes : effect.Makes gate transcript)
    (due : effect.occasion? gate = some id?) :
    DropsOnce gate.settings.interface id? transcript := by
  have quiet := seen_dismissal reset? gate fun _ => rfl
  have silent := seen_dismissal reported? gate fun _ => rfl
  cases makes with
  | @started profile policy drop drops =>
      cases due
      refine ⟨gate.dismissal ++ [⟨.hasValidTrust profile.networkId, false⟩], drop, [], by simp,
        drops, ?_, rfl, ?_⟩
      · simp [quiet, reset?]
      · simp [silent, reported?]
  | failed drops =>
      cases due
      exact ⟨gate.dismissal, _, _, rfl, drops, quiet, rfl, silent⟩
  | @rejected flow drop joined drops =>
      cases due
      refine ⟨gate.dismissal ++ [⟨.update flow.networkId (.setAutoConnect false), joined⟩], drop,
        [⟨.report (.rejected flow.ssid), ()⟩], by simp, drops, ?_, rfl, ?_⟩
      · simp [quiet, reset?]
      · simp [silent, reported?]
  | _ => cases due

theorem resets_of_makes (makes : effect.Makes gate transcript)
    (undue : effect.occasion? gate = none) : seen reset? transcript = [] := by
  have quiet := seen_dismissal reset? gate fun _ => rfl
  cases makes with
  | nothing | kept => rfl
  | dismissed | dropped => exact quiet
  | trusted | presented => simp [quiet, reset?]
  | accepted records =>
      have record := seen_of_records reset? records fun _ _ => rfl
      simp [quiet, record, reset?]
  | started | failed | rejected => cases undue

theorem DropsOnce.interfaces {interface : String}
    (drops : DropsOnce interface id? transcript) :
    (seen reset? transcript).filterMap Reset.interface? = [interface] := by
  rcases drops with ⟨first, drop, last, rfl, drops, before, after, _⟩
  cases drops <;>
    simp [before, after, reset?, Reset.interface?, List.filterMap_cons]

end Makes

/-- Whether an effect starts a flow. -/
def Effect.isStart : Effect → Bool
  | started _ _ => true
  | _ => false

theorem Brings.startedBy_eq {gate : Gate} {operation : Operation} {result : Option Bool}
    {effect : Effect} (brings : gate.Brings operation result effect) :
    startedBy operation result = effect.isStart := by
  cases brings <;> rfl

/-- A response drops nothing if it asks for a review, or if it is not one on the pending flow that
the gate listens to and not one that calls for an error. -/
theorem Brings.occasion?_of_respond {gate : Gate} {response : Response} {result : Option Bool}
    {effect : Effect} (brings : gate.Brings (.respond response) result effect)
    (idle : response.action = .review ∨ ¬gate.Hears response ∨
      (∃ flow, gate.flow? = some flow ∧ response.ssid? ≠ some flow.ssid) ∨
      (gate.flow? = none ∧ gate.IsLate response)) : effect.occasion? gate = none := by
  have excluded : ∀ {flow : Flow}, gate.Hears response → gate.flow? = some flow →
      response.ssid? = some flow.ssid → response.action ≠ .review → False := by
    intro flow heard isPending current decides
    rcases idle with review | unheard | ⟨other, otherPending, different⟩ | ⟨none, _⟩
    · exact decides review
    · exact unheard heard
    · cases isPending.symm.trans otherPending
      exact different current
    · simp [none] at isPending
  cases brings with
  | unheard | stale | reviewedIdle | late | unreviewable | reviewed | accepted => rfl
  | escalated heard none decides unknown =>
      rcases idle with review | unheard | ⟨flow, isPending, _⟩ | ⟨_, late⟩
      · exact absurd review decides
      · exact absurd heard unheard
      · simp [none] at isPending
      · exact absurd late unknown
  | unacceptable heard isPending current accept _ =>
      exact (excluded heard isPending current (by simp [accept])).elim
  | rejected heard isPending current reject =>
      exact (excluded heard isPending current (by simp [reject])).elim

/-- How often an effect drops credentials: once if it starts a flow, and once if it reports a
refusal or an error. -/
def Effect.drops (effect : Effect) : Nat :=
  (if effect.isStart then 1 else 0) + effect.reports.countP TrustOutcome.isRejected +
    effect.reports.countP TrustOutcome.isErrored

theorem interfaces_of_makes {gate : Gate} {effect : Effect} {transcript : Transcript}
    (makes : effect.Makes gate transcript) :
    (seen reset? transcript).filterMap Reset.interface? =
      List.replicate effect.drops gate.settings.interface := by
  cases due : effect.occasion? gate with
  | some id? =>
      rw [(dropsOnce_of_makes makes due).interfaces]
      cases effect with
      | started | failed | rejected => rfl
      | _ => cases due
  | none =>
      rw [resets_of_makes makes due]
      cases effect with
      | started | failed | rejected => cases due
      | _ => rfl

/-! ## Turns -/

section Turns

variable {σ : Type} {turn : Turn σ} {effect : Effect}

/-- The occasions of a turn are those of its effect. -/
theorem Turn.occasion_iff (brings : turn.before.Brings turn.operation turn.result effect)
    (makes : effect.Makes turn.before turn.transcript) {id? : Option NetworkId} :
    turn.Occasion id? ↔ effect.occasion? turn.before = some id? := by
  have outcomes : turn.outcomes = effect.reports := reports_of_makes makes
  have fits := brings.fits
  constructor
  · intro occasion
    cases occasion with
    | started prepared started =>
        rw [prepared, started] at brings
        cases brings
        rfl
    | @rejected flow isPending reported =>
        rw [outcomes] at reported
        cases effect with
        | rejected current =>
            cases Eq.trans (Eq.symm fits) isPending
            rfl
        | _ => simp [Effect.reports] at reported
    | failed isPending reported =>
        rw [outcomes] at reported
        cases effect with
        | failed ssid? => simp [Effect.occasion?, isPending]
        | _ => simp [Effect.reports] at reported
    | escalated idle reported =>
        rw [outcomes] at reported
        cases effect with
        | failed ssid? => simp [Effect.occasion?, idle]
        | _ => simp [Effect.reports] at reported
  · intro due
    cases effect with
    | started profile policy =>
        cases due
        generalize operation : turn.operation = prepare at brings
        generalize started : turn.result = result at brings
        cases brings
        exact .started operation started
    | failed ssid? =>
        cases due
        cases ssid? with
        | none =>
            have idle : turn.before.flow? = none := fits
            rw [idle]
            exact .escalated idle outcomes
        | some ssid =>
            rcases fits with ⟨flow, isPending, rfl⟩
            rw [isPending]
            exact .failed isPending outcomes
    | rejected flow =>
        cases due
        exact .rejected fits outcomes
    | _ => cases due

/-- There is an occasion just if a flow starts, is refused or ends as an error. -/
theorem Turn.exists_occasion_iff (brings : turn.before.Brings turn.operation turn.result effect)
    (makes : effect.Makes turn.before turn.transcript) :
    (∃ id?, turn.Occasion id?) ↔
      turn.StartsFlow ∨ ∃ outcome ∈ turn.outcomes, outcome.isRejected ∨ outcome.isErrored := by
  have outcomes : turn.outcomes = effect.reports := reports_of_makes makes
  have start : turn.isStart = effect.isStart := brings.startedBy_eq
  simp only [Turn.occasion_iff brings makes, outcomes, ← Turn.isStart_iff, start]
  cases effect <;>
    simp [Effect.occasion?, Effect.isStart, Effect.reports, TrustOutcome.isRejected,
      TrustOutcome.isErrored]

theorem forgotten_eq_replicate (turns : List (Turn σ)) {interface : String}
    (each : ∀ turn ∈ turns, turn.forgotten = List.replicate ((if turn.isStart then 1 else 0) +
      turn.outcomes.countP TrustOutcome.isRejected + turn.outcomes.countP TrustOutcome.isErrored)
        interface) :
    turns.flatMap Turn.forgotten = List.replicate (turns.countP Turn.isStart +
      (turns.flatMap Turn.outcomes).countP TrustOutcome.isRejected +
      (turns.flatMap Turn.outcomes).countP TrustOutcome.isErrored) interface := by
  induction turns with
  | nil => rfl
  | cons turn turns ih =>
      rw [List.forall_mem_cons] at each
      rw [List.flatMap_cons, List.flatMap_cons, List.countP_cons, List.countP_append,
        List.countP_append, each.1, ih each.2, List.replicate_append_replicate]
      congr 1
      omega

end Turns

/-- A fresh gate has credentials dropped exactly when it has to. They are those of the interface of
the device, and over a history they are dropped once for each flow that starts, once for each
refusal and once for each error. Each time the session of the network started or resolved is dropped
right before them, unless the error is one without a network; nothing else is dropped in that turn,
and it reports nothing before. In all other turns nothing is dropped at all: when an attempt passes
unasked, when a certificate is offered, when a prompt is shown, when a flow is accepted or cleared,
and by a response that asks for a review, is not listened to, is for another network, or is late. -/
theorem credentials_dropped_exactly_when_due
    (respond : (call : GateCall) → σ → GateReply call × σ) (settings : GateSettings) (initial : σ)
    (operations : List Operation) :
    let turns := history respond { settings } initial operations
    turns.flatMap Turn.forgotten = List.replicate (turns.countP Turn.isStart +
      (turns.flatMap Turn.outcomes).countP TrustOutcome.isRejected +
      (turns.flatMap Turn.outcomes).countP TrustOutcome.isErrored) settings.interface ∧
    ∀ turn ∈ turns,
      ((∃ id?, turn.Occasion id?) ↔
        turn.StartsFlow ∨ ∃ outcome ∈ turn.outcomes, outcome.isRejected ∨ outcome.isErrored) ∧
      (∀ id?, turn.Occasion id? → DropsOnce settings.interface id? turn.transcript) ∧
      ((∀ id?, ¬turn.Occasion id?) → turn.resets = []) ∧
      match turn.operation with
      | .prepare _ => turn.result = some false → turn.resets = []
      | .offer _ _ | .clear => turn.resets = []
      | .request _ => turn.outcomes = [] → turn.resets = []
      | .respond response =>
          (∃ ssid, .accepted ssid ∈ turn.outcomes) ∨ response.action = .review ∨
              ¬turn.before.Hears response ∨
              (∃ flow, turn.before.flow? = some flow ∧ response.ssid? ≠ some flow.ssid) ∨
              (turn.before.flow? = none ∧ turn.before.IsLate response) →
            turn.resets = [] := by
  intro turns
  have performed : ∀ turn ∈ turns, turn.before.settings = settings ∧
      ∃ effect, turn.before.Brings turn.operation turn.result effect ∧
        effect.Makes turn.before turn.transcript := by
    intro turn mem
    rcases exists_reached_of_mem mem with ⟨_, reached, performed⟩
    rcases performs_of_eq_turn performed with ⟨effect, brings, makes, _⟩
    exact ⟨reached.settings_eq, effect, brings, makes⟩
  refine ⟨forgotten_eq_replicate turns fun turn mem => ?_, fun turn mem => ?_⟩
  · rcases performed turn mem with ⟨same, effect, brings, makes⟩
    have outcomes : turn.outcomes = effect.reports := reports_of_makes makes
    have start : turn.isStart = effect.isStart := brings.startedBy_eq
    rw [outcomes, start, ← same]
    exact interfaces_of_makes makes
  · rcases performed turn mem with ⟨same, effect, brings, makes⟩
    have outcomes : turn.outcomes = effect.reports := reports_of_makes makes
    refine ⟨Turn.exists_occasion_iff brings makes, fun id? occasion => ?_, fun undue => ?_, ?_⟩
    · exact same ▸ dropsOnce_of_makes makes ((Turn.occasion_iff brings makes).mp occasion)
    · apply resets_of_makes makes
      apply Option.eq_none_iff_forall_ne_some.mpr
      intro id? due
      exact undue id? ((Turn.occasion_iff brings makes).mpr due)
    · have quiet : effect.occasion? turn.before = none → turn.resets = [] := resets_of_makes makes
      rw [outcomes]
      generalize turn.operation = operation at brings ⊢
      generalize turn.result = result at brings ⊢
      cases operation with
      | prepare profile =>
          rintro rfl
          cases brings <;> exact quiet rfl
      | offer ssid certificate | clear => cases brings <;> exact quiet rfl
      | request userInitiated =>
          intro silent
          cases brings with
          | unasked | asked => exact quiet rfl
          | lacking => cases silent
      | respond response =>
          rintro (⟨ssid, accepted⟩ | idle)
          · apply quiet
            cases effect with
            | accepted => rfl
            | _ => simp [Effect.reports] at accepted
          · exact quiet (brings.occasion?_of_respond idle)

end Gate

end TrustGate
