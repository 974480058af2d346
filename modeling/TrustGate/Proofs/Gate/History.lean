import TrustGate.Proofs.Gate.Effect

/-!
# Histories of a gate

A history lists the operations that a gate performs one after another, each with
what it found, what calls it made and what it left behind. `Gate.history` is a
run of `Gate.perform` for a list of operations in given surroundings; a fresh
gate is one with settings and nothing else.

Facts about whole histories are proved backwards: `Reached` relates the turns
up to some point to the gate and the surroundings at that point, and grows by
one turn at the end, so an invariant may speak about all that has happened.
`reached_of_history` cuts a history at any point.
-/

namespace TrustGate

namespace Gate

variable {σ : Type}

/-- An operation of a gate with what came of it. -/
structure Turn (σ : Type) where
  operation : Operation
  before : Gate
  /-- The surroundings before the operation. -/
  earlier : σ
  result : Option Bool
  transcript : Transcript
  after : Gate
  /-- The surroundings after the operation. -/
  later : σ

namespace Turn

/-- The turn starts a flow. -/
def StartsFlow (turn : Turn σ) : Prop :=
  ∃ profile, turn.operation = .prepare profile ∧ turn.result = some true

/-- The outcomes that the turn reports to the owner of the connection. -/
def outcomes (turn : Turn σ) : List TrustOutcome :=
  seen reported? turn.transcript

/-- The changes that the turn asks of the store. -/
def changes (turn : Turn σ) : List (NetworkId × Store.Change) :=
  seen changed? turn.transcript

/-- What the turn asks the supplicant to drop. -/
def resets (turn : Turn σ) : List Reset :=
  seen reset? turn.transcript

end Turn

/-- Performs one operation. -/
def turn (respond : (call : GateCall) → σ → GateReply call × σ) (gate : Gate) (surroundings : σ)
    (operation : Operation) : Turn σ :=
  let run := (gate.perform operation).run respond surroundings
  { operation
    before := gate
    earlier := surroundings
    result := run.value.1
    transcript := run.transcript
    after := run.value.2
    later := run.surroundings }

/-- Performs operations one after another. -/
def history (respond : (call : GateCall) → σ → GateReply call × σ) :
    Gate → σ → List Operation → List (Turn σ)
  | _, _, [] => []
  | gate, surroundings, operation :: operations =>
      let turn := gate.turn respond surroundings operation
      turn :: history respond turn.after turn.later operations

section Performed

variable (respond : (call : GateCall) → σ → GateReply call × σ) (gate : Gate) (surroundings : σ)
  (operation : Operation)

theorem performs_turn :
    gate.Performs operation (gate.turn respond surroundings operation).transcript
      (gate.turn respond surroundings operation).result
      (gate.turn respond surroundings operation).after :=
  performs_of_yields (Exchange.yields_run respond (gate.perform operation) surroundings)

theorem answered_turn :
    Exchange.Answered respond surroundings
      (gate.turn respond surroundings operation).transcript
      (gate.turn respond surroundings operation).later :=
  Exchange.answered_run respond (gate.perform operation) surroundings

end Performed

variable {respond : (call : GateCall) → σ → GateReply call × σ}

/-- From some gate in some surroundings the turns lead to others. -/
inductive Reached (respond : (call : GateCall) → σ → GateReply call × σ) (first : Gate)
    (initial : σ) : List (Turn σ) → Gate → σ → Prop
  | start : Reached respond first initial [] first initial
  | turn {past : List (Turn σ)} {gate : Gate} {surroundings : σ}
      (reached : Reached respond first initial past gate surroundings) (operation : Operation) :
      Reached respond first initial (past ++ [gate.turn respond surroundings operation])
        (gate.turn respond surroundings operation).after
        (gate.turn respond surroundings operation).later

theorem Reached.extend {first gate : Gate} {initial surroundings : σ}
    {earlier past future : List (Turn σ)} {operations : List Operation}
    (reached : Reached respond first initial earlier gate surroundings)
    (cut : history respond gate surroundings operations = past ++ future) :
    ∃ middle between rest, Reached respond first initial (earlier ++ past) middle between ∧
      future = history respond middle between rest := by
  induction past generalizing gate surroundings earlier operations with
  | nil =>
      rw [List.append_nil]
      exact ⟨gate, surroundings, operations, reached, cut.symm⟩
  | cons turn past ih =>
      cases operations with
      | nil => simp [history] at cut
      | cons operation operations =>
          rw [history, List.cons_append, List.cons.injEq] at cut
          rcases cut with ⟨rfl, cut⟩
          simpa using ih (reached.turn operation) cut

/-- The turns that led somewhere can be cut at any of them. -/
theorem Reached.cut {first gate : Gate} {initial surroundings : σ}
    {earlier past later : List (Turn σ)} {turn : Turn σ}
    (reached : Reached respond first initial past gate surroundings)
    (cut : past = earlier ++ turn :: later) :
    Reached respond first initial earlier turn.before turn.earlier ∧
      turn = turn.before.turn respond turn.earlier turn.operation ∧
      Reached respond turn.after turn.later later gate surroundings := by
  induction reached generalizing later with
  | start => simp at cut
  | @turn past gate surroundings reached operation ih =>
      rcases List.eq_nil_or_concat later with rfl | ⟨between, last, rfl⟩
      · rcases List.append_inj' cut rfl with ⟨rfl, same⟩
        cases same
        exact ⟨reached, rfl, .start⟩
      · rw [List.concat_eq_append, ← List.cons_append, ← List.append_assoc] at cut
        rcases List.append_inj' cut rfl with ⟨before, same⟩
        cases same
        rcases ih before with ⟨reachedTurn, performed, reachedLast⟩
        exact ⟨reachedTurn, performed, List.concat_eq_append ▸ reachedLast.turn operation⟩

/-- The first part of a history leads to a point from which the second part goes on. -/
theorem reached_of_history {first : Gate} {initial : σ} {past future : List (Turn σ)}
    {operations : List Operation}
    (cut : history respond first initial operations = past ++ future) :
    ∃ gate surroundings rest, Reached respond first initial past gate surroundings ∧
      future = history respond gate surroundings rest :=
  Reached.start.extend cut

/-- A turn of a history is performed at the point to which the turns before it lead. -/
theorem reached_of_history_turn {first : Gate} {initial : σ} {past future : List (Turn σ)}
    {turn : Turn σ} {operations : List Operation}
    (cut : history respond first initial operations = past ++ turn :: future) :
    Reached respond first initial past turn.before turn.earlier ∧
      turn = turn.before.turn respond turn.earlier turn.operation ∧
      ∃ rest, future = history respond turn.after turn.later rest := by
  rcases reached_of_history cut with ⟨gate, surroundings, rest, reached, continued⟩
  cases rest with
  | nil => simp [history] at continued
  | cons operation rest =>
      rw [history, List.cons.injEq] at continued
      rcases continued with ⟨rfl, rfl⟩
      exact ⟨reached, rfl, rest, rfl⟩

theorem exists_reached_of_mem {first : Gate} {initial : σ} {turn : Turn σ}
    {operations : List Operation} (mem : turn ∈ history respond first initial operations) :
    ∃ past, Reached respond first initial past turn.before turn.earlier ∧
      turn = turn.before.turn respond turn.earlier turn.operation := by
  rcases List.append_of_mem mem with ⟨past, future, cut⟩
  rcases reached_of_history_turn cut with ⟨reached, performed, _⟩
  exact ⟨past, reached, performed⟩

/-- What was performed first comes first in the history of all operations. -/
theorem Reached.history_append {first gate : Gate} {initial surroundings : σ}
    {past : List (Turn σ)} (reached : Reached respond first initial past gate surroundings)
    (operations : List Operation) :
    history respond first initial (past.map Turn.operation ++ operations) =
      past ++ history respond gate surroundings operations := by
  induction reached generalizing operations with
  | start => rfl
  | @turn past gate surroundings _ operation ih =>
      rw [List.map_append, List.append_assoc, List.append_assoc]
      exact ih (operation :: operations)

theorem map_operation_history (first : Gate) (initial : σ) (operations : List Operation) :
    (history respond first initial operations).map Turn.operation = operations := by
  induction operations generalizing first initial with
  | nil => rfl
  | cons operation operations ih => exact congrArg (operation :: ·) (ih _ _)

/-- The history of one operation more ends with the turn of this operation. -/
theorem history_concat {first gate : Gate} {initial surroundings : σ}
    {operations : List Operation}
    (reached : Reached respond first initial (history respond first initial operations) gate
      surroundings) (operation : Operation) :
    history respond first initial (operations ++ [operation]) =
      history respond first initial operations ++ [gate.turn respond surroundings operation] := by
  have appended := reached.history_append [operation]
  rwa [map_operation_history] at appended

/-- A turn of a history comes to what its operation can come to. -/
theorem performs_of_eq_turn {turn : Turn σ}
    (performed : turn = turn.before.turn respond turn.earlier turn.operation) :
    turn.before.Performs turn.operation turn.transcript turn.result turn.after := by
  have performs := performs_turn respond turn.before turn.earlier turn.operation
  rwa [← performed] at performs

theorem answered_of_eq_turn {turn : Turn σ}
    (performed : turn = turn.before.turn respond turn.earlier turn.operation) :
    Exchange.Answered respond turn.earlier turn.transcript turn.later := by
  have answered := answered_turn respond turn.before turn.earlier turn.operation
  rwa [← performed] at answered

@[simp]
theorem settings_after (gate : Gate) (effect : Effect) :
    (effect.after gate).settings = gate.settings := by
  cases effect <;> simp [Effect.after]

theorem Performs.settings_eq {gate after : Gate} {operation : Operation} {transcript : Transcript}
    {result : Option Bool} (performs : gate.Performs operation transcript result after) :
    after.settings = gate.settings := by
  rcases performs with ⟨effect, _, _, rfl⟩
  exact settings_after gate effect

theorem Reached.settings_eq {first gate : Gate} {initial surroundings : σ}
    {past : List (Turn σ)} (reached : Reached respond first initial past gate surroundings) :
    gate.settings = first.settings := by
  induction reached with
  | start => rfl
  | @turn _ gate surroundings _ operation ih =>
      rw [(performs_turn respond gate surroundings operation).settings_eq, ih]

/-! ## Samples -/

/-- A saved network that has to be approved. -/
def newcomer (networkId : NetworkId) (ssid : String) : NetworkProfile where
  networkId
  ssid
  enterprise := some { eapMethod := .peap, tofuEnabled := true }

/-- A certificate with readable names. -/
def radius (der : Bytes) : ServerCertificate where
  der
  subject := "CN=radius"
  issuer := "CN=authority"

end Gate

end TrustGate
