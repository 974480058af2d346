import Mathlib.Data.List.Induction
import Mathlib.Data.List.TakeWhile
import TrustGate.Controller
import TrustGate.Proofs.Gate.History

/-!
# Commands one after another

What comes of a list of commands if a controller performs one after another:
the answers, the calls of the gate, and the controller that is left. Up to the
first shutdown this is a history of the gate; what comes after it does nothing
and has the answers of a controller that has stopped.
-/

namespace TrustGate

namespace Controller

variable {σ : Type} (respond : (call : GateCall) → σ → GateReply call × σ)

/-- Performs commands one after another in given surroundings. -/
def serve (controller : Controller) (surroundings : σ) (commands : List Command) :
    Exchange.Run GateReply σ (List Answer × Controller) :=
  (controller.performAll commands).run respond surroundings

@[simp]
theorem serve_nil (controller : Controller) (surroundings : σ) :
    controller.serve respond surroundings [] = ⟨([], controller), [], surroundings⟩ :=
  rfl

theorem serve_cons (controller : Controller) (surroundings : σ) (command : Command)
    (commands : List Command) :
    controller.serve respond surroundings (command :: commands) =
      let first := (controller.perform command).run respond surroundings
      let later := first.value.2.serve respond first.surroundings commands
      ⟨(first.value.1 :: later.value.1, later.value.2), first.transcript ++ later.transcript,
        later.surroundings⟩ := by
  simp only [serve, performAll, Exchange.run_bind]
  simp [Exchange.run, Pure.pure]

theorem serve_append (controller : Controller) (surroundings : σ) (first second : List Command) :
    controller.serve respond surroundings (first ++ second) =
      let before := controller.serve respond surroundings first
      let after := before.value.2.serve respond before.surroundings second
      ⟨(before.value.1 ++ after.value.1, after.value.2), before.transcript ++ after.transcript,
        after.surroundings⟩ := by
  induction first generalizing controller surroundings with
  | nil => rfl
  | cons command first ih => simp only [List.cons_append, serve_cons, ih, List.append_assoc]

theorem length_serve (controller : Controller) (surroundings : σ) (commands : List Command) :
    (controller.serve respond surroundings commands).value.1.length = commands.length := by
  induction commands generalizing controller surroundings with
  | nil => rfl
  | cons command commands ih => simp [serve_cons, ih]

/-! ## Stopping -/

theorem perform_of_stopped {controller : Controller} (stopped : controller.running = false)
    (command : Command) :
    controller.perform command = .done (stoppedAnswer command, controller) := by
  simp [perform, stopped]

theorem serve_of_stopped {controller : Controller} (stopped : controller.running = false)
    (surroundings : σ) (commands : List Command) :
    controller.serve respond surroundings commands =
      ⟨(commands.map stoppedAnswer, controller), [], surroundings⟩ := by
  induction commands with
  | nil => rfl
  | cons command commands ih => simp [serve_cons, perform_of_stopped stopped, Exchange.run, ih]

section Perform

variable (gate : Gate) (surroundings : σ)

theorem run_operate (operation : Gate.Operation) :
    (perform { gate } (.operate operation)).run respond surroundings =
      let turn := gate.turn respond surroundings operation
      ⟨(.ofResult? turn.result, { gate := turn.after }), turn.transcript, turn.later⟩ := by
  simp only [perform, Bool.not_true, Bool.false_eq_true, ↓reduceIte, Exchange.run_bind]
  simp [Exchange.run, Pure.pure, Gate.turn]

theorem run_snapshot :
    (perform { gate } .snapshot).run respond surroundings =
      ⟨(.snapshot gate.snapshot, { gate }), [], surroundings⟩ :=
  rfl

theorem run_shutdown :
    (perform { gate } .shutdown).run respond surroundings =
      ⟨(.none, { gate, running := false }), [], surroundings⟩ :=
  rfl

end Perform

/-- A controller runs until it is told to stop. -/
theorem running_perform (controller : Controller) (surroundings : σ) (command : Command) :
    ((controller.perform command).run respond surroundings).value.2.running =
      (controller.running && decide (command ≠ .shutdown)) := by
  rcases controller with ⟨gate, _ | _⟩
  · simp [perform_of_stopped, Exchange.run]
  · cases command with
    | operate operation => simp [run_operate]
    | snapshot => rfl
    | shutdown => rfl

theorem running_serve (controller : Controller) (surroundings : σ) (commands : List Command) :
    (controller.serve respond surroundings commands).value.2.running =
      (controller.running && decide (.shutdown ∉ commands)) := by
  induction commands generalizing controller surroundings with
  | nil => simp
  | cons command commands ih =>
      simp only [serve_cons, ih, running_perform, Bool.and_assoc, List.mem_cons, not_or,
        Bool.decide_and]
      simp [eq_comm]

/-- The operation that a command asks of the gate. -/
def Command.operation? : Command → Option Gate.Operation
  | .operate operation => some operation
  | .snapshot => none
  | .shutdown => none

/-- The operations that come before the first shutdown. -/
def operationsOf (commands : List Command) : List Gate.Operation :=
  (commands.takeWhile (· ≠ .shutdown)).filterMap Command.operation?

/-- The calls of the gate are those of a history, of the operations before the first shutdown. -/
theorem transcript_serve (gate : Gate) (surroundings : σ) (commands : List Command) :
    (serve respond { gate } surroundings commands).transcript =
      (gate.history respond surroundings (operationsOf commands)).flatMap Gate.Turn.transcript := by
  induction commands generalizing gate surroundings with
  | nil => rfl
  | cons command commands ih =>
      cases command with
      | operate operation =>
          simp [serve_cons, run_operate, ih, operationsOf, Command.operation?, Gate.history]
      | snapshot =>
          simp [serve_cons, run_snapshot, ih, operationsOf, List.filterMap_cons,
            Command.operation?]
      | shutdown =>
          simp [serve_cons, run_shutdown, serve_of_stopped, operationsOf, Gate.history]

theorem operationsOf_append {first : List Command} (running : .shutdown ∉ first)
    (second : List Command) :
    operationsOf (first ++ second) = operationsOf first ++ operationsOf second := by
  have kept : ∀ command ∈ first, decide (command ≠ .shutdown) = true := fun command mem =>
    decide_eq_true fun same => running (same ▸ mem)
  rw [operationsOf, List.takeWhile_append_of_pos kept, List.filterMap_append, operationsOf,
    operationsOf, List.takeWhile_eq_self_iff.mpr kept]

/-- Without a shutdown the controller is left with the gate to which the history leads. -/
theorem reached_serve (gate : Gate) (surroundings : σ) {commands : List Command}
    (running : .shutdown ∉ commands) :
    ∃ now, (serve respond { gate } surroundings commands).value.2 = { gate := now } ∧
      Gate.Reached respond gate surroundings
        (gate.history respond surroundings (operationsOf commands)) now
        (serve respond { gate } surroundings commands).surroundings := by
  induction commands using List.reverseRecOn with
  | nil => exact ⟨gate, rfl, .start⟩
  | append_singleton commands command ih =>
      rw [List.mem_append, List.mem_singleton, not_or] at running
      obtain ⟨now, controller, reached⟩ := ih running.1
      rw [operationsOf_append running.1]
      simp only [serve_append, controller]
      cases command with
      | operate operation =>
          rw [show operationsOf [.operate operation] = [operation] from rfl,
            Gate.history_concat reached]
          simp only [serve_cons, run_operate, serve_nil]
          exact ⟨_, rfl, reached.turn operation⟩
      | snapshot =>
          rw [show operationsOf [.snapshot] = [] from rfl, List.append_nil]
          exact ⟨now, rfl, reached⟩
      | shutdown => exact absurd rfl running.2

/-- A command that comes after a shutdown has the answer of a stopped controller. -/
theorem answer_after_shutdown (gate : Gate) (surroundings : σ) {before : List Command}
    (stopped : .shutdown ∈ before) (command : Command) (later : List Command) :
    (serve respond { gate } surroundings (before ++ command :: later)).value.1[before.length]? =
      some (stoppedAnswer command) := by
  have length := length_serve respond { gate } surroundings before
  have halted : (serve respond { gate } surroundings before).value.2.running = false := by
    simp [running_serve, stopped]
  simp [serve_append, serve_of_stopped respond halted, ← length]

end Controller

end TrustGate
