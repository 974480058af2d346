import TrustGate.Gate.Basic

/-!
# The controller

A gate is used by several clients at once: connections, certificates and
answers come from different sides. The controller owns the gate and takes the
commands of all clients from one queue, one at a time, until it is told to
stop. A command that comes later finds it stopped, and gets the answer of a
gate at which nothing goes on.
-/

namespace TrustGate

structure FlowSnapshot where
  state : FlowState := .idle
  connection? : Option PendingConnection := none
  certificate? : Option PendingCertificate := none
deriving Repr, DecidableEq

def Gate.snapshot (gate : Gate) : FlowSnapshot where
  state := gate.state
  connection? := gate.flow?.map Flow.connection
  certificate? := gate.certificate?

structure Controller where
  gate : Gate
  running : Bool := true
deriving Repr, DecidableEq

namespace Controller

inductive Command
  | operate (operation : Gate.Operation)
  | snapshot
  | shutdown
deriving Repr, DecidableEq

inductive Answer
  | none
  | result (value : Bool)
  | snapshot (value : FlowSnapshot)
deriving Repr, DecidableEq

/-- The answer that carries the result of an operation, if it has one. -/
def Answer.ofResult? : Option Bool → Answer
  | some value => .result value
  | Option.none => .none

/-- The answer of a controller that has stopped. -/
def stoppedAnswer : Command → Answer
  | .operate (.prepare _) => .result false
  | .operate (.offer _ _) => .result false
  | .operate (.request _) => .result false
  | .operate (.respond _) => .none
  | .operate .clear => .none
  | .snapshot => .snapshot {}
  | .shutdown => .none

def perform (controller : Controller) (command : Command) :
    Exchange GateReply (Answer × Controller) :=
  if !controller.running then .done (stoppedAnswer command, controller)
  else
    match command with
    | .operate operation => do
        let (result, gate) ← controller.gate.perform operation
        return (.ofResult? result, { controller with gate })
    | .snapshot => .done (.snapshot controller.gate.snapshot, controller)
    | .shutdown => .done (.none, { controller with running := false })

/-- Takes commands in the order of the queue. -/
def performAll (controller : Controller) :
    List Command → Exchange GateReply (List Answer × Controller)
  | [] => .done ([], controller)
  | command :: commands => do
      let (answer, controller) ← controller.perform command
      let (answers, controller) ← controller.performAll commands
      return (answer :: answers, controller)

/-- What a client sees at present. -/
def view (controller : Controller) : FlowSnapshot :=
  if controller.running then controller.gate.snapshot else {}

end Controller

end TrustGate
