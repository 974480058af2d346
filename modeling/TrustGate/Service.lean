import TrustGate.Controller

/-!
# The service

A controller works on a thread of its own, the worker, and clients reach it by
handles. All handles feed one queue. A call puts its command into the queue,
and one that returns something waits on a channel of its own until the worker
has sent the answer or nobody is left who could. The worker takes one command
after another, performs it, and answers it. Told to stop, it leaves the queue as
it is, and as soon as the queue is gone so is all that was in it.

`step?` is what one party does next, for any party whose turn it is. The worker
goes from one call of the gate to the next, so clients may act between any two
of them. A client makes its calls one after another; who uses a handle from
several sides at once is several clients.

What surrounds the gate is asked by the worker only. A responder may keep count
of the calls, so it can give any replies, also such that depend on what else
happens meanwhile.
-/

namespace TrustGate

namespace Service

/-- A call of a client. Its number is that of the channel for its answer. -/
structure Call (Client : Type) where
  number : Nat
  client : Client
  command : Controller.Command
deriving Repr, DecidableEq

inductive Channel
  | pending
  | sent (answer : Controller.Answer)
  /-- Nobody can send any more. -/
  | closed
deriving Repr, DecidableEq

/-- What a call that waits on a channel returns, once it returns. -/
def Channel.result? (command : Controller.Command) : Channel → Option Controller.Answer
  | .pending => none
  | .sent answer => some answer
  | .closed => some (Controller.stoppedAnswer command)

inductive Worker (Client : Type)
  /-- Waits for the next command. -/
  | listening (controller : Controller)
  /-- Performs a command, as far as this is still to be done. -/
  | serving (call : Call Client)
      (rest : Exchange GateReply (Controller.Answer × Controller))
  /-- Takes no further command; the queue is still there. -/
  | stopped
  /-- Has taken the queue with it. -/
  | gone

end Service

/-- Whether a call with a command waits for what comes of it. -/
def Controller.Command.returns : Controller.Command → Bool
  | .operate (.prepare _) => true
  | .operate (.offer _ _) => true
  | .operate (.request _) => true
  | .operate (.respond _) => false
  | .operate .clear => false
  | .snapshot => true
  | .shutdown => false

open Service in
/-- A controller with those who use it. The last four fields keep a record and decide nothing. -/
structure Service (Client σ : Type) where
  worker : Worker Client
  /-- What surrounds the gate. -/
  surroundings : σ
  /-- The clients that have a handle. -/
  handles : List Client
  queue : List (Call Client) := []
  channels : Nat → Channel := fun _ => .pending
  /-- The call whose answer a client waits for. -/
  waiting : Client → Option (Call Client) := fun _ => none
  /-- All calls in the order in which they were made. -/
  calls : List (Call Client) := []
  /-- The calls whose commands the worker has taken. -/
  taken : List (Call Client) := []
  /-- The calls that have returned something, with what it was. -/
  returned : List (Call Client × Controller.Answer) := []
  transcript : List (Exchange.Event GateReply) := []

namespace Service

variable {Client σ : Type}

/-- Starts a worker on a gate. The first handle is for one client. -/
def spawn (gate : Gate) (surroundings : σ) (client : Client) : Service Client σ where
  worker := .listening { gate }
  surroundings
  handles := [client]

/-- Puts the same into the channels of some calls. -/
def fill (service : Service Client σ) (calls : List (Call Client)) (content : Channel) :
    Service Client σ :=
  { service with
    channels := fun number =>
      if calls.any (·.number == number) then content else service.channels number }

/-- Puts a call into the queue. If there is no queue, the call is dropped and with it the end of
its channel that could have sent something. -/
def send (service : Service Client σ) (call : Call Client) : Service Client σ :=
  match service.worker with
  | .gone => service.fill [call] .closed
  | _ => { service with queue := service.queue ++ [call] }

section Worker

variable (respond : (call : GateCall) → σ → GateReply call × σ)

/-- What the worker does next, unless it waits for a command or is gone. -/
def work? (service : Service Client σ) : Option (Service Client σ) :=
  match service.worker with
  | .listening controller =>
      match service.queue with
      | call :: queue =>
          some { service with
            worker := .serving call (controller.perform call.command)
            queue
            taken := service.taken ++ [call] }
      | [] => if service.handles.isEmpty then some { service with worker := .stopped } else none
  | .serving call (.ask question next) =>
      let (reply, surroundings) := respond question service.surroundings
      some { service with
        worker := .serving call (next reply)
        surroundings
        transcript := service.transcript ++ [⟨question, reply⟩] }
  | .serving call (.done (answer, controller)) =>
      some { service.fill [call] (.sent answer) with
        worker := if controller.running then .listening controller else .stopped }
  | .stopped => some { service.fill service.queue .closed with worker := .gone, queue := [] }
  | .gone => none

end Worker

section Client

variable [DecidableEq Client]

/-- Whether a client has a handle and no call that it waits for. -/
def isFree (service : Service Client σ) (client : Client) : Bool :=
  client ∈ service.handles ∧ service.waiting client = none

/-- Gives a client without a handle a copy of another one's. -/
def clone? (service : Service Client σ) (client newcomer : Client) : Option (Service Client σ) :=
  if service.isFree client ∧ newcomer ∉ service.handles then
    some { service with handles := service.handles ++ [newcomer] }
  else none

def drop? (service : Service Client σ) (client : Client) : Option (Service Client σ) :=
  if service.isFree client then
    some { service with handles := service.handles.filter (· ≠ client) }
  else none

def call? (service : Service Client σ) (client : Client) (command : Controller.Command) :
    Option (Service Client σ) :=
  if service.isFree client then
    let call : Call Client := ⟨service.calls.length, client, command⟩
    some { service.send call with
      calls := service.calls ++ [call]
      waiting := fun other =>
        if other = client ∧ command.returns then some call else service.waiting other }
  else none

/-- Ends the wait of a client, if something came into its channel or nothing can any more. -/
def receive? (service : Service Client σ) (client : Client) : Option (Service Client σ) := do
  let call ← service.waiting client
  let answer ← (service.channels call.number).result? call.command
  return { service with
    waiting := fun other => if other = client then none else service.waiting other
    returned := service.returned ++ [(call, answer)] }

end Client

/-- What a party does next. -/
inductive Action (Client : Type)
  | clone (client newcomer : Client)
  | drop (client : Client)
  | call (client : Client) (command : Controller.Command)
  | receive (client : Client)
  | work
deriving Repr, DecidableEq

def Action.isWork : Action Client → Bool
  | .work => true
  | _ => false

section Run

variable [DecidableEq Client] (respond : (call : GateCall) → σ → GateReply call × σ)

def step? (service : Service Client σ) : Action Client → Option (Service Client σ)
  | .clone client newcomer => service.clone? client newcomer
  | .drop client => service.drop? client
  | .call client command => service.call? client command
  | .receive client => service.receive? client
  | .work => service.work? respond

/-- An interleaving of what all parties do, if each of them could do it in its turn. -/
def run? (service : Service Client σ) (actions : List (Action Client)) :
    Option (Service Client σ) :=
  actions.foldlM (step? respond) service

end Run

end Service

end TrustGate
