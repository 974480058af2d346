import TrustGate.Session

/-!
# Queued sessions

A session whose controller works on a thread of its own. Keys and ticks come to
the screen one after another, until the screen is left. A key may put a command
into the queue of the controller, and does not wait for it. A tick waits until
the worker has taken all that is queued, and then takes in the snapshot and the
oldest outcome. Between any two of them, and when the screen has been left, the
worker takes commands from the queue.

The worker performs a command in one step here. In the midst of one the slot
holds what it held before, or nothing, or what it holds after, and a key that
finds nothing there does nothing. So keys find no other prompts than between
commands. A `Session` is the case in which the worker is always at once.
-/

namespace TrustGate

structure QueuedSession where
  session : Session
  queue : List Controller.Command := []
  /-- The commands that were sent since the last tick. This and the next field keep a record and
  decide nothing. -/
  recent : List Controller.Command := []
  /-- The calls of the gate. -/
  events : List (Exchange.Event GateReply) := []

namespace QueuedSession

def press (now : QueuedSession) (press : KeyPress) : QueuedSession :=
  let effect := now.session.screen.press now.session.surroundings.slot press
  { now with
    session := { now.session with
      screen := effect.screen
      surroundings := { now.session.surroundings with slot := effect.slot } }
    queue := now.queue ++ effect.command?.toList
    recent := now.recent ++ effect.command?.toList }

/-- The worker takes the next command, if there is one. -/
def work (now : QueuedSession) : QueuedSession :=
  match now.queue with
  | [] => now
  | command :: queue =>
      let step := now.session.send command
      { now with session := step.session, queue, events := now.events ++ step.events }

/-- The worker takes all commands that are queued. -/
def settle (now : QueuedSession) : QueuedSession :=
  now.queue.foldl (fun now _ => now.work) now

def tick (now : QueuedSession) : QueuedSession :=
  let settled := now.settle
  let step := settled.session.tick
  { settled with
    session := step.session
    recent := []
    events := settled.events ++ step.events }

inductive Action
  | happen (happening : Session.Happening)
  | work
deriving Repr, DecidableEq

/-- What happens to a screen that has been left comes to nothing. -/
def step (now : QueuedSession) : Action → QueuedSession
  | .happen happening =>
      if now.session.screen.shouldQuit then now
      else
        match happening with
        | .press press => now.press press
        | .tick => now.tick
  | .work => now.work

def run (now : QueuedSession) (actions : List Action) : QueuedSession :=
  actions.foldl step now

end QueuedSession

end TrustGate
