import TrustGate.Gate.Surroundings
import TrustGate.Screen.Basic

/-!
# Sessions

A session joins a controller, the screen and what surrounds the gate. Commands
are taken as soon as they are sent, so between two steps of a session nothing
is queued.
-/

namespace TrustGate

structure Session where
  controller : Controller
  surroundings : Surroundings := {}
  screen : Screen := {}

namespace Session

/-- A step of a session: its result, the calls of the gate, and the session after it. -/
structure Step (α : Type) where
  value : α
  events : List (Exchange.Event GateReply)
  session : Session

def send (session : Session) (command : Controller.Command) : Step Controller.Answer :=
  let run := (session.controller.perform command).run Surroundings.reply session.surroundings
  { value := run.value.1
    events := run.transcript
    session := { session with controller := run.value.2, surroundings := run.surroundings } }

def press (session : Session) (press : KeyPress) : Step Unit :=
  let effect := session.screen.press session.surroundings.slot press
  let session := { session with
    screen := effect.screen, surroundings := { session.surroundings with slot := effect.slot } }
  match effect.command? with
  | none => ⟨(), [], session⟩
  | some command =>
      let step := session.send command
      ⟨(), step.events, step.session⟩

def tick (session : Session) : Step Unit :=
  let step := session.send .snapshot
  let snapshot := match step.value with
    | .snapshot snapshot => snapshot
    | _ => {}
  let session := step.session
  let (screen, outcomes) := session.screen.tick snapshot session.surroundings.outcomes
  ⟨(), step.events,
    { session with screen, surroundings := { session.surroundings with outcomes } }⟩

inductive Happening
  | press (press : KeyPress)
  | tick
deriving Repr, DecidableEq

def after (session : Session) : Happening → Session
  | .press press => (session.press press).session
  | .tick => session.tick.session

/-- The session after several things have happened to its screen, up to the one that leaves it. -/
def follow (session : Session) : List Happening → Session
  | [] => session
  | happening :: happenings =>
      if session.screen.shouldQuit then session
      else (session.after happening).follow happenings

end Session

end TrustGate
