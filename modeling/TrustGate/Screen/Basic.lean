import TrustGate.Controller

/-!
# The approval screen

The state of the full-screen view in which the user answers. Key presses move
the focus between the buttons of the prompt or answer it; an answer is a
command to the controller. On every tick the screen takes a new snapshot of the
gate and the oldest outcome that nobody has taken up, which ends it.

The focus belongs to one prompt. It starts anew, on the negative button of a
dialog and the first button of a notification, with the first key that another
prompt gets.
-/

namespace TrustGate

inductive Key
  | left
  | right
  | up
  | down
  | tab
  | backTab
  | enter
  | escape
  | backspace
  /-- A key that the screen knows nothing of. -/
  | other
  | char (char : Char)
deriving Repr, DecidableEq

structure KeyPress where
  key : Key
  control : Bool := false
deriving Repr, DecidableEq

structure Screen where
  /-- What the gate looked like at the last tick. -/
  snapshot : FlowSnapshot := {}
  /-- Whether the positive button of a dialog has the focus. -/
  positiveFocused : Bool := false
  /-- The button of a notification that has the focus. -/
  notificationFocus : Nat := 0
  status? : Option String := none
  outcome? : Option TrustOutcome := none
  shouldQuit : Bool := false
  /-- The prompt to which the focus belongs. -/
  focusedPrompt? : Option PromptHandle := none
deriving Repr, DecidableEq

namespace Screen

structure Effect where
  screen : Screen
  slot : PromptSlot
  command? : Option Controller.Command := none
deriving Repr, DecidableEq

def answerCommand (response : Response) : Controller.Command :=
  .operate (.respond response)

def quits (press : KeyPress) : Bool :=
  press.key = .char 'q' || (press.key = .char 'c' && press.control)

inductive DialogKey
  | moveFocus
  | choose (choice : DialogChoice)
  | ignore
deriving Repr, DecidableEq

def dialogKey (positiveFocused : Bool) : Key → DialogKey
  | .left | .right | .tab | .char 'h' | .char 'l' => .moveFocus
  | .enter => .choose (if positiveFocused then .positive else .negative)
  | .char 'y' => .choose .positive
  | .char 'n' => .choose .negative
  | .escape => .choose .cancelled
  | _ => .ignore

/-- A key press on a dialog. A dialog that is answered leaves the screen at once, so that it is
answered only once. -/
def pressOnDialog (screen : Screen) (slot : PromptSlot) (handle : PromptHandle) (dialog : Dialog)
    (key : Key) : Effect :=
  match dialogKey screen.positiveFocused key with
  | .moveFocus => { screen := { screen with positiveFocused := !screen.positiveFocused }, slot }
  | .choose choice =>
      { screen, slot := slot.remove handle, command? := answerCommand (dialog.respond choice) }
  | .ignore => { screen, slot }

inductive NotificationKey
  | focus (index : Nat)
  | act (action : NotificationAction)
  | ignore
deriving Repr, DecidableEq

def notificationKey (buttons : List NotificationButton) (focus : Nat) : Key → NotificationKey
  | .left => .focus ((focus + max buttons.length 1 - 1) % max buttons.length 1)
  | .right | .tab => .focus ((focus + 1) % max buttons.length 1)
  | .enter =>
      match buttons[focus]? with
      | some button => .act button.action
      | none => .ignore
  | .char 'o' => .act .tap
  | _ => .ignore

/-- An action on a notification: a response, or a link to be shown. -/
def actOnNotification (screen : Screen) (slot : PromptSlot) (notification : Notification)
    (action : NotificationAction) : Effect :=
  match notification.respond? action with
  | some response => { screen, slot, command? := answerCommand response }
  | none =>
      match notification.tap with
      | .openLink link => { screen := { screen with status? := learnMore ++ " " ++ link }, slot }
      | .review => { screen, slot }

def pressOnNotification (screen : Screen) (slot : PromptSlot) (notification : Notification)
    (key : Key) : Effect :=
  match notificationKey notification.buttons screen.notificationFocus key with
  | .focus index => { screen := { screen with notificationFocus := index }, slot }
  | .act action => screen.actOnNotification slot notification action
  | .ignore => { screen, slot }

/-- Lets the focus start anew, if it belongs to another prompt. -/
def attend (screen : Screen) (handle : PromptHandle) : Screen :=
  if screen.focusedPrompt? = some handle then screen
  else { screen with
    focusedPrompt? := some handle, positiveFocused := false, notificationFocus := 0 }

/-- A key press. One that leaves the screen drops the flow, as a disconnect does. -/
def press (screen : Screen) (slot : PromptSlot) (press : KeyPress) : Effect :=
  if quits press then
    { screen := { screen with shouldQuit := true }, slot, command? := some (.operate .clear) }
  else
    match slot.current? with
    | none => { screen, slot }
    | some (handle, .dialog dialog) =>
        (screen.attend handle).pressOnDialog slot handle dialog press.key
    | some (handle, .notification notification) =>
        (screen.attend handle).pressOnNotification slot notification press.key

/-- Takes in a snapshot and the oldest outcome, and returns the outcomes that are left. -/
def tick (screen : Screen) (snapshot : FlowSnapshot) :
    List TrustOutcome → Screen × List TrustOutcome
  | [] => ({ screen with snapshot }, [])
  | outcome :: outcomes =>
      ({ screen with snapshot, outcome? := some outcome, shouldQuit := true }, outcomes)

end Screen

end TrustGate
