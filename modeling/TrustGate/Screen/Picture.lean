import TrustGate.Product
import TrustGate.Screen.Basic
import TrustGate.Screen.Theme
import TrustGate.Terminal.Paragraph

/-!
# What the screen looks like

The picture has three layers: the panel of the flow, the footer with hints on
keys, and over them the prompt. A dialog stands in the middle, a notification in
the upper right corner. The panel shows the snapshot of the last tick, the prompt
whatever is on screen at the moment.
-/

namespace TrustGate.Screen

open Terminal

/-! ## The panel -/

def labelSpan (label : String) : Span :=
  ⟨label.pushn ' ' (12 - label.length), Theme.colored Theme.secondaryText⟩

def labelled (label value : String) : Line :=
  [labelSpan label, ⟨value, Theme.colored Theme.primaryText⟩]

def policyText : TrustPolicy → String
  | .tofu => "trust on first use"
  | .legacy => "approve without CA"

def connectionLines : Option PendingConnection → List Line
  | some connection => [
      labelled "Network" connection.identity.text,
      labelled "Policy" (policyText connection.policy)]
  | none => [[⟨"No pending connection", Theme.colored Theme.secondaryText⟩]]

def stateText : FlowState → String × Color
  | .idle => ("idle", Theme.inactive)
  | .awaitingCertificate => ("waiting for certificate", Theme.link)
  | .awaitingApproval => ("waiting for your decision", Theme.warning)

def stateLine (state : FlowState) : Line :=
  let (text, color) := stateText state
  [labelSpan "State", ⟨text, { foreground? := some color, bold := true }⟩]

def certificateLines : Option PendingCertificate → List Line
  | some pending => [
      [],
      labelled "Subject" pending.subject.raw,
      labelled "Issuer" pending.issuer.raw,
      labelled "SHA-256" pending.certificate.fingerprint]
  | none => []

def outcomeText : TrustOutcome → String × Color
  | .accepted _ => ("accepted", Theme.success)
  | .rejected _ => ("rejected", Theme.error)
  | .errored _ => ("aborted", Theme.error)

def outcomeLines : Option TrustOutcome → List Line
  | some outcome =>
      let (text, color) := outcomeText outcome
      [[], [⟨text, Theme.colored color⟩]]
  | none => []

def statusLines : Option String → List Line
  | some status => [[], [⟨status, Theme.colored Theme.accent⟩]]
  | none => []

def panelLines (screen : Screen) : List Line :=
  connectionLines screen.snapshot.connection? ++ [stateLine screen.snapshot.state] ++
    certificateLines screen.snapshot.certificate? ++ outcomeLines screen.outcome? ++
    statusLines screen.status?

def drawPanel (canvas : Canvas) (area : Area) (screen : Screen) : Canvas :=
  let canvas := canvas.framed area (Theme.colored Theme.quietBorder) [⟨" Connection ", {}⟩]
  canvas.paragraph area.inside screen.panelLines (.wrap false)

/-! ## The footer -/

structure Hint where
  key : String
  action : String
deriving Repr, DecidableEq

def hints (prompt? : Option Prompt) : List Hint :=
  let own : List Hint := match prompt? with
    | some (.dialog _) => [⟨"←→", "Focus"⟩, ⟨"Enter", "Choose"⟩, ⟨"y", "Connect"⟩,
        ⟨"n", "Don't connect"⟩, ⟨"Esc", "Cancel"⟩]
    | some (.notification notification) =>
        let opened := match notification.tap with
          | .review => "Review"
          | .openLink _ => "Help"
        [⟨"←→", "Focus"⟩, ⟨"Enter", "Press"⟩, ⟨"o", opened⟩]
    | none => []
  own ++ [⟨"q", "Quit"⟩]

def hintDivider : Span :=
  ⟨" │ ", Theme.colored Theme.divider⟩

/-- A hint, after a divider if others stand before it. -/
def hintSpans (isFirst : Bool) (hint : Hint) : List Span :=
  (if isFirst then [] else [hintDivider]) ++ [
    ⟨hint.key, { foreground? := some .cyan, bold := true }⟩, ⟨" ", {}⟩,
    ⟨hint.action, Theme.colored .darkGray⟩]

def hintWidth (isFirst : Bool) (hint : Hint) : Nat :=
  hint.key.length + 1 + hint.action.length + if isFirst then 0 else 3

/-- The hints that fit into some room, up to the first that does not. -/
def fittingHints (room : Nat) (isFirst : Bool) : List Hint → List Span
  | [] => []
  | hint :: hints =>
      let width := hintWidth isFirst hint
      if width > room then []
      else hintSpans isFirst hint ++ fittingHints (room - width) false hints

def drawFooter (canvas : Canvas) (area : Area) (prompt? : Option Prompt) : Canvas :=
  let (left, right) := area.splitRight 16
  let line : Line :=
    ⟨" ", {}⟩ :: if left.width = 0 then [] else fittingHints (left.width - 1) true (hints prompt?)
  let canvas := canvas.paragraph left [line] .truncate
  let branding := Product.name ++ " v" ++ Product.version ++ " "
  canvas.paragraph right [[⟨branding, Theme.colored Theme.secondaryText⟩]] .truncate {} .right

/-! ## Prompts -/

def buttonSpan (label : String) (focused : Bool) : Span :=
  ⟨"[ " ++ label ++ " ]", Theme.button focused⟩

/-- How many rows a text is given if each holds some columns. The room is counted in bytes. -/
def rowsFor (columns : Nat) (text : String) : Nat :=
  max ((text.utf8ByteSize + columns - 1) / columns) 1

def dialogLines (dialog : Dialog) : List Line :=
  dialog.message.map (fun text => [⟨text, Theme.colored Theme.primaryText⟩]) ++
    dialog.helpLink?.toList.map fun link =>
      [⟨link, { foreground? := some Theme.link, underlined := true }⟩]

def dialogButtons (dialog : Dialog) (positiveFocused : Bool) : Line :=
  [buttonSpan dialog.negativeLabel (!positiveFocused), ⟨"   ", {}⟩,
    buttonSpan dialog.positiveLabel positiveFocused]

def dialogArea (dialog : Dialog) (whole : Area) : Area :=
  let width := min (max (whole.width - 4) 30) 72
  let texts := dialog.message ++ dialog.helpLink?.toList
  let rows := texts.foldr (fun text rows => rowsFor (width - 4) text + rows) 0
  whole.centred width (rows + 4)

def drawDialog (canvas : Canvas) (dialog : Dialog) (positiveFocused : Bool) : Canvas :=
  let area := dialogArea dialog canvas.area
  let canvas := (canvas.clear area).framed area (Theme.colored Theme.accent)
    (Line.ofText (" " ++ dialog.title ++ " ")) (Line.ofText (" " ++ dialog.ssid ++ " "))
  let (body, others) := area.inside.splitBelow 1 [1]
  let canvas := canvas.paragraph body (dialogLines dialog) (.wrap false)
  match others with
  | [buttons] =>
      canvas.paragraph buttons [dialogButtons dialog positiveFocused] .truncate {} .right
  | _ => canvas

def tapText : NotificationTap → String
  | .review => "o: open details"
  | .openLink link => "o: " ++ link

def notificationButtons (buttons : List NotificationButton) (focus : Nat) : Line :=
  [⟨"  ", {}⟩].intercalate (buttons.mapIdx fun index button =>
    [buttonSpan button.label (index == focus)])

def notificationArea (notification : Notification) (whole : Area) : Area :=
  let width := min (min (max (whole.width / 2) 30) 56) whole.width
  let rows := rowsFor (max (width - 4) 1) notification.message
  let area : Area := ⟨whole.width - (width + 1), whole.y + 1, width, min (rows + 4) whole.height⟩
  area.intersect whole

def notificationTitle (notification : Notification) : Span :=
  ⟨" " ++ notification.title ++ " ",
    { foreground? := some .black, background? := some Theme.warning, bold := true }⟩

def drawNotification (canvas : Canvas) (notification : Notification) (focus : Nat) : Canvas :=
  let area := notificationArea notification canvas.area
  let canvas := (canvas.clear area).framed area (Theme.colored Theme.warning)
    [notificationTitle notification]
  let (body, others) := area.inside.splitBelow 1 [1, 1]
  let plain (text : String) : List Line := (textLines text).map fun text => [⟨text, {}⟩]
  let canvas := canvas.paragraph body (plain notification.message) (.wrap true)
    (Theme.colored Theme.primaryText)
  match others with
  | [hint, buttons] =>
      let canvas := canvas.paragraph hint (plain (tapText notification.tap)) .truncate
        (Theme.colored Theme.secondaryText)
      canvas.paragraph buttons [notificationButtons notification.buttons focus] .truncate
  | _ => canvas

def drawPrompt (canvas : Canvas) (screen : Screen) : Prompt → Canvas
  | .dialog dialog => drawDialog canvas dialog screen.positiveFocused
  | .notification notification =>
      drawNotification canvas notification screen.notificationFocus

/-- The picture of a screen with a prompt, on a terminal of some size. -/
def picture (screen : Screen) (prompt? : Option Prompt) (width height : Nat) : Canvas :=
  let canvas := Canvas.blank width height
  let (panel, others) := canvas.area.splitBelow 0 [1]
  let canvas := drawPanel canvas panel screen
  let canvas := match others with
    | [footer] => drawFooter canvas footer prompt?
    | _ => canvas
  match prompt? with
  | some prompt => drawPrompt canvas screen prompt
  | none => canvas

end TrustGate.Screen
