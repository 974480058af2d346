import TrustGate.Screen.Basic

/-!
# Terminal input

What a terminal in raw mode sends for the keys that are pressed. Most keys send
one character, and with the control key held a control character. Keys without
a character send a sequence that starts with the escape character: `ESC O` and
a letter, or `ESC [`, perhaps parameters, and a letter. A key pressed with the
alternate key held is sent after an escape character, and counts like the key
alone.

The escape key sends the escape character itself, so that only what follows in
one piece of input tells it apart from the start of a sequence. A sequence that
breaks off at the end of the piece is dropped.
-/

namespace TrustGate.Terminal

def escape : Char :=
  '\x1b'

def pressOfChar (char : Char) : KeyPress :=
  let code := char.toNat
  if char = '\r' then { key := .enter }
  else if char = '\t' then { key := .tab }
  else if code = 0x7F then { key := .backspace }
  else if code = 0 then { key := .char ' ', control := true }
  else if code ≤ 0x1A then { key := .char (Char.ofNat (code - 0x01 + 'a'.toNat)), control := true }
  else if 0x1C ≤ code ∧ code ≤ 0x1F then
    { key := .char (Char.ofNat (code - 0x1C + '4'.toNat)), control := true }
  else { key := .char char }

/-- The key whose sequence ends with a letter. -/
def keyOfLetter : Char → Key
  | 'A' => .up
  | 'B' => .down
  | 'C' => .right
  | 'D' => .left
  | 'Z' => .backTab
  | _ => .other

/-- Whether a character ends a sequence with parameters. -/
def isFinal (char : Char) : Bool :=
  '@' ≤ char && char ≤ '~'

/-- Where in a sequence the input is. -/
inductive InputState
  | plain
  | escaped
  /-- Before the letter that ends a sequence without parameters. -/
  | letter
  /-- Before a parameter or the letter after them. -/
  | parameters
deriving Repr, DecidableEq

def keyPressesFrom : InputState → List Char → List KeyPress
  | .escaped, [] => [{ key := .escape }]
  | _, [] => []
  | .plain, char :: chars =>
      if char = escape then keyPressesFrom .escaped chars
      else pressOfChar char :: keyPressesFrom .plain chars
  | .escaped, char :: chars =>
      if char = escape then { key := .escape } :: keyPressesFrom .plain chars
      else if char = 'O' then keyPressesFrom .letter chars
      else if char = '[' then keyPressesFrom .parameters chars
      else pressOfChar char :: keyPressesFrom .plain chars
  | .letter, char :: chars => { key := keyOfLetter char } :: keyPressesFrom .plain chars
  | .parameters, char :: chars =>
      if isFinal char then { key := keyOfLetter char } :: keyPressesFrom .plain chars
      else keyPressesFrom .parameters chars

/-- The key presses in a piece of input that starts outside of all sequences. -/
def keyPresses (input : String) : List KeyPress :=
  keyPressesFrom .plain input.toList

end TrustGate.Terminal
