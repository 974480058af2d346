import TrustGate.Bytes.Hex
import TrustGate.Json.Basic

/-!
# Writing JSON

Two written forms of a value: compact, without any blank, and pretty, with one
item or member a line, two spaces of indentation a level, and a space after
each colon. An empty array or object takes no line of its own. Inside strings
only quotes, backslashes and control characters below U+0020 are escaped.
-/

namespace TrustGate.Json

def writeUnit (value : Nat) : List Char :=
  ['\\', 'u', Hex.digit (value / 0x1000 % 16), Hex.digit (value / 0x100 % 16),
    Hex.digit (value / 0x10 % 16), Hex.digit (value % 16)]

def writeChar (char : Char) : List Char :=
  match char with
  | '"' => ['\\', '"']
  | '\\' => ['\\', '\\']
  | '\x08' => ['\\', 'b']
  | '\t' => ['\\', 't']
  | '\n' => ['\\', 'n']
  | '\x0c' => ['\\', 'f']
  | '\r' => ['\\', 'r']
  | _ => if char.toNat < 0x20 then writeUnit char.toNat else [char]

def writePiece : StringPiece → List Char
  | .char value => writeChar value
  | .unit value => writeUnit value

def writeText (pieces : List StringPiece) : List Char :=
  '"' :: pieces.flatMap writePiece ++ ['"']

def Token.spelling : Token → List Char
  | .openArray => ['[']
  | .closeArray => [']']
  | .openObject => ['{']
  | .closeObject => ['}']
  | .comma => [',']
  | .colon => [':']
  | .null => "null".toList
  | .bool true => "true".toList
  | .bool false => "false".toList
  | .number spelling => spelling
  | .text pieces => writeText pieces

/-- A value without blanks. -/
def compact (value : Json) : List Char :=
  value.tokens.flatMap Token.spelling

def newLine (level : Nat) : List Char :=
  '\n' :: List.replicate (2 * level) ' '

mutual

/-- A value with line breaks, at a level of indentation. -/
def prettyAt (level : Nat) : Json → List Char
  | .null => "null".toList
  | .bool true => "true".toList
  | .bool false => "false".toList
  | .number spelling => spelling
  | .text pieces => writeText pieces
  | .array [] => ['[', ']']
  | .array (item :: items) =>
      '[' :: newLine (level + 1) ++ prettyAt (level + 1) item ++ prettyItems level items
  | .object [] => ['{', '}']
  | .object ((key, value) :: members) =>
      '{' :: newLine (level + 1) ++ writeText key ++ [':', ' '] ++ prettyAt (level + 1) value ++
        prettyMembers level members

/-- The items that others stand before, and the end of their array. -/
def prettyItems (level : Nat) : List Json → List Char
  | [] => newLine level ++ [']']
  | item :: items =>
      ',' :: newLine (level + 1) ++ prettyAt (level + 1) item ++ prettyItems level items

/-- The members that others stand before, and the end of their object. -/
def prettyMembers (level : Nat) : List (List StringPiece × Json) → List Char
  | [] => newLine level ++ ['}']
  | (key, value) :: members =>
      ',' :: newLine (level + 1) ++ writeText key ++ [':', ' '] ++ prettyAt (level + 1) value ++
        prettyMembers level members

end

def pretty (value : Json) : List Char :=
  prettyAt 0 value

end TrustGate.Json
