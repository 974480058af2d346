import TrustGate.Bytes.Hex
import TrustGate.Json.Basic

/-!
# Reading JSON

Text is cut into tokens, and tokens are read into a value by a machine with a
stack of open arrays and objects. Both steps refuse what they cannot place: a
blank other than space, tab, line feed and carriage return, a control
character inside a string, a number with a leading zero or without digits
after its point, a comma before a closing bracket, anything after the value.
Nesting is not limited.
-/

namespace TrustGate.Json

/-! ## From text to tokens -/

def isSpace (char : Char) : Bool :=
  char == ' ' || char == '\t' || char == '\n' || char == '\r'

def unitOf? (d0 d1 d2 d3 : Char) : Option Nat := do
  let v0 ← Hex.digitValue? d0
  let v1 ← Hex.digitValue? d1
  let v2 ← Hex.digitValue? d2
  let v3 ← Hex.digitValue? d3
  return ((v0 * 16 + v1) * 16 + v2) * 16 + v3

/-- The character that a letter after a backslash stands for. -/
def escapedChar? (char : Char) : Option Char :=
  match char with
  | '"' => some '"'
  | '\\' => some '\\'
  | '/' => some '/'
  | 'b' => some '\x08'
  | 'f' => some '\x0c'
  | 'n' => some '\n'
  | 'r' => some '\r'
  | 't' => some '\t'
  | _ => none

/-- Reads the pieces of a string up to its closing quote, and returns what follows. -/
def readPieces : List Char → Option (List StringPiece × List Char)
  | [] => none
  | '"' :: rest => some ([], rest)
  | '\\' :: 'u' :: d0 :: d1 :: d2 :: d3 :: rest => do
      let value ← unitOf? d0 d1 d2 d3
      let (pieces, remaining) ← readPieces rest
      return (.unit value :: pieces, remaining)
  | '\\' :: letter :: rest => do
      let value ← escapedChar? letter
      let (pieces, remaining) ← readPieces rest
      return (.char value :: pieces, remaining)
  | char :: rest =>
      if char = '\\' ∨ char.toNat < 0x20 then none
      else do
        let (pieces, remaining) ← readPieces rest
        return (.char char :: pieces, remaining)

def takeDigits (chars : List Char) : List Char × List Char :=
  chars.span Char.isDigit

def takeSomeDigits (chars : List Char) : Option (List Char × List Char) :=
  match takeDigits chars with
  | ([], _) => none
  | taken => some taken

/-- Takes the whole part of a number: a zero, or digits that start with another. -/
def takeWhole : List Char → Option (List Char × List Char)
  | '0' :: rest => some (['0'], rest)
  | chars => takeSomeDigits chars

def takeFraction : List Char → Option (List Char × List Char)
  | '.' :: rest => do
      let (digits, remaining) ← takeSomeDigits rest
      return ('.' :: digits, remaining)
  | chars => some ([], chars)

def takeSign : List Char → List Char × List Char
  | '+' :: rest => (['+'], rest)
  | '-' :: rest => (['-'], rest)
  | chars => ([], chars)

def takeExponent : List Char → Option (List Char × List Char)
  | [] => some ([], [])
  | mark :: rest =>
      if mark = 'e' ∨ mark = 'E' then do
        let (sign, rest) := takeSign rest
        let (digits, remaining) ← takeSomeDigits rest
        return (mark :: (sign ++ digits), remaining)
      else some ([], mark :: rest)

def takeNumber (chars : List Char) : Option (List Char × List Char) := do
  let (sign, rest) := match chars with
    | '-' :: rest => (['-'], rest)
    | _ => ([], chars)
  let (whole, rest) ← takeWhole rest
  let (fraction, rest) ← takeFraction rest
  let (exponent, rest) ← takeExponent rest
  return (sign ++ whole ++ fraction ++ exponent, rest)

def takeWord (word : List Char) (token : Token) (chars : List Char) :
    Option (Token × List Char) :=
  if word.isPrefixOf chars then some (token, chars.drop word.length) else none

def readToken (chars : List Char) : Option (Token × List Char) :=
  match chars with
  | [] => none
  | '[' :: rest => some (.openArray, rest)
  | ']' :: rest => some (.closeArray, rest)
  | '{' :: rest => some (.openObject, rest)
  | '}' :: rest => some (.closeObject, rest)
  | ',' :: rest => some (.comma, rest)
  | ':' :: rest => some (.colon, rest)
  | '"' :: rest => (readPieces rest).map fun (pieces, remaining) => (.text pieces, remaining)
  | 'n' :: _ => takeWord "null".toList .null chars
  | 't' :: _ => takeWord "true".toList (.bool true) chars
  | 'f' :: _ => takeWord "false".toList (.bool false) chars
  | _ => (takeNumber chars).map fun (spelling, remaining) => (.number spelling, remaining)

/-- The tokens of a text. A token always takes characters away; should it not, the text is
refused. -/
def lex (chars : List Char) : Option (List Token) :=
  match chars with
  | [] => some []
  | char :: rest =>
      if isSpace char then lex rest
      else
        match readToken (char :: rest) with
        | none => none
        | some (token, remaining) =>
            if remaining.length ≤ rest.length then (lex remaining).map (token :: ·) else none
termination_by chars.length

/-! ## From tokens to values -/

/-- An array or object whose end has not been read, with what it holds so far in reverse. -/
inductive Frame
  | array (items : List Json)
  | object (members : List (List StringPiece × Json)) (key : List StringPiece)

inductive Stage
  | value
  /-- A value, or the end of the array just opened. -/
  | firstItem
  /-- A key of the object with these members so far. -/
  | key (members : List (List StringPiece × Json))
  /-- A key, or the end of the object just opened. -/
  | firstKey
  | colon (members : List (List StringPiece × Json)) (key : List StringPiece)
  | after (value : Json)

/-- The reading machine: the open frames, innermost first, and what may come next. -/
structure Machine where
  frames : List Frame
  stage : Stage

def Machine.initial : Machine :=
  ⟨[], .value⟩

/-- Reads a token where a value may start. -/
def Machine.startValue (frames : List Frame) : Token → Option Machine
  | .null => some ⟨frames, .after .null⟩
  | .bool value => some ⟨frames, .after (.bool value)⟩
  | .number spelling => some ⟨frames, .after (.number spelling)⟩
  | .text pieces => some ⟨frames, .after (.text pieces)⟩
  | .openArray => some ⟨frames, .firstItem⟩
  | .openObject => some ⟨frames, .firstKey⟩
  | _ => none

/-- Reads a token after a whole value: a separator or the end of the innermost frame. -/
def Machine.afterValue (value : Json) : List Frame → Token → Option Machine
  | .array items :: frames, .comma => some ⟨.array (value :: items) :: frames, .value⟩
  | .array items :: frames, .closeArray =>
      some ⟨frames, .after (.array (value :: items).reverse)⟩
  | .object members key :: frames, .comma => some ⟨frames, .key ((key, value) :: members)⟩
  | .object members key :: frames, .closeObject =>
      some ⟨frames, .after (.object ((key, value) :: members).reverse)⟩
  | _, _ => none

def Machine.step (machine : Machine) (token : Token) : Option Machine :=
  match machine.stage with
  | .value => startValue machine.frames token
  | .firstItem =>
      match token with
      | .closeArray => some ⟨machine.frames, .after (.array [])⟩
      | token => startValue (.array [] :: machine.frames) token
  | .firstKey =>
      match token with
      | .closeObject => some ⟨machine.frames, .after (.object [])⟩
      | .text key => some ⟨machine.frames, .colon [] key⟩
      | _ => none
  | .key members =>
      match token with
      | .text key => some ⟨machine.frames, .colon members key⟩
      | _ => none
  | .colon members key =>
      match token with
      | .colon => some ⟨.object members key :: machine.frames, .value⟩
      | _ => none
  | .after value => afterValue value machine.frames token

/-- The value read, once it is whole and nothing is open. -/
def Machine.result? (machine : Machine) : Option Json :=
  match machine.frames, machine.stage with
  | [], .after value => some value
  | _, _ => none

def ofTokens? (tokens : List Token) : Option Json := do
  let machine ← tokens.foldlM Machine.step Machine.initial
  machine.result?

def read? (chars : List Char) : Option Json := do
  ofTokens? (← lex chars)

/-! ## Records -/

/-- The parts of a record in the order of its field names, absent ones as `none`. An object gives
them by name, in any order and with other members beside them; an array gives them by position and
may end early. A field given twice, a key that is no text, or more items than fields are refused. -/
def fields? (names : List String) : Json → Option (List (Option Json))
  | .object members => do
      let decoded ← members.mapM fun (key, value) => do return (← decodePieces key, value)
      names.mapM fun name =>
        match decoded.filter (·.1 == name.toList) with
        | [] => some none
        | [(_, value)] => some (some value)
        | _ => none
  | .array items =>
      if items.length ≤ names.length then
        some (items.map some ++ List.replicate (names.length - items.length) none)
      else none
  | _ => none

def string? : Json → Option String
  | .text pieces => (decodePieces pieces).map String.ofList
  | _ => none

def bool? : Json → Option Bool
  | .bool value => some value
  | _ => none

/-- The natural number that a value is written as, without sign, point or exponent. -/
def nat? : Json → Option Nat
  | .number spelling =>
      if spelling.all Char.isDigit then
        some (spelling.foldl (fun value digit => value * 10 + (digit.toNat - 0x30)) 0)
      else none
  | _ => none

end TrustGate.Json
