import TrustGate.Toml.Scalar

/-!
# Reading TOML

Keys, values, and documents. Arrays and inline tables may be nested, and keys
dotted, to a depth that is limited to eighty.

The readers of values call each other. Each call gets a bound on the number of
further calls, which is the length of the text: every call takes at least one
character, so the bound is never reached by a text that can be read.
-/

namespace TrustGate.Toml

/-- How deep values may be nested, and how many parts a key may have. -/
def depthLimit : Nat :=
  80

/-- The characters of a key without quotation marks. -/
def isBareKeyChar (char : Char) : Bool :=
  char.isAlphanum || char == '-' || char == '_'

def readKeyPart (chars : List Char) : Option (String × List Char) :=
  match chars with
  | '"' :: _ => (readLineString chars).map fun (text, rest) => (String.ofList text, rest)
  | '\'' :: _ => (readLineString chars).map fun (text, rest) => (String.ofList text, rest)
  | _ =>
      let (name, rest) := chars.span isBareKeyChar
      if name.isEmpty then none else some (String.ofList name, rest)

/-- Reads the parts of a key, with blanks around them. -/
def readKeyParts : Nat → List Char → Option (List String × List Char)
  | 0, _ => none
  | bound + 1, chars => do
      let (part, rest) ← readKeyPart (skipBlanks chars)
      match skipBlanks rest with
      | '.' :: rest =>
          let (parts, rest) ← readKeyParts bound rest
          return (part :: parts, rest)
      | rest => return ([part], rest)

def readKey (chars : List Char) : Option (List String × List Char) :=
  readKeyParts (depthLimit - 1) chars

/-- The text after blanks, line ends and comments, as they may stand between the items of an
array. -/
def skipFiller? (chars : List Char) : Nat → Option (List Char)
  | 0 => none
  | bound + 1 =>
      match skipBlankLines chars with
      | '#' :: comment => do skipFiller? (← endOfLine? (comment.dropWhile isLineChar)) bound
      | rest => some rest

mutual

def readValue (bound depth : Nat) (chars : List Char) : Option (Value × List Char) :=
  match bound with
  | 0 => none
  | bound + 1 =>
      match chars with
      | '"' :: _ => (readString chars).map fun (text, rest) => (.string (String.ofList text), rest)
      | '\'' :: _ => (readString chars).map fun (text, rest) => (.string (String.ofList text), rest)
      | '[' :: rest =>
          if depth = 0 then none
          else (readItems bound (depth - 1) rest).map fun (items, rest) => (.array items, rest)
      | '{' :: rest =>
          if depth = 0 then none
          else if (skipBlanks rest).head? = some '}' then
            some (.table .inline [], (skipBlanks rest).drop 1)
          else
            (readMembers bound (depth - 1) [] rest).map fun (members, rest) =>
              (.table .inline members, rest)
      | 't' :: 'r' :: 'u' :: 'e' :: rest => some (.boolean true, rest)
      | 'f' :: 'a' :: 'l' :: 's' :: 'e' :: rest => some (.boolean false, rest)
      | 'i' :: _ => readSpecial chars
      | 'n' :: _ => readSpecial chars
      | char :: _ =>
          if char.isDigit || char == '+' || char == '-' then readNumber chars else none
      | [] => none

/-- Reads the items of an array, and its end. -/
def readItems (bound depth : Nat) (chars : List Char) : Option (List Value × List Char) :=
  match bound with
  | 0 => none
  | bound + 1 => do
      let chars ← skipFiller? chars (chars.length + 1)
      match chars with
      | ']' :: rest => return ([], rest)
      | _ =>
          let (item, rest) ← readValue bound depth chars
          match ← skipFiller? rest (rest.length + 1) with
          | ',' :: rest =>
              let (items, rest) ← readItems bound depth rest
              return (item :: items, rest)
          | ']' :: rest => return ([item], rest)
          | _ => none

/-- Reads the members of an inline table that has some, and its end. -/
def readMembers (bound depth : Nat) (members : Members) (chars : List Char) :
    Option (Members × List Char) :=
  match bound with
  | 0 => none
  | bound + 1 => do
      let (key, rest) ← readKey chars
      let rest ← expect? '=' rest
      let (value, rest) ← readValue bound depth (skipBlanks rest)
      let members ← members.insert? value key
      match skipBlanks rest with
      | ',' :: rest => readMembers bound depth members rest
      | '}' :: rest => return (members, rest)
      | _ => none

end

/-- A document while it is read. -/
structure Document where
  members : Members := []
  /-- The path of the table that lines belong to. -/
  path : List String := []

/-- Adds the member that a line gives to the table under way. -/
def Document.add? (document : Document) (key : List String) (value : Value) : Option Document := do
  let members ← document.members.within? (·.insert? value key) document.path
  return { document with members }

/-- Starts a table under a header. -/
def Document.start? (document : Document) (path : List String)
    (openUnder : String → Members → Option Members) : Option Document := do
  let name ← path.getLast?
  let members ← document.members.within? (openUnder name) path.dropLast
  return ⟨members, path⟩

/-- Reads the start of a line: a header, or a key with its value. The rest of the line is returned
with the document. -/
def readEntry (document : Document) (chars : List Char) : Option (Document × List Char) :=
  match chars with
  | '[' :: '[' :: rest => do
      let (path, rest) ← readKey rest
      let rest ← expect? ']' rest
      let rest ← expect? ']' rest
      return (← document.start? path Members.openNext?, rest)
  | '[' :: rest => do
      let (path, rest) ← readKey rest
      let rest ← expect? ']' rest
      return (← document.start? path Members.openTable?, rest)
  | _ => do
      let (key, rest) ← readKey chars
      let rest ← expect? '=' rest
      let (value, rest) ← readValue (rest.length + 1) (depthLimit - 1) (skipBlanks rest)
      return (← document.add? key value, rest)

def readLines : Nat → Document → List Char → Option Members
  | 0, _, _ => none
  | bound + 1, document, chars =>
      match skipBlankLines chars with
      | [] => some document.members
      | '#' :: comment => do
          readLines bound document (← endOfLine? (comment.dropWhile isLineChar))
      | chars => do
          let (document, rest) ← readEntry document chars
          readLines bound document (← finishLine? rest)

/-- The table that a document spells. A byte order mark in front of it is skipped. -/
def read? (text : String) : Option Members :=
  let chars := match text.toList with
    | '\ufeff' :: rest => rest
    | chars => chars
  readLines (chars.length + 1) {} chars

end TrustGate.Toml
