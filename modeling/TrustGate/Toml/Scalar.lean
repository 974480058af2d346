import TrustGate.Bytes.Hex
import TrustGate.Toml.Value

/-!
# TOML scalars

How strings, numbers, dates and times are written. A reader takes what it can
from the start of a text and returns it with the rest of the text; what follows
a value is checked by those who use it.
-/

namespace TrustGate.Toml

/-! ## Blanks and comments -/

/-- The blanks within a line. -/
def isBlank (char : Char) : Bool :=
  char == ' ' || char == '\t'

def skipBlanks (chars : List Char) : List Char :=
  chars.dropWhile isBlank

/-- The characters that may stand anywhere in a line: tabs and all but control characters. -/
def isLineChar (char : Char) : Bool :=
  char == '\t' || (0x20 ≤ char.toNat && char.toNat != 0x7F)

/-- The text after the end of a line, which may be the end of the text. -/
def endOfLine? : List Char → Option (List Char)
  | [] => some []
  | '\n' :: rest => some rest
  | '\r' :: '\n' :: rest => some rest
  | _ => none

/-- The text after the rest of a line, which may hold a comment and nothing else. -/
def finishLine? (chars : List Char) : Option (List Char) :=
  match skipBlanks chars with
  | '#' :: comment => endOfLine? (comment.dropWhile isLineChar)
  | rest => endOfLine? rest

def skipBlankLines : List Char → List Char
  | ' ' :: rest => skipBlankLines rest
  | '\t' :: rest => skipBlankLines rest
  | '\n' :: rest => skipBlankLines rest
  | '\r' :: '\n' :: rest => skipBlankLines rest
  | chars => chars

theorem length_skipBlankLines_le (chars : List Char) :
    (skipBlankLines chars).length ≤ chars.length := by
  fun_induction skipBlankLines chars <;> grind

/-! ## Strings -/

/-- The character with a number in hexadecimal. Numbers of no character are refused. -/
def charOfHex? (digits : List Char) : Option Char := do
  let values ← digits.mapM Hex.digitValue?
  let code := values.foldl (fun code value => code * 16 + value) 0
  if code < 0xD800 ∨ (0xE000 ≤ code ∧ code < 0x110000) then return Char.ofNat code else none

/-- The character that a letter after a backslash stands for. -/
def escapedChar? (char : Char) : Option Char :=
  match char with
  | '"' => some '"'
  | '\\' => some '\\'
  | 'b' => some '\x08'
  | 't' => some '\t'
  | 'n' => some '\n'
  | 'f' => some '\x0c'
  | 'r' => some '\r'
  | _ => none

/-- The character that is escaped by a backslash in front of a text. -/
def readEscape : List Char → Option (Char × List Char)
  | 'u' :: d0 :: d1 :: d2 :: d3 :: rest => (charOfHex? [d0, d1, d2, d3]).map (·, rest)
  | 'U' :: d0 :: d1 :: d2 :: d3 :: d4 :: d5 :: d6 :: d7 :: rest =>
      (charOfHex? [d0, d1, d2, d3, d4, d5, d6, d7]).map (·, rest)
  | letter :: rest => (escapedChar? letter).map (·, rest)
  | [] => none

theorem length_lt_of_readEscape {chars rest : List Char} {char : Char}
    (read : readEscape chars = some (char, rest)) : rest.length < chars.length := by
  unfold readEscape at read
  split at read
  · obtain ⟨_, _, same⟩ := Option.map_eq_some_iff.mp read
    cases same
    simp only [List.length_cons]
    omega
  · obtain ⟨_, _, same⟩ := Option.map_eq_some_iff.mp read
    cases same
    simp only [List.length_cons]
    omega
  · obtain ⟨_, _, same⟩ := Option.map_eq_some_iff.mp read
    cases same
    simp
  · simp at read

/-- Reads a string in quotation marks, after the first mark. -/
def readQuoted (chars : List Char) : Option (List Char × List Char) :=
  match chars with
  | [] => none
  | '"' :: rest => some ([], rest)
  | '\\' :: rest =>
      match read : readEscape rest with
      | none => none
      | some (char, remaining) =>
          have := length_lt_of_readEscape read
          (readQuoted remaining).map fun (text, after) => (char :: text, after)
  | char :: rest =>
      if isLineChar char then
        (readQuoted rest).map fun (text, after) => (char :: text, after)
      else none
termination_by chars.length

/-- Whether a backslash in front of a text hides the end of its line. -/
def hidesLineEnd (chars : List Char) : Bool :=
  match skipBlanks chars with
  | '\n' :: _ => true
  | '\r' :: '\n' :: _ => true
  | _ => false

/-- Reads a string of several lines in quotation marks, after its opening. Up to two marks may stand
before the closing ones and belong to the string. -/
def readQuotedLines (chars : List Char) : Option (List Char × List Char) :=
  match chars with
  | [] => none
  | '"' :: '"' :: '"' :: '"' :: '"' :: rest => some (['"', '"'], rest)
  | '"' :: '"' :: '"' :: '"' :: rest => some (['"'], rest)
  | '"' :: '"' :: '"' :: rest => some ([], rest)
  | '\r' :: '\n' :: rest => (readQuotedLines rest).map fun (text, after) => ('\n' :: text, after)
  | '\\' :: rest =>
      if hidesLineEnd rest then
        have := length_skipBlankLines_le rest
        readQuotedLines (skipBlankLines rest)
      else
        match read : readEscape rest with
        | none => none
        | some (char, remaining) =>
            have := length_lt_of_readEscape read
            (readQuotedLines remaining).map fun (text, after) => (char :: text, after)
  | char :: rest =>
      if isLineChar char || char == '\n' then
        (readQuotedLines rest).map fun (text, after) => (char :: text, after)
      else none
termination_by chars.length

/-- Reads a string in apostrophes, after the first one. -/
def readLiteral : List Char → Option (List Char × List Char)
  | [] => none
  | '\'' :: rest => some ([], rest)
  | char :: rest =>
      if isLineChar char then
        (readLiteral rest).map fun (text, after) => (char :: text, after)
      else none

/-- Reads a string of several lines in apostrophes, after its opening. -/
def readLiteralLines : List Char → Option (List Char × List Char)
  | [] => none
  | '\'' :: '\'' :: '\'' :: '\'' :: '\'' :: rest => some (['\'', '\''], rest)
  | '\'' :: '\'' :: '\'' :: '\'' :: rest => some (['\''], rest)
  | '\'' :: '\'' :: '\'' :: rest => some ([], rest)
  | '\r' :: '\n' :: rest => (readLiteralLines rest).map fun (text, after) => ('\n' :: text, after)
  | char :: rest =>
      if isLineChar char || char == '\n' then
        (readLiteralLines rest).map fun (text, after) => (char :: text, after)
      else none

def skipFirstLineEnd : List Char → List Char
  | '\n' :: rest => rest
  | '\r' :: '\n' :: rest => rest
  | chars => chars

def readLineString : List Char → Option (List Char × List Char)
  | '"' :: rest => readQuoted rest
  | '\'' :: rest => readLiteral rest
  | _ => none

def readString : List Char → Option (List Char × List Char)
  | '"' :: '"' :: '"' :: rest => readQuotedLines (skipFirstLineEnd rest)
  | '\'' :: '\'' :: '\'' :: rest => readLiteralLines (skipFirstLineEnd rest)
  | chars => readLineString chars

/-! ## Numbers -/

/-- Reads the digits after the first one. An underscore may stand between two digits. -/
def readMoreDigits (isDigit : Char → Bool) : List Char → Option (List Char × List Char)
  | [] => some ([], [])
  | '_' :: char :: rest =>
      if isDigit char then
        (readMoreDigits isDigit rest).map fun (digits, after) => (char :: digits, after)
      else none
  | char :: rest =>
      if char = '_' then none
      else if isDigit char then
        (readMoreDigits isDigit rest).map fun (digits, after) => (char :: digits, after)
      else some ([], char :: rest)

def readDigits (isDigit : Char → Bool) : List Char → Option (List Char × List Char)
  | [] => none
  | char :: rest =>
      if isDigit char then
        (readMoreDigits isDigit rest).map fun (digits, after) => (char :: digits, after)
      else none

/-- Reads a sign, if there is one, and tells whether it is a minus. -/
def readSign : List Char → Bool × List Char
  | '+' :: rest => (false, rest)
  | '-' :: rest => (true, rest)
  | chars => (false, chars)

def valueOf (base : Nat) (digits : List Char) : Nat :=
  digits.foldl (fun value digit => value * base + (Hex.digitValue? digit).getD 0) 0

/-- An integer, if it fits into 64 bits. -/
def integer? (negative : Bool) (magnitude : Nat) : Option Value :=
  if negative then
    if magnitude ≤ Nat.pow 2 63 then some (.integer (-magnitude)) else none
  else if magnitude < Nat.pow 2 63 then some (.integer magnitude)
  else none

def isDigitOf (base : Nat) (char : Char) : Bool :=
  match Hex.digitValue? char with
  | some value => value < base
  | none => false

/-- Reads an integer that is written in a base other than ten, after the mark of the base. -/
def readBased (base : Nat) (chars : List Char) : Option (Value × List Char) := do
  let (digits, rest) ← readDigits (isDigitOf base) chars
  return (← integer? false (valueOf base digits), rest)

/-- Reads the whole part of a number: a zero, or digits that start with another. -/
def readWhole : List Char → Option (List Char × List Char)
  | '0' :: rest => some (['0'], rest)
  | chars => readDigits Char.isDigit chars

/-- Whether digits and a power of ten make a number above all that a double can hold. Half of the
last step above the largest finite double is already too much. -/
def overflows (digits : List Char) (exponent : Int) : Bool :=
  let mantissa := valueOf 10 digits
  let size : Int := (Nat.toDigits 10 mantissa).length + exponent
  let bound := Nat.pow 2 1024 - Nat.pow 2 970
  if mantissa = 0 || size < 300 then false
  else if size > 320 then true
  else if exponent ≥ 0 then mantissa * Nat.pow 10 exponent.toNat ≥ bound
  else mantissa ≥ bound * Nat.pow 10 (-exponent).toNat

def readExponent : List Char → Option (Option (List Char × Int) × List Char)
  | mark :: rest =>
      if mark = 'e' ∨ mark = 'E' then do
        let (negative, rest) := readSign rest
        let (digits, rest) ← readDigits Char.isDigit rest
        let value : Int := valueOf 10 digits
        return (some (digits, if negative then -value else value), rest)
      else some (none, mark :: rest)
  | [] => some (none, [])

def readFraction : List Char → Option (Option (List Char) × List Char)
  | '.' :: rest => do
      let (digits, rest) ← readDigits Char.isDigit rest
      return (some digits, rest)
  | chars => some (none, chars)

/-- Reads an infinity or a value that is no number. -/
def readSpecial : List Char → Option (Value × List Char)
  | 'i' :: 'n' :: 'f' :: rest => some (.float "inf".toList, rest)
  | 'n' :: 'a' :: 'n' :: rest => some (.float "nan".toList, rest)
  | _ => none

/-- Reads a decimal number. A positive one that is too large for a double is refused. -/
def readDecimal (chars : List Char) : Option (Value × List Char) := do
  let (negative, unsigned) := readSign chars
  let (whole, rest) ← readWhole unsigned
  let (fraction?, rest) ← readFraction rest
  let (exponent?, rest) ← readExponent rest
  match fraction?, exponent? with
  | none, none => return (← integer? negative (valueOf 10 whole), rest)
  | _, _ =>
      let fraction := fraction?.getD []
      let exponent := (exponent?.map (·.2)).getD 0
      if !negative && overflows (whole ++ fraction) (exponent - fraction.length) then none
      else
        let spelling := chars.take (chars.length - rest.length)
        return (.float spelling, rest)

/-! ## Dates and times -/

/-- Reads a number of exactly two digits within bounds. -/
def readTwo (first last : Nat) : List Char → Option (Nat × List Char)
  | d0 :: d1 :: rest =>
      if d0.isDigit && d1.isDigit then
        let value := valueOf 10 [d0, d1]
        if first ≤ value ∧ value ≤ last then some (value, rest) else none
      else none
  | _ => none

/-- The text after a character that has to stand there. -/
def expect? (char : Char) : List Char → Option (List Char)
  | first :: rest => if first = char then some rest else none
  | [] => none

def daysOf (year month : Nat) : Nat :=
  if month = 2 then
    if year % 4 = 0 ∧ (year % 100 ≠ 0 ∨ year % 400 = 0) then 29 else 28
  else if month = 4 ∨ month = 6 ∨ month = 9 ∨ month = 11 then 30
  else 31

def skipMonthAndDay? (year : Nat) (chars : List Char) : Option (List Char) := do
  let (month, rest) ← readTwo 1 12 chars
  let rest ← expect? '-' rest
  let (_, rest) ← readTwo 1 (daysOf year month) rest
  return rest

def skipTime? (chars : List Char) : Option (List Char) := do
  let (_, rest) ← readTwo 0 23 chars
  let rest ← expect? ':' rest
  let (_, rest) ← readTwo 0 59 rest
  let rest ← expect? ':' rest
  let (_, rest) ← readTwo 0 60 rest
  match rest with
  | '.' :: digit :: more =>
      if digit.isDigit then return more.dropWhile Char.isDigit else return rest
  | _ => return rest

/-- The text after an offset from universal time, if there is one. -/
def skipOffset? : List Char → Option (List Char)
  | 'Z' :: rest => some rest
  | 'z' :: rest => some rest
  | sign :: rest =>
      if sign = '+' ∨ sign = '-' then do
        let (_, rest) ← readTwo 0 23 rest
        let rest ← expect? ':' rest
        let (_, rest) ← readTwo 0 59 rest
        return rest
      else some (sign :: rest)
  | [] => some []

def startsTime : List Char → Bool
  | d0 :: d1 :: ':' :: _ => d0.isDigit && d1.isDigit
  | _ => false

/-- The text after the time that may follow a date. A space after a date need not lead to one. -/
def skipTimeOfDate? : List Char → Option (List Char)
  | delimiter :: rest =>
      if (delimiter = 'T' ∨ delimiter = 't' ∨ delimiter = ' ') ∧ startsTime rest then do
        skipOffset? (← skipTime? rest)
      else some (delimiter :: rest)
  | [] => some []

/-- The text after a date or a time, or nothing if the text starts with neither. -/
def skipDateTime? : List Char → Option (Option (List Char))
  | d0 :: d1 :: d2 :: d3 :: '-' :: rest =>
      if [d0, d1, d2, d3].all Char.isDigit then
        some do skipTimeOfDate? (← skipMonthAndDay? (valueOf 10 [d0, d1, d2, d3]) rest)
      else none
  | chars => if startsTime chars then some (skipTime? chars) else none

def readNumber (chars : List Char) : Option (Value × List Char) :=
  match skipDateTime? chars with
  | some rest? => do
      let rest ← rest?
      return (.dateTime (chars.take (chars.length - rest.length)), rest)
  | none =>
      match chars with
      | '0' :: 'x' :: rest => readBased 16 rest
      | '0' :: 'o' :: rest => readBased 8 rest
      | '0' :: 'b' :: rest => readBased 2 rest
      | _ => (readSpecial (readSign chars).2).orElse fun _ => readDecimal chars

end TrustGate.Toml
