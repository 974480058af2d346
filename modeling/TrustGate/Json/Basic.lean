/-!
# JSON values

Values and tokens of JSON. Two things keep the form they were written in until
somebody needs them: the digits of a number, and the `\u` escapes of a string.
A string is a list of pieces, each a character or a sixteen-bit unit, and only
`decodePieces` joins units to characters. So a value that nobody looks at may
hold units that are no character, and a number of any size.

`Token` is the layer between text and values. The tokens of a value are defined
by recursion on the value; reading tokens back is in `TrustGate.Json.Reader`.
-/

namespace TrustGate

/-- A piece of a written string: a character, or a unit written by its number. -/
inductive StringPiece
  | char (value : Char)
  | unit (value : Nat)
deriving Repr, DecidableEq

inductive Json
  | null
  | bool (value : Bool)
  | number (spelling : List Char)
  | text (pieces : List StringPiece)
  | array (items : List Json)
  | object (members : List (List StringPiece × Json))
deriving Repr

namespace Json

inductive Token
  | openArray
  | closeArray
  | openObject
  | closeObject
  | comma
  | colon
  | null
  | bool (value : Bool)
  | number (spelling : List Char)
  | text (pieces : List StringPiece)
deriving Repr, DecidableEq

/-- Whether a unit is the first half of a pair. -/
def isHighHalf (unit : Nat) : Bool :=
  0xD800 ≤ unit && unit < 0xDC00

/-- Whether a unit is the second half of a pair. -/
def isLowHalf (unit : Nat) : Bool :=
  0xDC00 ≤ unit && unit < 0xE000

/-- The characters that pieces stand for: two halves of a pair join to one character, and a half
that stands alone is no character. -/
def decodePieces : List StringPiece → Option (List Char)
  | [] => some []
  | .char value :: rest => (decodePieces rest).map (value :: ·)
  | .unit high :: .unit low :: rest =>
      if isHighHalf high then
        if isLowHalf low then
          (decodePieces rest).map
            (Char.ofNat (0x10000 + (high - 0xD800) * 0x400 + (low - 0xDC00)) :: ·)
        else none
      else if isLowHalf high then none
      else (decodePieces (.unit low :: rest)).map (Char.ofNat high :: ·)
  | .unit value :: rest =>
      if isHighHalf value || isLowHalf value then none
      else (decodePieces rest).map (Char.ofNat value :: ·)

def piecesOf (text : String) : List StringPiece :=
  text.toList.map .char

def ofString (text : String) : Json :=
  .text (piecesOf text)

def ofNat (value : Nat) : Json :=
  .number (Nat.toDigits 10 value)

def ofFields (fields : List (String × Json)) : Json :=
  .object (fields.map fun (key, value) => (piecesOf key, value))

mutual

def tokens : Json → List Token
  | .null => [.null]
  | .bool value => [.bool value]
  | .number spelling => [.number spelling]
  | .text pieces => [.text pieces]
  | .array items => .openArray :: itemTokens items
  | .object members => .openObject :: memberTokens members

/-- The tokens of items and of the end of their array. -/
def itemTokens : List Json → List Token
  | [] => [.closeArray]
  | item :: items => tokens item ++ laterItemTokens items

/-- The tokens of items that others stand before. -/
def laterItemTokens : List Json → List Token
  | [] => [.closeArray]
  | item :: items => .comma :: (tokens item ++ laterItemTokens items)

/-- The tokens of members and of the end of their object. -/
def memberTokens : List (List StringPiece × Json) → List Token
  | [] => [.closeObject]
  | (key, value) :: members => .text key :: .colon :: (tokens value ++ laterMemberTokens members)

/-- The tokens of members that others stand before. -/
def laterMemberTokens : List (List StringPiece × Json) → List Token
  | [] => [.closeObject]
  | (key, value) :: members =>
      .comma :: .text key :: .colon :: (tokens value ++ laterMemberTokens members)

end

end Json

end TrustGate
