import TrustGate.Der.Element

/-!
# Object identifiers

An object identifier is kept as its encoded bytes. `ofArcs` encodes a list of
arcs and `dotted` writes one out. Writing takes the first byte for the two
leading arcs by division by forty, reads every later arc in base 128, and lets
the last one end with the bytes. An identifier with an arc of more than nine
such bytes is written as its bytes in hexadecimal.
-/

namespace TrustGate.Der

/-- An object identifier in its encoded form. -/
structure ObjectId where
  bytes : Bytes
deriving Repr, DecidableEq

namespace ObjectId

/-- The base 128 digits of an arc before the last one, each marked as continued. -/
def continuedDigits : Nat → Nat → Bytes → Bytes
  | 0, _, digits => digits
  | count + 1, value, digits =>
      if value = 0 then digits
      else continuedDigits count (value / 128) (UInt8.ofNat (value % 128 + 128) :: digits)

def arcBytes (arc : Nat) : Bytes :=
  continuedDigits arc (arc / 128) [UInt8.ofNat (arc % 128)]

def ofArcs : List Nat → ObjectId
  | first :: second :: arcs => ⟨arcBytes (first * 40 + second) ++ arcs.flatMap arcBytes⟩
  | _ => ⟨[]⟩

/-- Reads arcs of base 128 digits; the value read so far and whether an arc is open are carried
along. Values are counted modulo 2^64. -/
def readArcs : Nat → Bool → Bytes → List Nat
  | value, isOpen, [] => if isOpen then [value] else []
  | value, _, byte :: rest =>
      let value := (value * 128 + byte.toNat % 128) % UInt64.size
      if byte < 0x80 then value :: readArcs 0 false rest else readArcs value true rest

/-- The arcs of an identifier. The single byte zero has one arc only. -/
def arcs (type : ObjectId) : List Nat :=
  match type.bytes with
  | [] => []
  | [0] => [0]
  | first :: rest => first.toNat / 40 :: first.toNat % 40 :: readArcs 0 false rest

/-- Whether some complete arc after the leading two has more than the given number of digits. -/
def hasLongArc (limit : Nat) : Nat → Bytes → Bool
  | _, [] => false
  | count, byte :: rest =>
      if byte < 0x80 then limit < count + 1 || hasLongArc limit 0 rest
      else hasLongArc limit (count + 1) rest

/-- An identifier written out: its arcs with dots between, or its bytes if an arc is too long. -/
def dotted (type : ObjectId) : String :=
  if hasLongArc 9 0 (type.bytes.drop 1) then
    " ".intercalate (type.bytes.map fun byte => String.ofList (Hex.encodeByte byte))
  else ".".intercalate (type.arcs.map fun arc => toString arc)

/-- Reads an identifier: a primitive element, whatever its tag number. -/
def read (bytes : Bytes) : Option (ObjectId × Bytes) := do
  let (element, rest) ← readElement bytes
  guard (!element.header.constructed)
  return (⟨element.content⟩, rest)

end ObjectId

end TrustGate.Der
