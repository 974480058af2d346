import TrustGate.Bytes.Hex

/-!
# DER elements

Reading one element of the distinguished encoding rules: identifier, length
and content. Tag numbers above thirty take up to five further bytes and are
counted modulo 2^32. Lengths are definite; a long form need not be the
shortest one. Whatever follows the content is returned, and an element whose
content is cut off is none.

Which class an element has, and whether it says it is constructed, is recorded
but not checked here: most readers ask for the tag number alone.
-/

namespace TrustGate.Der

inductive TagClass
  | universal
  | application
  | contextSpecific
  | privateUse
deriving Repr, DecidableEq

/-- The class given by the two high bits of an identifier. -/
def TagClass.ofByte (byte : UInt8) : TagClass :=
  match byte.toNat / 64 with
  | 0 => .universal
  | 1 => .application
  | 2 => .contextSpecific
  | _ => .privateUse

structure Header where
  tagClass : TagClass
  constructed : Bool
  tag : Nat
  length : Nat
deriving Repr, DecidableEq

structure Element where
  header : Header
  content : Bytes
deriving Repr, DecidableEq

namespace Tag

def boolean : Nat := 1
def integer : Nat := 2
def bitString : Nat := 3
def octetString : Nat := 4
def utf8String : Nat := 12
def sequence : Nat := 16
def set : Nat := 17
def numericString : Nat := 18
def printableString : Nat := 19
def ia5String : Nat := 22
def utcTime : Nat := 23
def generalizedTime : Nat := 24

end Tag

/-- Reads the further bytes of a long tag number, at most as many as the count says. -/
def readLongTag : Nat → Nat → Bytes → Option (Nat × Bytes)
  | 0, _, _ => none
  | _ + 1, _, [] => none
  | count + 1, value, byte :: rest =>
      let value := (value * 128 + byte.toNat % 128) % UInt32.size
      if byte < 0x80 then some (value, rest) else readLongTag count value rest

/-- Reads a tag number, given the first byte of its identifier. -/
def readTag (first : UInt8) (rest : Bytes) : Option (Nat × Bytes) :=
  if first.toNat % 32 = 31 then readLongTag 5 0 rest else some (first.toNat % 32, rest)

/-- The number that big-endian bytes stand for. -/
def natOfBytes (bytes : Bytes) : Nat :=
  bytes.foldl (fun value byte => value * 256 + byte.toNat) 0

/-- Reads a definite length that fits in sixty-four bits. -/
def readLength : Bytes → Option (Nat × Bytes)
  | [] => none
  | first :: rest =>
      if first < 0x80 then some (first.toNat, rest)
      else
        let count := first.toNat - 0x80
        let value := natOfBytes (rest.take count)
        if count = 0 ∨ count = 127 ∨ rest.length < count ∨ UInt64.size ≤ value then none
        else some (value, rest.drop count)

def readHeader : Bytes → Option (Header × Bytes)
  | [] => none
  | first :: rest => do
      let (tag, rest) ← readTag first rest
      let (length, rest) ← readLength rest
      return (⟨TagClass.ofByte first, first.toNat / 32 % 2 == 1, tag, length⟩, rest)

def readElement (bytes : Bytes) : Option (Element × Bytes) := do
  let (header, rest) ← readHeader bytes
  guard (header.length ≤ rest.length)
  return (⟨header, rest.take header.length⟩, rest.drop header.length)

def readTagged (tag : Nat) (bytes : Bytes) : Option (Element × Bytes) := do
  let (element, rest) ← readElement bytes
  guard (element.header.tag = tag)
  return (element, rest)

/-- Reads elements one after another for as long as the reader succeeds, and returns what it did
not take. The count bounds their number. -/
def readMany {α : Type} (read : Bytes → Option (α × Bytes)) : Nat → Bytes → List α × Bytes
  | 0, bytes => ([], bytes)
  | count + 1, bytes =>
      match read bytes with
      | none => ([], bytes)
      | some (value, rest) =>
          let (values, rest) := readMany read count rest
          (value :: values, rest)

end TrustGate.Der
