/-!
# Hexadecimal text

Bytes written as pairs of hexadecimal digits. Writing uses lowercase digits;
reading takes either case and refuses an odd number of digits. Reading what was
written gives the bytes back.
-/

namespace TrustGate

abbrev Bytes := List UInt8

namespace Hex

/-- The lowercase digit of a value below sixteen. -/
def digit (value : Nat) : Char :=
  if value < 10 then Char.ofNat (value + 0x30) else Char.ofNat (value + 0x57)

/-- The value of a digit in either case. -/
def digitValue? (char : Char) : Option Nat :=
  let code := char.toNat
  if 0x30 ≤ code ∧ code ≤ 0x39 then some (code - 0x30)
  else if 0x61 ≤ code ∧ code ≤ 0x66 then some (code - 0x57)
  else if 0x41 ≤ code ∧ code ≤ 0x46 then some (code - 0x37)
  else none

def encodeByte (byte : UInt8) : List Char :=
  [digit (byte.toNat / 16), digit (byte.toNat % 16)]

def encodeChars (bytes : Bytes) : List Char :=
  bytes.flatMap encodeByte

def encode (bytes : Bytes) : String :=
  String.ofList (encodeChars bytes)

def decodeChars? : List Char → Option Bytes
  | [] => some []
  | [_] => none
  | high :: low :: rest => do
      let highValue ← digitValue? high
      let lowValue ← digitValue? low
      let bytes ← decodeChars? rest
      return UInt8.ofNat (highValue * 16 + lowValue) :: bytes

def decode? (text : String) : Option Bytes :=
  decodeChars? text.toList

end Hex

end TrustGate
