import TrustGate.Bytes.Hex

/-!
# Base64

The standard alphabet with padding. Text is taken four characters at a time,
and every group stands for itself: a group may end in one or two padding
characters wherever it occurs, so the written forms of several byte strings
may simply follow one another. The bits that a padded group does not use have
to be zero, which leaves each byte string one written form.
-/

namespace TrustGate.Base64

def symbol (value : Nat) : Char :=
  if value < 26 then Char.ofNat (value + 0x41)
  else if value < 52 then Char.ofNat (value - 26 + 0x61)
  else if value < 62 then Char.ofNat (value - 52 + 0x30)
  else if value = 62 then '+' else '/'

def symbolValue? (char : Char) : Option Nat :=
  let code := char.toNat
  if 0x41 ≤ code ∧ code ≤ 0x5A then some (code - 0x41)
  else if 0x61 ≤ code ∧ code ≤ 0x7A then some (code - 0x61 + 26)
  else if 0x30 ≤ code ∧ code ≤ 0x39 then some (code - 0x30 + 52)
  else if char = '+' then some 62
  else if char = '/' then some 63
  else none

/-- Writes three bytes at a time; the last group is padded to four characters. -/
def encode : Bytes → List Char
  | [] => []
  | [b0] => [symbol (b0.toNat / 4), symbol (b0.toNat % 4 * 16), '=', '=']
  | [b0, b1] =>
      [symbol (b0.toNat / 4), symbol (b0.toNat % 4 * 16 + b1.toNat / 16),
        symbol (b1.toNat % 16 * 4), '=']
  | b0 :: b1 :: b2 :: rest =>
      symbol (b0.toNat / 4) :: symbol (b0.toNat % 4 * 16 + b1.toNat / 16) ::
        symbol (b1.toNat % 16 * 4 + b2.toNat / 64) :: symbol (b2.toNat % 64) :: encode rest

/-- The bytes of one group of four characters. -/
def decodeGroup? (c0 c1 c2 c3 : Char) : Option Bytes := do
  let v0 ← symbolValue? c0
  let v1 ← symbolValue? c1
  let b0 := UInt8.ofNat (v0 * 4 + v1 / 16)
  if c2 = '=' ∧ c3 = '=' then
    if v1 % 16 = 0 then some [b0] else none
  else
    let v2 ← symbolValue? c2
    let b1 := UInt8.ofNat (v1 % 16 * 16 + v2 / 4)
    if c3 = '=' then
      if v2 % 4 = 0 then some [b0, b1] else none
    else
      let v3 ← symbolValue? c3
      some [b0, b1, UInt8.ofNat (v2 % 4 * 64 + v3)]

/-- The bytes of a text made of whole groups. -/
def decode? : List Char → Option Bytes
  | [] => some []
  | c0 :: c1 :: c2 :: c3 :: rest => do
      let group ← decodeGroup? c0 c1 c2 c3
      let bytes ← decode? rest
      return group ++ bytes
  | _ => none

end TrustGate.Base64
