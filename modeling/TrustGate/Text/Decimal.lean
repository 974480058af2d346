/-!
# Decimal numbers

Natural numbers as people write them: digits, with a sign where one may stand.
Leading zeros mean nothing.
-/

namespace TrustGate.Text

/-- The number that digits spell; there has to be one, and nothing but digits. -/
def digits? (chars : List Char) : Option Nat :=
  if chars.isEmpty || !chars.all Char.isDigit then none
  else some (chars.foldl (fun value digit => value * 10 + (digit.toNat - 0x30)) 0)

/-- A natural number, perhaps with a plus sign. -/
def natural? : List Char → Option Nat
  | '+' :: digits => digits? digits
  | digits => digits? digits

/-- A natural number, perhaps with a plus sign, or a zero with a minus sign. -/
def unsigned? : List Char → Option Nat
  | '-' :: digits => if digits? digits = some 0 then some 0 else none
  | chars => natural? chars

end TrustGate.Text
