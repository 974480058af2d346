/-!
# Sets of characters

A set of characters is kept as the ascending list of the code points at which
membership changes: a code point belongs to the set if an odd number of changes
lie at or below it. Large properties of characters are tables in this form.
-/

namespace TrustGate.Text

/-- A set of characters, by the code points at which membership changes. -/
structure CharSet where
  changes : List Nat
deriving Repr, DecidableEq

def CharSet.contains (set : CharSet) (char : Char) : Bool :=
  (set.changes.takeWhile (· ≤ char.toNat)).length % 2 == 1

end TrustGate.Text
