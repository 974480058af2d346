import TrustGate.Bytes.Hex

/-!
# Reading hexadecimal text that was written

Digits are read back one by one, then the two digits of a byte, and then a
string of bytes.
-/

namespace TrustGate.Hex

theorem digitValue?_digit {value : Nat} (small : value < 16) :
    digitValue? (digit value) = some value := by
  have all : ∀ value < 16, digitValue? (digit value) = some value := by decide
  exact all value small

theorem decodeChars?_encodeChars (bytes : Bytes) :
    decodeChars? (encodeChars bytes) = some bytes := by
  induction bytes with
  | nil => rfl
  | cons byte rest ih =>
      have bounded : byte.toNat < 256 := byte.toNat_lt
      have high := digitValue?_digit (show byte.toNat / 16 < 16 by omega)
      have low := digitValue?_digit (show byte.toNat % 16 < 16 by omega)
      have whole : byte.toNat / 16 * 16 + byte.toNat % 16 = byte.toNat := by omega
      simp only [encodeChars, encodeByte, List.flatMap_cons, List.cons_append, List.nil_append,
        decodeChars?, high, low] at ih ⊢
      simp only [ih, whole, Option.bind_eq_bind, Option.bind_some, Option.pure_def,
        UInt8.ofNat_toNat]

/-- Reading what was written gives the bytes back. -/
@[simp]
theorem decode?_encode (bytes : Bytes) : decode? (encode bytes) = some bytes := by
  rw [decode?, encode, String.toList_ofList, decodeChars?_encodeChars]

end TrustGate.Hex
