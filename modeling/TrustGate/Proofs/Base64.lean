import TrustGate.Bytes.Base64
import TrustGate.Text.Blank

/-!
# Reading Base64 that was written

A symbol stands for the six bits it was written for, so a group gives back the one,
two or three bytes it was written for, and a text the bytes of its groups. A written
text has symbols and padding only, hence no blank and no dash.
-/

namespace TrustGate.Base64

/-! ## Symbols -/

theorem symbolValue?_symbol {value : Nat} (small : value < 64) :
    symbolValue? (symbol value) = some value := by
  have all : ∀ value < 64, symbolValue? (symbol value) = some value := by decide
  exact all value small

theorem symbol_ne_padding {value : Nat} (small : value < 64) : symbol value ≠ '=' := by
  intro same
  have read := symbolValue?_symbol small
  rw [same] at read
  cases read

/-! ## Groups -/

section Groups

variable (b0 b1 b2 : UInt8)

theorem decodeGroup?_one :
    decodeGroup? (symbol (b0.toNat / 4)) (symbol (b0.toNat % 4 * 16)) '=' '=' = some [b0] := by
  have bounded : b0.toNat < 256 := b0.toNat_lt
  have read0 := symbolValue?_symbol (show b0.toNat / 4 < 64 by omega)
  have read1 := symbolValue?_symbol (show b0.toNat % 4 * 16 < 64 by omega)
  have unused : b0.toNat % 4 * 16 % 16 = 0 := by omega
  have whole : b0.toNat / 4 * 4 + b0.toNat % 4 * 16 / 16 = b0.toNat := by omega
  simp only [decodeGroup?, read0, read1, unused, whole, Option.bind_eq_bind, Option.bind_some,
    and_self, if_true, UInt8.ofNat_toNat]

theorem decodeGroup?_two :
    decodeGroup? (symbol (b0.toNat / 4)) (symbol (b0.toNat % 4 * 16 + b1.toNat / 16))
      (symbol (b1.toNat % 16 * 4)) '=' = some [b0, b1] := by
  have bounded0 : b0.toNat < 256 := b0.toNat_lt
  have bounded1 : b1.toNat < 256 := b1.toNat_lt
  have small : b1.toNat % 16 * 4 < 64 := by omega
  have read0 := symbolValue?_symbol (show b0.toNat / 4 < 64 by omega)
  have read1 := symbolValue?_symbol (show b0.toNat % 4 * 16 + b1.toNat / 16 < 64 by omega)
  have read2 := symbolValue?_symbol small
  have unused : b1.toNat % 16 * 4 % 4 = 0 := by omega
  have whole0 : b0.toNat / 4 * 4 + (b0.toNat % 4 * 16 + b1.toNat / 16) / 16 = b0.toNat := by omega
  have whole1 : (b0.toNat % 4 * 16 + b1.toNat / 16) % 16 * 16 + b1.toNat % 16 * 4 / 4 =
      b1.toNat := by omega
  simp only [decodeGroup?, read0, read1, read2, symbol_ne_padding small, unused, whole0, whole1,
    Option.bind_eq_bind, Option.bind_some, false_and, if_true, if_false, UInt8.ofNat_toNat]

theorem decodeGroup?_three :
    decodeGroup? (symbol (b0.toNat / 4)) (symbol (b0.toNat % 4 * 16 + b1.toNat / 16))
      (symbol (b1.toNat % 16 * 4 + b2.toNat / 64)) (symbol (b2.toNat % 64)) =
      some [b0, b1, b2] := by
  have bounded0 : b0.toNat < 256 := b0.toNat_lt
  have bounded1 : b1.toNat < 256 := b1.toNat_lt
  have bounded2 : b2.toNat < 256 := b2.toNat_lt
  have small2 : b1.toNat % 16 * 4 + b2.toNat / 64 < 64 := by omega
  have small3 : b2.toNat % 64 < 64 := by omega
  have read0 := symbolValue?_symbol (show b0.toNat / 4 < 64 by omega)
  have read1 := symbolValue?_symbol (show b0.toNat % 4 * 16 + b1.toNat / 16 < 64 by omega)
  have whole0 : b0.toNat / 4 * 4 + (b0.toNat % 4 * 16 + b1.toNat / 16) / 16 = b0.toNat := by omega
  have whole1 : (b0.toNat % 4 * 16 + b1.toNat / 16) % 16 * 16 +
      (b1.toNat % 16 * 4 + b2.toNat / 64) / 4 = b1.toNat := by omega
  have whole2 : (b1.toNat % 16 * 4 + b2.toNat / 64) % 4 * 64 + b2.toNat % 64 = b2.toNat := by omega
  simp only [decodeGroup?, read0, read1, symbolValue?_symbol small2, symbolValue?_symbol small3,
    symbol_ne_padding small2, symbol_ne_padding small3, whole0, whole1, whole2,
    Option.bind_eq_bind, Option.bind_some, false_and, if_false, UInt8.ofNat_toNat]

end Groups

/-! ## Texts -/

/-- Reading what was written gives the bytes back. -/
theorem decode?_encode (bytes : Bytes) : decode? (encode bytes) = some bytes := by
  induction bytes using encode.induct with
  | case1 => rfl
  | case2 b0 => simp [encode, decode?, decodeGroup?_one]
  | case3 b0 b1 => simp [encode, decode?, decodeGroup?_two]
  | case4 b0 b1 b2 rest ih => simp [encode, decode?, decodeGroup?_three, ih]

example : encode [0x66, 0x6F, 0x6F, 0x62] = "Zm9vYg==".toList := by decide

/-- What holds of the padding and of every symbol holds of every character that is written. -/
theorem forall_mem_encode (holds : Char → Prop) (padding : holds '=')
    (symbols : ∀ value < 64, holds (symbol value)) (bytes : Bytes) :
    ∀ char ∈ encode bytes, holds char := by
  induction bytes using encode.induct with
  | case1 => simp [encode]
  | case2 b0 =>
      have bounded : b0.toNat < 256 := b0.toNat_lt
      simp only [encode, List.forall_mem_cons]
      exact ⟨symbols _ (by omega), symbols _ (by omega), padding, padding, by simp⟩
  | case3 b0 b1 =>
      have bounded0 : b0.toNat < 256 := b0.toNat_lt
      have bounded1 : b1.toNat < 256 := b1.toNat_lt
      simp only [encode, List.forall_mem_cons]
      exact ⟨symbols _ (by omega), symbols _ (by omega), symbols _ (by omega), padding, by simp⟩
  | case4 b0 b1 b2 rest ih =>
      have bounded0 : b0.toNat < 256 := b0.toNat_lt
      have bounded1 : b1.toNat < 256 := b1.toNat_lt
      have bounded2 : b2.toNat < 256 := b2.toNat_lt
      simp only [encode, List.forall_mem_cons]
      exact ⟨symbols _ (by omega), symbols _ (by omega), symbols _ (by omega),
        symbols _ (by omega), ih⟩

theorem isBlank_of_mem_encode (bytes : Bytes) :
    ∀ char ∈ encode bytes, Text.isBlank char = false :=
  forall_mem_encode (Text.isBlank · = false) (by decide) (by decide) bytes

theorem lineFeed_notMem_encode (bytes : Bytes) : '\n' ∉ encode bytes :=
  fun mem => absurd (isBlank_of_mem_encode bytes _ mem) (by decide)

theorem dash_notMem_encode (bytes : Bytes) : '-' ∉ encode bytes := by
  have apart := forall_mem_encode (· ≠ '-') (by decide) (by decide) bytes
  exact fun mem => apart '-' mem rfl

end TrustGate.Base64
