import Mathlib.Data.List.Induction
import TrustGate.Text.Decimal

/-!
# Spelled numbers

The texts that are read as a number are its decimal digits with any zeros in front of
them, and perhaps a plus sign in front of those. The value of digits is computed from
the left, so what the digits so far spell is followed from the left as well: another
digit is put behind the decimal digits of a positive number, and takes the place of
those of zero, which becomes one more zero in front.
-/

namespace TrustGate.Text

theorem digits?_eq_some_iff_value {chars : List Char} {value : ℕ} :
    digits? chars = some value ↔
      chars ≠ [] ∧ (∀ char ∈ chars, char.isDigit) ∧ Nat.ofDigitChars 10 chars 0 = value := by
  have same : chars.foldl (fun value digit => value * 10 + (digit.toNat - 0x30)) 0 =
      Nat.ofDigitChars 10 chars 0 := by
    simp only [Nat.ofDigitChars_eq_foldl, Nat.mul_comm 10]
    rfl
  by_cases empty : chars = []
  · simp [digits?, empty]
  · simp [digits?, empty, same]

/-- A digit stands for a number below ten, whose decimal digits it is. -/
theorem toDigits_of_isDigit {char : Char} (digit : char.isDigit) :
    char.toNat - '0'.toNat < 10 ∧ Nat.toDigits 10 (char.toNat - '0'.toNat) = [char] := by
  have bounds := Char.isDigit_iff_toNat.mp digit
  have below : char.toNat - '0'.toNat < 10 := by
    simp at bounds ⊢
    omega
  have restored : Nat.digitChar (char.toNat - '0'.toNat) = char := by
    apply Char.toNat_inj.mp
    rw [Nat.toNat_digitChar_of_lt_ten below]
    simp at bounds ⊢
    omega
  exact ⟨below, by rw [Nat.toDigits_of_lt_base below, restored]⟩

/-- Digits are those of their value, with zeros in front of them. -/
theorem exists_zeros_append {chars : List Char} (filled : chars ≠ [])
    (digits : ∀ char ∈ chars, char.isDigit) :
    ∃ zeros, chars =
      List.replicate zeros '0' ++ Nat.toDigits 10 (Nat.ofDigitChars 10 chars 0) := by
  induction chars using List.reverseRecOn with
  | nil => exact absurd rfl filled
  | append_singleton front char ih =>
      obtain ⟨before, last⟩ := List.forall_mem_append.mp digits
      obtain ⟨below, single⟩ := toDigits_of_isDigit (last char List.mem_cons_self)
      have value : Nat.ofDigitChars 10 (front ++ [char]) 0 =
          10 * Nat.ofDigitChars 10 front 0 + (char.toNat - '0'.toNat) := by
        rw [Nat.ofDigitChars_append, Nat.ofDigitChars_cons, Nat.ofDigitChars_nil]
      by_cases empty : front = []
      · subst empty
        refine ⟨0, ?_⟩
        rw [value, Nat.ofDigitChars_nil, Nat.mul_zero, Nat.zero_add, single]
        rfl
      · obtain ⟨zeros, spelled⟩ := ih empty before
        obtain zero | positive := Nat.eq_zero_or_pos (Nat.ofDigitChars 10 front 0)
        · refine ⟨zeros + 1, ?_⟩
          rw [zero] at spelled value
          rw [value, Nat.mul_zero, Nat.zero_add, single, spelled]
          simp [List.replicate_succ']
        · refine ⟨zeros, ?_⟩
          rw [value, ← Nat.toDigits_append_toDigits (by decide) positive below, single,
            ← List.append_assoc, ← spelled]

theorem ofDigitChars_zeros (zeros : ℕ) (digits : List Char) :
    Nat.ofDigitChars 10 (List.replicate zeros '0' ++ digits) 0 = Nat.ofDigitChars 10 digits 0 := by
  induction zeros with
  | zero => rfl
  | succ zeros ih =>
      rw [List.replicate_succ, List.cons_append, Nat.ofDigitChars_cons]
      exact ih

theorem digits?_eq_some_iff {chars : List Char} {value : ℕ} :
    digits? chars = some value ↔
      ∃ zeros, chars = List.replicate zeros '0' ++ Nat.toDigits 10 value := by
  rw [digits?_eq_some_iff_value]
  constructor
  · rintro ⟨filled, digits, rfl⟩
    exact exists_zeros_append filled digits
  · rintro ⟨zeros, rfl⟩
    refine ⟨by simp, ?_, ?_⟩
    · intro char inside
      rcases List.mem_append.mp inside with zero | digit
      · rw [List.eq_of_mem_replicate zero]
        rfl
      · exact Nat.isDigit_of_mem_toDigits (by decide) (by decide) digit
    · rw [ofDigitChars_zeros, Nat.ofDigitChars_ten_toDigits]

/-- Digits are a number without a sign too, for none of them is a plus sign. -/
theorem natural?_of_digits? {chars : List Char} {value : ℕ} (read : digits? chars = some value) :
    natural? chars = some value := by
  unfold natural?
  split
  · next digits =>
      obtain ⟨-, digital, -⟩ := digits?_eq_some_iff_value.mp read
      have signed := digital '+' List.mem_cons_self
      simp at signed
  · exact read

/-- A text is read as a number if it is the digits of the number behind zeros, and perhaps a plus
sign. -/
theorem natural?_eq_some_iff {chars : List Char} {value : ℕ} :
    natural? chars = some value ↔ ∃ sign zeros, (sign = [] ∨ sign = ['+']) ∧
      chars = sign ++ List.replicate zeros '0' ++ Nat.toDigits 10 value := by
  constructor
  · intro read
    unfold natural? at read
    split at read
    · next digits =>
        obtain ⟨zeros, rfl⟩ := digits?_eq_some_iff.mp read
        exact ⟨['+'], zeros, .inr rfl, by simp⟩
    · obtain ⟨zeros, rfl⟩ := digits?_eq_some_iff.mp read
      exact ⟨[], zeros, .inl rfl, by simp⟩
  · rintro ⟨sign, zeros, rfl | rfl, rfl⟩
    · exact natural?_of_digits? (digits?_eq_some_iff.mpr ⟨zeros, rfl⟩)
    · exact digits?_eq_some_iff.mpr ⟨zeros, rfl⟩

end TrustGate.Text
