import TrustGate.Proofs.Hex
import TrustGate.Proofs.Json.Grammar

/-!
# Tokens from written text

Spelling tokens and cutting the text into tokens again gives the tokens back,
with blanks anywhere between them. One thing changes on the way: a control
character without a letter of its own is written by its number, and so it comes
back as a unit. `reread` is what becomes of a piece and of a token.
-/

namespace TrustGate

/-! ## Pieces of strings -/

/-- Whether a character is written by its number. -/
def Json.isNumbered (char : Char) : Bool :=
  char.toNat < 0x20 && !(['\x08', '\t', '\n', '\x0c', '\r'].contains char)

/-- What a written piece is read as. -/
def StringPiece.reread : StringPiece → StringPiece
  | .char value => if Json.isNumbered value then .unit value.toNat else .char value
  | .unit value => .unit value

/-- Whether a piece can be written: a unit has sixteen bits. -/
def StringPiece.IsWritable : StringPiece → Prop
  | .char _ => True
  | .unit value => value < 0x10000

namespace Json

theorem unitOf?_digits {value : Nat} (small : value < 0x10000) :
    unitOf? (Hex.digit (value / 0x1000 % 16)) (Hex.digit (value / 0x100 % 16))
      (Hex.digit (value / 0x10 % 16)) (Hex.digit (value % 16)) = some value := by
  have digits (part : Nat) : Hex.digitValue? (Hex.digit (part % 16)) = some (part % 16) :=
    Hex.digitValue?_digit (Nat.mod_lt part (by decide))
  simp only [unitOf?, digits, Option.bind_eq_bind, Option.bind_some, Option.pure_def,
    Option.some_inj]
  omega

theorem isSpelled_writeChar (char : Char) :
    (StringPiece.char char).reread.IsSpelled (writeChar char) := by
  unfold writeChar
  split
  -- All characters but those of the last case are a letter after a backslash.
  case h_8 _ quote slash back tab feed form ret =>
    by_cases control : char.toNat < 0x20
    · have numbered : isNumbered char = true := by
        simpa [isNumbered, control] using ⟨back, tab, feed, form, ret⟩
      rw [if_pos control, StringPiece.reread, if_pos numbered]
      exact .unit (unitOf?_digits (by omega))
    · have lettered : isNumbered char = false := by simp [isNumbered, control]
      rw [if_neg control, StringPiece.reread, lettered]
      exact .plain quote slash control
  all_goals exact .letter rfl

theorem isSpelled_writePiece {piece : StringPiece} (writable : piece.IsWritable) :
    piece.reread.IsSpelled (writePiece piece) := by
  cases piece with
  | char value => exact isSpelled_writeChar value
  | unit value => exact .unit (unitOf?_digits writable)

theorem spellsPieces_written {pieces : List StringPiece}
    (writable : ∀ piece ∈ pieces, piece.IsWritable) :
    SpellsPieces (pieces.flatMap writePiece) (pieces.map StringPiece.reread) := by
  induction pieces with
  | nil => exact .nil
  | cons piece pieces ih =>
      rw [List.forall_mem_cons] at writable
      exact .cons (isSpelled_writePiece writable.1) (ih writable.2)

/-! ## Natural numbers -/

theorem isDigit_toDigits (value : Nat) : ∀ digit ∈ Nat.toDigits 10 value, digit.isDigit := by
  intro digit mem
  exact Nat.isDigit_of_mem_toDigits (by decide) (by decide) mem

theorem isDigits_toDigits (value : Nat) : IsDigits (Nat.toDigits 10 value) :=
  ⟨Nat.toDigits_ne_nil, isDigit_toDigits value⟩

theorem head?_toDigits_ne_zero {value : Nat} (positive : 0 < value) :
    (Nat.toDigits 10 value).head? ≠ some '0' := by
  induction value using Nat.strongRecOn with
  | ind value ih =>
      by_cases single : value < 10
      · rw [Nat.toDigits_of_lt_base single, List.head?_cons, ne_eq, Option.some_inj,
          Nat.digitChar_eq_zero]
        omega
      · have shorter := ih (value / 10) (by omega) (by omega)
        rw [Nat.toDigits_of_base_le (by decide) (by omega), List.head?_append]
        cases spelled : Nat.toDigits 10 (value / 10) with
        | nil => exact absurd spelled Nat.toDigits_ne_nil
        | cons first digits => simpa [spelled] using shorter

theorem isNumber_toDigits (value : Nat) : IsNumber (Nat.toDigits 10 value) := by
  refine ⟨[], Nat.toDigits 10 value, [], [], .inl rfl, ⟨isDigits_toDigits value, ?_⟩, .inl rfl,
    .inl rfl, by simp⟩
  intro zero
  obtain rfl | positive := Nat.eq_zero_or_pos value
  · rfl
  · exact absurd zero (head?_toDigits_ne_zero positive)

/-! ## Tokens -/

/-- What a spelled token is read as. -/
def Token.reread : Token → Token
  | .text pieces => .text (pieces.map StringPiece.reread)
  | token => token

/-- Whether a token can be spelled: its number is one of the grammar and its pieces can be
written. -/
def Token.IsWritable : Token → Prop
  | .number spelling => IsNumber spelling
  | .text pieces => ∀ piece ∈ pieces, piece.IsWritable
  | _ => True

theorem isSpelled_spelling {token : Token} (writable : token.IsWritable) :
    token.reread.IsSpelled token.spelling := by
  cases token with
  | text pieces => exact ⟨_, spellsPieces_written writable, rfl⟩
  | number spelling => exact ⟨rfl, writable⟩
  | _ => rfl

theorem endsBefore_reread (token : Token) (rest : List Char) :
    token.reread.endsBefore rest = token.endsBefore rest := by
  cases token <;> rfl

/-! ## Texts of tokens -/

/-- A text spells some tokens, with blanks before any of them and at the end. -/
inductive Spells : List Char → List Token → Prop
  | done : Spells [] []
  | blank {char : Char} {chars : List Char} {tokens : List Token} :
      isSpace char → Spells chars tokens → Spells (char :: chars) tokens
  | token (token : Token) {rest : List Char} {tokens : List Token} :
      token.endsBefore rest → Spells rest tokens →
        Spells (token.spelling ++ rest) (token :: tokens)

/-- A text that spells writable tokens is a text of what these tokens are read as. -/
theorem isTextOf_of_spells {chars : List Char} {tokens : List Token} (spells : Spells chars tokens)
    (writable : ∀ token ∈ tokens, token.IsWritable) :
    IsTextOf (tokens.map Token.reread) chars := by
  induction spells with
  | done => exact .done
  | blank space _ ih => exact .blank space (ih writable)
  | token token ends _ ih =>
      rw [List.forall_mem_cons] at writable
      rw [← endsBefore_reread] at ends
      exact .token (isSpelled_spelling writable.1) ends (ih writable.2)

end Json

end TrustGate
