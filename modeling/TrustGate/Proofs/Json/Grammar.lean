import Mathlib.Data.List.TakeDrop
import TrustGate.Json.Printer
import TrustGate.Json.Reader

/-!
# Texts and their tokens

What may be written for a token: the one spelling of a bracket or a word, any
number of the grammar, and for a string any of the spellings of its pieces. A
text is a sequence of tokens so written, with blanks anywhere between them, and
cutting it gives just these tokens.
-/

namespace TrustGate

/-! ## Strings -/

/-- What may be written for a piece of a string. -/
inductive StringPiece.IsSpelled : StringPiece → List Char → Prop
  | plain {char : Char} (quote : char ≠ '"') (slash : char ≠ '\\') (visible : ¬char.toNat < 0x20) :
      IsSpelled (.char char) [char]
  | letter {letter char : Char} (escaped : Json.escapedChar? letter = some char) :
      IsSpelled (.char char) ['\\', letter]
  | unit {d0 d1 d2 d3 : Char} {value : Nat} (digits : Json.unitOf? d0 d1 d2 d3 = some value) :
      IsSpelled (.unit value) ['\\', 'u', d0, d1, d2, d3]

namespace Json

/-- What may be written for the pieces of a string, without its quotes. -/
inductive SpellsPieces : List Char → List StringPiece → Prop
  | nil : SpellsPieces [] []
  | cons {piece : StringPiece} {written rest : List Char} {pieces : List StringPiece}
      (spelled : piece.IsSpelled written) (later : SpellsPieces rest pieces) :
      SpellsPieces (written ++ rest) (piece :: pieces)

/-- Reading goes on behind a piece. -/
def thenPieces (piece : StringPiece) (rest : List Char) : Option (List StringPiece × List Char) :=
  (readPieces rest).map fun (pieces, remaining) => (piece :: pieces, remaining)

theorem readPieces_piece {piece : StringPiece} {written : List Char}
    (spelled : piece.IsSpelled written) (rest : List Char) :
    readPieces (written ++ rest) = thenPieces piece rest := by
  cases spelled with
  | plain quote slash visible =>
      simp only [List.singleton_append, readPieces, slash, visible, false_implies, implies_true,
        or_self, if_false, Option.bind_eq_bind, Option.pure_def, thenPieces, Option.map_eq_bind]
      rfl
  | @letter letter char escaped =>
      have other : letter ≠ 'u' := by
        rintro rfl
        cases escaped
      simp only [List.cons_append, List.nil_append, readPieces, escaped, other, false_implies,
        implies_true, Option.bind_eq_bind, Option.bind_some, Option.pure_def, thenPieces,
        Option.map_eq_bind]
      rfl
  | unit digits =>
      simp only [List.cons_append, List.nil_append, readPieces, digits, Option.bind_eq_bind,
        Option.bind_some, Option.pure_def, thenPieces, Option.map_eq_bind]
      rfl

theorem readPieces_spelled {written : List Char} {pieces : List StringPiece}
    (spells : SpellsPieces written pieces) (rest : List Char) :
    readPieces (written ++ '"' :: rest) = some (pieces, rest) := by
  induction spells with
  | nil => simp [readPieces]
  | cons spelled _ ih =>
      rw [List.append_assoc, readPieces_piece spelled, thenPieces, ih]
      rfl

/-! ## Numbers -/

/-- Digits, at least one. -/
def IsDigits (chars : List Char) : Prop :=
  chars ≠ [] ∧ ∀ char ∈ chars, char.isDigit

/-- A whole part: digits, of which only a single one may begin with a zero. -/
def IsWhole (chars : List Char) : Prop :=
  IsDigits chars ∧ (chars.head? = some '0' → chars = ['0'])

def IsFraction (chars : List Char) : Prop :=
  chars = [] ∨ ∃ digits, IsDigits digits ∧ chars = '.' :: digits

def IsExponent (chars : List Char) : Prop :=
  chars = [] ∨ ∃ mark sign digits, (mark = 'e' ∨ mark = 'E') ∧
    (sign = [] ∨ sign = ['+'] ∨ sign = ['-']) ∧ IsDigits digits ∧ chars = mark :: (sign ++ digits)

/-- A number of the grammar. -/
def IsNumber (chars : List Char) : Prop :=
  ∃ sign whole fraction exponent, (sign = [] ∨ sign = ['-']) ∧ IsWhole whole ∧
    IsFraction fraction ∧ IsExponent exponent ∧ chars = sign ++ whole ++ fraction ++ exponent

/-- Whether a number ends before a text: nothing in it goes on with the number. -/
def endsNumber : List Char → Bool
  | [] => true
  | char :: _ => !(char.isDigit || char == '.' || char == 'e' || char == 'E')

def endsDigits (rest : List Char) : Prop :=
  ∀ char ∈ rest.head?, char.isDigit = false

theorem endsDigits_of_ends {rest : List Char} (ends : endsNumber rest) : endsDigits rest := by
  cases rest with
  | nil => simp [endsDigits]
  | cons char rest => simp_all [endsDigits, endsNumber]

theorem endsDigits_exponent {exponent rest : List Char} (valid : IsExponent exponent)
    (ends : endsNumber rest) : endsDigits (exponent ++ rest) := by
  rcases valid with rfl | ⟨mark, sign, digits, rfl | rfl, -, -, rfl⟩
  · exact endsDigits_of_ends ends
  · simp [endsDigits]
  · simp [endsDigits]

theorem head?_exponent_ne_point {exponent rest : List Char} (valid : IsExponent exponent)
    (ends : endsNumber rest) : (exponent ++ rest).head? ≠ some '.' := by
  rcases valid with rfl | ⟨mark, sign, digits, rfl | rfl, -, -, rfl⟩
  · rintro point
    cases rest with
    | nil => cases point
    | cons char rest =>
        cases point
        cases ends
  · simp
  · simp

theorem endsDigits_fraction {fraction rest : List Char} (valid : IsFraction fraction)
    (ends : endsDigits rest) : endsDigits (fraction ++ rest) := by
  rcases valid with rfl | ⟨digits, -, rfl⟩
  · exact ends
  · simp [endsDigits]

theorem takeSomeDigits_append {digits rest : List Char} (valid : IsDigits digits)
    (ends : endsDigits rest) : takeSomeDigits (digits ++ rest) = some (digits, rest) := by
  obtain ⟨present, digital⟩ := valid
  have taken : takeDigits (digits ++ rest) = (digits, rest) := by
    rw [takeDigits, List.span_eq_takeWhile_dropWhile, List.takeWhile_append_of_pos digital,
      List.dropWhile_append_of_pos digital]
    cases rest with
    | nil => simp
    | cons char rest =>
        have other : char.isDigit = false := ends char rfl
        simp [other]
  rw [takeSomeDigits, taken]
  cases digits with
  | nil => exact absurd rfl present
  | cons => rfl

theorem takeWhole_append {whole rest : List Char} (valid : IsWhole whole)
    (ends : endsDigits rest) : takeWhole (whole ++ rest) = some (whole, rest) := by
  obtain ⟨digits, leading⟩ := valid
  have taken := takeSomeDigits_append digits ends
  rcases whole with _ | ⟨first, later⟩
  · exact absurd rfl digits.1
  · by_cases zero : first = '0'
    · subst zero
      obtain rfl : later = [] := (List.cons.inj (leading rfl)).2
      rfl
    · rw [List.cons_append, takeWhole]
      · exact taken
      · rintro _ ⟨⟩
        exact zero rfl

theorem takeFraction_append {fraction rest : List Char} (valid : IsFraction fraction)
    (ends : endsDigits rest) (pointless : rest.head? ≠ some '.') :
    takeFraction (fraction ++ rest) = some (fraction, rest) := by
  rcases valid with rfl | ⟨digits, valid, rfl⟩
  · rw [List.nil_append, takeFraction]
    rintro later rfl
    exact pointless rfl
  · simp [takeFraction, takeSomeDigits_append valid ends]

theorem takeExponent_append {exponent rest : List Char} (valid : IsExponent exponent)
    (ends : endsNumber rest) : takeExponent (exponent ++ rest) = some (exponent, rest) := by
  rcases valid with rfl | ⟨mark, sign, digits, marked, signed, valid, rfl⟩
  · cases rest with
    | nil => rfl
    | cons char rest =>
        have plain : ¬(char = 'e' ∨ char = 'E') := by simp_all [endsNumber]
        rw [List.nil_append, takeExponent, if_neg plain]
  · have taken := takeSomeDigits_append valid (endsDigits_of_ends ends)
    have signs : takeSign (sign ++ (digits ++ rest)) = (sign, digits ++ rest) := by
      rcases signed with rfl | rfl | rfl
      · obtain ⟨present, digital⟩ := valid
        rcases digits with _ | ⟨first, later⟩
        · exact absurd rfl present
        · have digit := digital first List.mem_cons_self
          rw [List.nil_append, List.cons_append, takeSign]
          · rintro _ ⟨⟩
            cases digit
          · rintro _ ⟨⟩
            cases digit
      · rfl
      · rfl
    rw [List.cons_append, List.append_assoc, takeExponent, if_pos marked]
    simp [signs, taken]

theorem exists_digit_of_isWhole {whole : List Char} (valid : IsWhole whole) :
    ∃ first later, whole = first :: later ∧ first.isDigit := by
  obtain ⟨⟨present, digital⟩, -⟩ := valid
  cases whole with
  | nil => exact absurd rfl present
  | cons first later => exact ⟨first, later, rfl, digital first List.mem_cons_self⟩

theorem takeNumber_append {number rest : List Char} (valid : IsNumber number)
    (ends : endsNumber rest) : takeNumber (number ++ rest) = some (number, rest) := by
  obtain ⟨sign, whole, fraction, exponent, signed, isWhole, isFraction, isExponent, rfl⟩ := valid
  have afterFraction := endsDigits_exponent isExponent ends
  have takenWhole := takeWhole_append isWhole (endsDigits_fraction isFraction afterFraction)
  have takenFraction :=
    takeFraction_append isFraction afterFraction (head?_exponent_ne_point isExponent ends)
  have takenExponent := takeExponent_append isExponent ends
  rcases signed with rfl | rfl
  · obtain ⟨first, later, rfl, digit⟩ := exists_digit_of_isWhole isWhole
    have unsigned : first ≠ '-' := by
      rintro rfl
      cases digit
    simp only [List.nil_append, List.append_assoc, List.cons_append] at takenWhole ⊢
    simp [takeNumber, unsigned, takenWhole, takenFraction, takenExponent]
  · simp [takeNumber, takenWhole, takenFraction, takenExponent]

/-! ## Tokens -/

/-- What may be written for a token. -/
def Token.IsSpelled : Token → List Char → Prop
  | .number spelling, written => written = spelling ∧ IsNumber spelling
  | .text pieces, written =>
      ∃ inside, SpellsPieces inside pieces ∧ written = '"' :: (inside ++ ['"'])
  | token, written => written = token.spelling

/-- Whether a token ends before a text: only a number could go on. -/
def Token.endsBefore (rest : List Char) : Token → Bool
  | .number _ => endsNumber rest
  | _ => true

theorem exists_head_of_isNumber {number : List Char} (valid : IsNumber number) :
    ∃ first later, number = first :: later ∧ (first.isDigit ∨ first = '-') := by
  obtain ⟨sign, whole, fraction, exponent, rfl | rfl, isWhole, -, -, rfl⟩ := valid
  · obtain ⟨first, later, rfl, digit⟩ := exists_digit_of_isWhole isWhole
    exact ⟨first, _, rfl, .inl digit⟩
  · exact ⟨'-', _, rfl, .inr rfl⟩

theorem readToken_number {first : Char} (starts : first.isDigit ∨ first = '-') (rest : List Char) :
    readToken (first :: rest) =
      (takeNumber (first :: rest)).map fun (spelling, remaining) =>
        (.number spelling, remaining) := by
  unfold readToken
  split
  case h_12 => rfl
  all_goals cases ‹first :: rest = _› <;> rcases starts with digit | ⟨⟨⟩⟩ <;> cases digit

theorem readToken_spelled {token : Token} {written rest : List Char}
    (spelled : token.IsSpelled written) (ends : token.endsBefore rest) :
    readToken (written ++ rest) = some (token, rest) := by
  cases token with
  | text pieces =>
      obtain ⟨inside, spells, rfl⟩ := spelled
      simp only [List.cons_append, List.append_assoc, List.nil_append, readToken,
        readPieces_spelled spells, Option.map_some]
  | number spelling =>
      obtain ⟨rfl, valid⟩ := spelled
      obtain ⟨first, later, spelled, starts⟩ := exists_head_of_isNumber valid
      have taken := takeNumber_append valid ends
      rw [spelled, List.cons_append] at taken
      rw [spelled, List.cons_append, readToken_number starts, taken]
      rfl
  | bool value =>
      obtain rfl := spelled
      cases value <;> rfl
  | _ =>
      obtain rfl := spelled
      rfl

theorem Token.IsSpelled.exists_head {token : Token} {written : List Char}
    (spelled : token.IsSpelled written) :
    ∃ first later, written = first :: later ∧ isSpace first = false := by
  cases token with
  | text pieces =>
      obtain ⟨inside, -, rfl⟩ := spelled
      exact ⟨_, _, rfl, rfl⟩
  | number spelling =>
      obtain ⟨rfl, valid⟩ := spelled
      obtain ⟨first, later, rfl, starts⟩ := exists_head_of_isNumber valid
      refine ⟨first, later, rfl, ?_⟩
      apply Bool.eq_false_iff.mpr
      intro blank
      simp only [isSpace, Bool.or_eq_true, beq_iff_eq] at blank
      rcases blank with ((rfl | rfl) | rfl) | rfl <;>
        rcases starts with digit | ⟨⟨⟩⟩ <;> cases digit
  | bool value =>
      obtain rfl := spelled
      cases value <;> exact ⟨_, _, rfl, rfl⟩
  | _ =>
      obtain rfl := spelled
      exact ⟨_, _, rfl, rfl⟩

/-! ## Texts -/

/-- A text that is some tokens, with blanks before any of them and at the end. -/
inductive IsTextOf : List Token → List Char → Prop
  | done : IsTextOf [] []
  | blank {char : Char} {chars : List Char} {tokens : List Token} (space : isSpace char)
      (rest : IsTextOf tokens chars) : IsTextOf tokens (char :: chars)
  | token {token : Token} {written chars : List Char} {tokens : List Token}
      (spelled : token.IsSpelled written) (ends : token.endsBefore chars)
      (rest : IsTextOf tokens chars) : IsTextOf (token :: tokens) (written ++ chars)

theorem lex_spelled {token : Token} {written rest : List Char} (spelled : token.IsSpelled written)
    (ends : token.endsBefore rest) : lex (written ++ rest) = (lex rest).map (token :: ·) := by
  have read := readToken_spelled spelled ends
  obtain ⟨first, later, rfl, visible⟩ := spelled.exists_head
  rw [List.cons_append] at read ⊢
  rw [lex, visible]
  simp [read]

theorem lex_of_isTextOf {tokens : List Token} {chars : List Char}
    (isText : IsTextOf tokens chars) : lex chars = some tokens := by
  induction isText with
  | done => rw [lex]
  | blank space _ ih => rw [lex, if_pos space, ih]
  | token spelled ends _ ih => rw [lex_spelled spelled ends, ih, Option.map_some]

end Json

end TrustGate
