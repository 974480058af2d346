import TrustGate.DistinguishedName
import TrustGate.Proofs.Blank

/-!
# Splitting and escaping

A text is closed if no comma in it is unescaped and no backslash at its end
escapes what comes next. Splitting never divides a closed text, wherever it
stands, so closed texts joined by commas are split into those texts again.
Escaped values are closed.

Escaping is one way to write a text, and a rendered set of attributes has parts
that are not escaped, so unescaping is proved right for every written form. Since
a backslash is not blank and neither is what it escapes, trimming a written form
trims the text.
-/

namespace TrustGate.DistinguishedName

open Text

/-! ## Splitting -/

theorem splitFrom_ne_nil (escaped : Bool) (chars : List Char) : splitFrom escaped chars ≠ [] := by
  fun_cases splitFrom escaped chars <;> simp

theorem splitFrom_cons {escaped : Bool} {char : Char} (goesOn : ¬(char = ',' ∧ escaped = false))
    (rest : List Char) :
    splitFrom escaped (char :: rest) =
      (splitFrom (char = '\\' && !escaped) rest).modifyHead (char :: ·) := by
  rcases pieces : splitFrom (char = '\\' && !escaped) rest with _ | ⟨piece, later⟩
  · exact absurd pieces (splitFrom_ne_nil _ _)
  · simp [splitFrom, goesOn, pieces]

theorem splitUnescaped_comma (rest : List Char) :
    splitUnescaped (',' :: rest) = [] :: splitUnescaped rest := by
  simp [splitUnescaped, splitFrom]

/-- A text in which no comma is unescaped, and after which nothing is escaped. -/
inductive Closed : List Char → Prop
  | nil : Closed []
  | plain {char : Char} {rest : List Char} (undivided : char ≠ ',' ∧ char ≠ '\\') :
      Closed rest → Closed (char :: rest)
  | escaped (char : Char) {rest : List Char} : Closed rest → Closed ('\\' :: char :: rest)

theorem Closed.append {front rest : List Char} (closedFront : Closed front)
    (closedRest : Closed rest) : Closed (front ++ rest) := by
  induction closedFront with
  | nil => exact closedRest
  | plain undivided _ ih => exact .plain undivided ih
  | escaped char _ ih => exact .escaped char ih

theorem Closed.flatMap {α : Type} {text : α → List Char} (each : ∀ part, Closed (text part))
    {parts : List α} : Closed (parts.flatMap text) := by
  induction parts with
  | nil => exact .nil
  | cons part parts ih => simpa only [List.flatMap_cons] using (each part).append ih

theorem closed_of_undivided {chars : List Char}
    (undivided : ∀ char ∈ chars, char ≠ ',' ∧ char ≠ '\\') : Closed chars := by
  induction chars with
  | nil => exact .nil
  | cons char chars ih =>
      obtain ⟨first, later⟩ := List.forall_mem_cons.mp undivided
      exact .plain first (ih later)

theorem modifyHead_nil_append (pieces : List (List Char)) :
    pieces.modifyHead ([] ++ ·) = pieces :=
  congrFun List.modifyHead_id pieces

theorem splitUnescaped_append {front : List Char} (closed : Closed front) (rest : List Char) :
    splitUnescaped (front ++ rest) = (splitUnescaped rest).modifyHead (front ++ ·) := by
  simp only [splitUnescaped]
  induction closed with
  | nil => exact (modifyHead_nil_append _).symm
  | plain undivided _ ih => simp [splitFrom_cons, undivided, ih, Function.comp_def]
  | escaped char _ ih => simp [splitFrom_cons, ih, Function.comp_def]

theorem splitUnescaped_of_closed {chars : List Char} (closed : Closed chars) :
    splitUnescaped chars = [chars] := by
  simpa [splitUnescaped, splitFrom] using splitUnescaped_append closed []

theorem splitUnescaped_append_comma {front : List Char} (closed : Closed front)
    (rest : List Char) : splitUnescaped (front ++ ',' :: rest) = front :: splitUnescaped rest := by
  simp [splitUnescaped_append closed, splitUnescaped_comma]

/-! ## Components -/

theorem components_blank {char : Char} (blank : isBlank char = true) (rest : List Char) :
    components (char :: rest) = components rest := by
  have goesOn : char ≠ ',' ∧ char ≠ '\\' := by
    constructor <;> rintro rfl <;> simp [isBlank] at blank
  rcases pieces : splitFrom false rest with _ | ⟨piece, later⟩
  · exact absurd pieces (splitFrom_ne_nil false rest)
  · simp [components, splitUnescaped, splitFrom_cons, goesOn, pieces, trim, trimStart_cons, blank]

theorem components_of_closed {piece : List Char} (closed : Closed piece) :
    components piece = [trim piece].filter (!·.isEmpty) := by
  simp [components, splitUnescaped_of_closed closed]

theorem components_append_comma {piece : List Char} (closed : Closed piece) (rest : List Char) :
    components (piece ++ ',' :: rest) = [trim piece].filter (!·.isEmpty) ++ components rest := by
  simp only [components, splitUnescaped_append_comma closed, List.map_cons, ← List.filter_append,
    List.singleton_append]

/-- Closed texts joined by commas are the components of what they form, but for blank ones. -/
theorem components_intercalate {pieces : List (List Char)}
    (closed : ∀ piece ∈ pieces, Closed piece) :
    components ([',', ' '].intercalate pieces) = (pieces.map trim).filter (!·.isEmpty) := by
  induction pieces with
  | nil => rfl
  | cons piece pieces ih =>
      obtain ⟨closedPiece, closedLater⟩ := List.forall_mem_cons.mp closed
      rcases pieces with _ | ⟨next, pieces⟩
      · simpa using components_of_closed closedPiece
      · have spaced : isBlank ' ' = true := rfl
        simp only [List.intercalate_cons_cons, List.append_assoc, List.cons_append,
          List.nil_append]
        rw [components_append_comma closedPiece, components_blank spaced, ih closedLater,
          ← List.filter_append]
        rfl

/-! ## Escaping -/

theorem unescape_cons {char : Char} (plain : char ≠ '\\') (rest : List Char) :
    unescape (char :: rest) = char :: unescape rest := by
  cases rest <;> simp [unescape, plain]

theorem escapeValue_cons (char : Char) (chars : List Char) :
    escapeValue (char :: chars) =
      if isSeparator char then '\\' :: char :: escapeValue chars
      else char :: escapeValue chars := by
  by_cases separator : isSeparator char <;> simp [escapeValue, separator]

theorem closed_escapeValue (chars : List Char) : Closed (escapeValue chars) := by
  induction chars with
  | nil => exact .nil
  | cons char chars ih =>
      by_cases separator : isSeparator char
      · simpa [escapeValue_cons, separator] using .escaped char ih
      · have undivided : char ≠ ',' ∧ char ≠ '\\' := by
          constructor <;> rintro rfl <;> simp [isSeparator] at separator
        simpa [escapeValue_cons, separator] using .plain undivided ih

theorem isBlank_of_isSeparator {char : Char} (separator : isSeparator char = true) :
    isBlank char = false := by
  simp only [isSeparator, Bool.or_eq_true, beq_iff_eq] at separator
  rcases separator with (rfl | rfl) | rfl <;> rfl

/-! ## Written forms -/

/-- A text and a written form of it: every backslash has one in front of it, other characters that
are not blank may have one. -/
inductive Spells : List Char → List Char → Prop
  | nil : Spells [] []
  | plain {char : Char} {chars written : List Char} (unmarked : char ≠ '\\') :
      Spells chars written → Spells (char :: chars) (char :: written)
  | escaped {char : Char} {chars written : List Char} (visible : isBlank char = false) :
      Spells chars written → Spells (char :: chars) ('\\' :: char :: written)

theorem spells_self {chars : List Char} (unmarked : ∀ char ∈ chars, char ≠ '\\') :
    Spells chars chars := by
  induction chars with
  | nil => exact .nil
  | cons char chars ih =>
      obtain ⟨first, later⟩ := List.forall_mem_cons.mp unmarked
      exact .plain first (ih later)

theorem spells_escapeValue (chars : List Char) : Spells chars (escapeValue chars) := by
  induction chars with
  | nil => exact .nil
  | cons char chars ih =>
      by_cases separator : isSeparator char
      · simpa [escapeValue_cons, separator] using .escaped (isBlank_of_isSeparator separator) ih
      · have unmarked : char ≠ '\\' := by rintro rfl; simp [isSeparator] at separator
        simpa [escapeValue_cons, separator] using .plain unmarked ih

namespace Spells

variable {chars written : List Char}

theorem append {later laterWritten : List Char} (front : Spells chars written)
    (rest : Spells later laterWritten) : Spells (chars ++ later) (written ++ laterWritten) := by
  induction front with
  | nil => exact rest
  | plain unmarked _ ih => exact .plain unmarked ih
  | escaped visible _ ih => exact .escaped visible ih

theorem flatMap {α : Type} {texts forms : α → List Char}
    (each : ∀ part, Spells (texts part) (forms part)) (parts : List α) :
    Spells (parts.flatMap texts) (parts.flatMap forms) := by
  induction parts with
  | nil => exact .nil
  | cons part parts ih => simpa only [List.flatMap_cons] using (each part).append ih

theorem unescape_eq (spells : Spells chars written) : unescape written = chars := by
  induction spells with
  | nil => rfl
  | plain unmarked _ ih => rw [unescape_cons unmarked, ih]
  | escaped _ _ ih => simp [unescape, ih]

theorem trimStart (spells : Spells chars written) :
    Spells (trimStart chars) (trimStart written) := by
  induction spells with
  | nil => exact .nil
  | @plain char _ _ unmarked rest ih =>
      by_cases blank : isBlank char
      · simpa [trimStart_cons, blank] using ih
      · simpa [trimStart_cons, blank] using .plain unmarked rest
  | escaped visible rest _ =>
      have marked : isBlank '\\' = false := rfl
      simpa [trimStart_cons, visible, marked] using .escaped visible rest

theorem eq_nil_iff (spells : Spells chars written) : chars = [] ↔ written = [] := by
  cases spells <;> simp

theorem trimEnd (spells : Spells chars written) : Spells (trimEnd chars) (trimEnd written) := by
  induction spells with
  | nil => exact .nil
  | @plain char _ _ unmarked _ ih =>
      simp only [trimEnd_cons, ih.eq_nil_iff]
      split
      · exact .nil
      · exact .plain unmarked ih
  | escaped visible _ ih =>
      have marked : isBlank '\\' = false := rfl
      simpa [trimEnd_cons, visible, marked] using .escaped visible ih

/-- A written form is unescaped to its text, and blanks at the ends are the same in both. -/
theorem unescape_trim (spells : Spells chars written) : unescape (trim written) = trim chars :=
  spells.trimStart.trimEnd.unescape_eq

end Spells

end TrustGate.DistinguishedName
