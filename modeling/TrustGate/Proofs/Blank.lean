import TrustGate.Text.Blank

/-!
# Trimming

Trimming cuts blanks off both ends and nothing else. The two one-sided trims
commute, and neither goes past a character that is not blank.
-/

namespace TrustGate.Text

@[simp]
theorem trimStart_nil : trimStart [] = [] :=
  rfl

@[simp]
theorem trimEnd_nil : trimEnd [] = [] :=
  rfl

theorem trimStart_cons (char : Char) (chars : List Char) :
    trimStart (char :: chars) = if isBlank char then trimStart chars else char :: chars := by
  simp only [trimStart, List.dropWhile_cons]

theorem trimEnd_cons (char : Char) (chars : List Char) :
    trimEnd (char :: chars) =
      if isBlank char ∧ trimEnd chars = [] then [] else char :: trimEnd chars := by
  simp only [trimEnd, List.reverse_cons, List.dropWhile_append, List.isEmpty_iff,
    List.reverse_eq_nil_iff]
  by_cases empty : chars.reverse.dropWhile isBlank = []
  · by_cases blank : isBlank char <;> simp [empty, blank]
  · simp [empty]

section Visible

variable {char : Char} (visible : isBlank char = false) (front rest : List Char)
include visible

theorem trimStart_append_cons :
    trimStart (front ++ char :: rest) = trimStart front ++ char :: rest := by
  induction front with
  | nil => simp [trimStart_cons, visible]
  | cons first front ih =>
      by_cases blank : isBlank first <;> simp [trimStart_cons, blank, ih]

theorem trimEnd_append_cons : trimEnd (front ++ char :: rest) = front ++ char :: trimEnd rest := by
  induction front with
  | nil => simp [trimEnd_cons, visible]
  | cons first front ih => simp [trimEnd_cons, ih]

/-- A visible character divides what is trimmed at the start from what is trimmed at the end. -/
theorem trim_append_cons :
    trim (front ++ char :: rest) = trimStart front ++ char :: trimEnd rest := by
  rw [trim, trimStart_append_cons visible, trimEnd_append_cons visible]

end Visible

theorem trimStart_trimEnd (chars : List Char) :
    trimStart (trimEnd chars) = trimEnd (trimStart chars) := by
  induction chars with
  | nil => rfl
  | cons char chars ih =>
      by_cases blank : isBlank char
      · by_cases empty : trimEnd chars = []
        · simp_all [trimEnd_cons, trimStart_cons]
        · simp [trimEnd_cons, trimStart_cons, blank, empty, ih]
      · simp [trimEnd_cons, trimStart_cons, blank]

theorem trimStart_trimStart (chars : List Char) :
    trimStart (trimStart chars) = trimStart chars := by
  induction chars with
  | nil => rfl
  | cons char chars ih => by_cases blank : isBlank char <;> simp [trimStart_cons, blank, ih]

theorem trimEnd_trimEnd (chars : List Char) : trimEnd (trimEnd chars) = trimEnd chars := by
  induction chars with
  | nil => rfl
  | cons char chars ih =>
      by_cases gone : isBlank char = true ∧ trimEnd chars = []
      · simp [trimEnd_cons, gone]
      · simp only [trimEnd_cons, if_neg gone, ih]

theorem trim_trimEnd (chars : List Char) : trim (trimEnd chars) = trim chars := by
  rw [trim, trimStart_trimEnd, trimEnd_trimEnd, trim]

/-! ## Texts that trimming leaves alone -/

theorem trimEnd_of_visible {chars : List Char} (visible : ∀ char ∈ chars, isBlank char = false) :
    trimEnd chars = chars := by
  induction chars with
  | nil => rfl
  | cons char chars ih =>
      obtain ⟨first, later⟩ := List.forall_mem_cons.mp visible
      simp [trimEnd_cons, first, ih later]

theorem trimEnd_append_of_blank {rest : List Char} (blank : ∀ char ∈ rest, isBlank char = true)
    (front : List Char) : trimEnd (front ++ rest) = trimEnd front := by
  rw [trimEnd, List.reverse_append, List.dropWhile_append_of_pos (by simpa using blank), trimEnd]

theorem trimEnd_append {rest : List Char} (kept : trimEnd rest ≠ []) (front : List Char) :
    trimEnd (front ++ rest) = front ++ trimEnd rest := by
  induction front with
  | nil => rfl
  | cons first front ih => simp [trimEnd_cons, ih, kept]

/-- Parts without blanks and something between them: only what is between them can be blank. -/
theorem trim_intercalate {parts : List (List Char)} (filled : ∀ part ∈ parts, part ≠ [])
    (visible : ∀ part ∈ parts, ∀ char ∈ part, isBlank char = false) (separator : List Char) :
    trim (separator.intercalate parts) = separator.intercalate parts := by
  have atEnd : trimEnd (separator.intercalate parts) = separator.intercalate parts := by
    induction parts with
    | nil => rfl
    | cons part parts ih =>
        obtain ⟨visiblePart, visibleLater⟩ := List.forall_mem_cons.mp visible
        cases parts with
        | nil => simpa using trimEnd_of_visible visiblePart
        | cons next parts =>
            have rest := ih (List.forall_mem_cons.mp filled).2 visibleLater
            have kept : trimEnd (separator.intercalate (next :: parts)) ≠ [] := by
              rw [rest]
              cases parts <;> simp_all [List.intercalate_cons_cons]
            rw [List.intercalate_cons_cons, trimEnd_append kept, rest]
  have atStart : trimStart (separator.intercalate parts) = separator.intercalate parts := by
    rcases parts with _ | ⟨_ | ⟨char, part⟩, parts⟩
    · rfl
    · simp at filled
    · have first : isBlank char = false := by simp_all
      cases parts <;> simp [List.intercalate_cons_cons, trimStart_cons, first]
  rw [trim, atStart, atEnd]

theorem trim_of_visible {chars : List Char} (visible : ∀ char ∈ chars, isBlank char = false) :
    trim chars = chars := by
  rcases chars with _ | ⟨char, chars⟩
  · rfl
  · simpa using @trim_intercalate [char :: chars] (by simp) (by simpa using visible) []

/-! ## Words in trimmed texts -/

theorem infix_trimStart_iff {word : List Char} (visible : ∀ char ∈ word, isBlank char = false)
    (chars : List Char) : word <:+: trimStart chars ↔ word <:+: chars := by
  constructor
  · intro within
    exact within.trans (List.dropWhile_suffix isBlank).isInfix
  · intro within
    induction chars with
    | nil => exact within
    | cons char chars ih =>
        rw [trimStart_cons]
        split
        · next blank =>
            rcases List.infix_cons_iff.mp within with ⟨rest, starts⟩ | later
            -- A word that starts with a blank has no character.
            · cases word with
              | nil => exact List.nil_infix
              | cons first word =>
                  obtain rfl : first = char := (List.cons.inj starts).1
                  simp [visible first List.mem_cons_self] at blank
            · exact ih later
        · exact within

/-- A word without blanks occurs in a trimmed text just if it occurs in the text. -/
theorem infix_trim_iff {word : List Char} (visible : ∀ char ∈ word, isBlank char = false)
    (chars : List Char) : word <:+: trim chars ↔ word <:+: chars := by
  have backwards : ∀ char ∈ word.reverse, isBlank char = false := by
    simpa using visible
  calc word <:+: trim chars
      ↔ word.reverse <:+: trimStart (trimStart chars).reverse := by
        rw [← List.reverse_infix, trim, trimEnd, List.reverse_reverse]
        rfl
    _ ↔ word <:+: trimStart chars := by
        rw [infix_trimStart_iff backwards, List.reverse_infix]
    _ ↔ word <:+: chars := infix_trimStart_iff visible chars

end TrustGate.Text
