import Mathlib.Algebra.Ring.Parity
import Mathlib.Data.List.Induction
import TrustGate.Proofs.DistinguishedName.Grammar
import TrustGate.Proofs.Utf8

/-!
# Splitting and unescaping lose nothing

Pieces are cut at the commas that no backslash escapes, and nothing but these commas
is lost: the pieces joined by commas are the text again, and since no piece but the
last ends in a backslash that escapes something, escapes can be taken away before the
text is joined or after.

Whether a character is escaped is told here by the run of backslashes in front of it,
which escapes what follows just if its length is odd. A pass over the text does not
count backslashes; it keeps a flag, and `foldl_escapes_iff` says that the flag is right
wherever the pass is.

A pass over bytes cuts at positions. `spans` is this pass, and each span that it finds
is that of a piece (`Occupies`), so it begins and ends between two characters.
-/

namespace TrustGate.DistinguishedName

open Text

/-! ## Runs of backslashes -/

/-- The number of backslashes at the end of a text. -/
def trailingBackslashes (chars : List Char) : ℕ :=
  (chars.reverse.takeWhile (· == '\\')).length

/-- The backslashes at the end of a text pair up but for the last one, which escapes what
follows. -/
def EndsEscaping (chars : List Char) : Prop :=
  Odd (trailingBackslashes chars)

/-- Every comma of a text is escaped within the text. -/
def CommasEscaped (chars : List Char) : Prop :=
  ∀ front rest, chars = front ++ ',' :: rest → EndsEscaping front

/-- Whether a character escapes the next one, which it does not if it is escaped itself. -/
def escapes (escaped : Bool) (char : Char) : Bool :=
  char = '\\' && !escaped

theorem not_endsEscaping_nil : ¬EndsEscaping [] := by
  simp [EndsEscaping, trailingBackslashes]

theorem endsEscaping_concat (front : List Char) (char : Char) :
    EndsEscaping (front ++ [char]) ↔ char = '\\' ∧ ¬EndsEscaping front := by
  by_cases marked : char = '\\'
  · simp [EndsEscaping, trailingBackslashes, marked, Nat.odd_add_one]
  · simp [EndsEscaping, trailingBackslashes, marked]

/-- The flag of a pass over a text tells whether its last run of backslashes is odd. -/
theorem foldl_escapes_iff (chars : List Char) :
    chars.foldl escapes false = true ↔ EndsEscaping chars := by
  induction chars using List.reverseRecOn with
  | nil => simp [not_endsEscaping_nil]
  | append_singleton front char ih =>
      rw [endsEscaping_concat, ← ih, List.foldl_append]
      simp [escapes]

theorem Closed.foldl_escapes {chars : List Char} (closed : Closed chars) :
    chars.foldl escapes false = false := by
  induction closed with
  | nil => rfl
  | plain undivided _ ih => simpa [escapes, undivided.2] using ih
  | escaped char _ ih => simpa [escapes] using ih

theorem Closed.not_endsEscaping {chars : List Char} (closed : Closed chars) :
    ¬EndsEscaping chars := by
  rw [← foldl_escapes_iff, closed.foldl_escapes]
  simp

/-- A closed text in front has no part in what the text ends with. -/
theorem Closed.endsEscaping_append {front : List Char} (closed : Closed front)
    (rest : List Char) : EndsEscaping (front ++ rest) ↔ EndsEscaping rest := by
  rw [← foldl_escapes_iff, ← foldl_escapes_iff, List.foldl_append, closed.foldl_escapes]

theorem Closed.commasEscaped {chars : List Char} (closed : Closed chars) :
    CommasEscaped chars := by
  induction closed with
  | nil =>
      intro front rest cut
      simp at cut
  | @plain char later undivided _ ih =>
      intro front rest cut
      rcases front with _ | ⟨first, front⟩
      · exact absurd (List.cons.inj cut).1 undivided.1
      · obtain ⟨rfl, inside⟩ := List.cons.inj cut
        have alone : Closed [char] := .plain undivided .nil
        apply (alone.endsEscaping_append front).mpr
        exact ih front rest inside
  | @escaped char later _ ih =>
      intro front rest cut
      rcases front with _ | ⟨first, _ | ⟨second, front⟩⟩
      · simp at cut
      · obtain ⟨rfl, -⟩ := List.cons.inj cut
        exact (endsEscaping_concat [] '\\').mpr ⟨rfl, not_endsEscaping_nil⟩
      · obtain ⟨rfl, within⟩ := List.cons.inj cut
        obtain ⟨rfl, inside⟩ := List.cons.inj within
        have pair : Closed ['\\', char] := .escaped char .nil
        apply (pair.endsEscaping_append front).mpr
        exact ih front rest inside

theorem CommasEscaped.concat {chars : List Char} (escaped : CommasEscaped chars) {char : Char}
    (other : char ≠ ',') : CommasEscaped (chars ++ [char]) := by
  intro front rest cut
  rcases List.eq_nil_or_concat rest with rfl | ⟨before, last, rfl⟩
  · have same := List.append_inj_right' cut rfl
    exact absurd (List.cons.inj same).1 other
  · apply escaped front before
    rw [List.concat_eq_append, ← List.cons_append, ← List.append_assoc] at cut
    exact List.append_inj_left' cut rfl

/-! ## Pieces put together -/

theorem Division.ne_nil {chars : List Char} {pieces : List (List Char)}
    (division : Division chars pieces) : pieces ≠ [] := by
  cases division <;> simp

theorem Division.intercalate_eq {chars : List Char} {pieces : List (List Char)}
    (division : Division chars pieces) : [','].intercalate pieces = chars := by
  induction division with
  | last => simp
  | dangling => simp
  | cut _ later ih => simp [List.intercalate_cons_of_ne_nil later.ne_nil, ih]

theorem Division.commasEscaped {chars : List Char} {pieces : List (List Char)}
    (division : Division chars pieces) : ∀ piece ∈ pieces, CommasEscaped piece := by
  induction division with
  | last closed => simpa using closed.commasEscaped
  | dangling closed => simpa using closed.commasEscaped.concat (by decide)
  | cut closed _ ih => exact List.forall_mem_cons.mpr ⟨closed.commasEscaped, ih⟩

theorem Division.not_endsEscaping {chars : List Char} {pieces : List (List Char)}
    (division : Division chars pieces) : ∀ piece ∈ pieces.dropLast, ¬EndsEscaping piece := by
  induction division with
  | last => simp
  | dangling => simp
  | cut closed later ih =>
      rw [List.dropLast_cons_of_ne_nil later.ne_nil]
      exact List.forall_mem_cons.mpr ⟨closed.not_endsEscaping, ih⟩

/-- A text whose commas are all escaped is one piece. -/
theorem CommasEscaped.division {piece : List Char} (escaped : CommasEscaped piece) :
    Division piece [piece] := by
  obtain ⟨pieces, division⟩ := exists_division piece
  cases division with
  | last closed => exact .last closed
  | dangling closed => exact .dangling closed
  | cut closed _ => exact absurd (escaped _ _ rfl) closed.not_endsEscaping

theorem CommasEscaped.closed {piece : List Char} (escaped : CommasEscaped piece)
    (ended : ¬EndsEscaping piece) : Closed piece := by
  have division := escaped.division
  generalize whole : [piece] = pieces at division
  cases division with
  | last closed => exact closed
  | @dangling front closed =>
      have dangles : EndsEscaping (front ++ ['\\']) :=
        (endsEscaping_concat front '\\').mpr ⟨rfl, closed.not_endsEscaping⟩
      exact absurd dangles ended
  | cut _ later =>
      obtain ⟨-, none⟩ := List.cons.inj whole
      exact absurd none.symm later.ne_nil

/-- Pieces without unescaped commas, only the last of which may end escaping, are those of what
they are joined to. -/
theorem division_intercalate {pieces : List (List Char)} (filled : pieces ≠ [])
    (escaped : ∀ piece ∈ pieces, CommasEscaped piece)
    (ended : ∀ piece ∈ pieces.dropLast, ¬EndsEscaping piece) :
    Division ([','].intercalate pieces) pieces := by
  induction pieces with
  | nil => exact absurd rfl filled
  | cons piece pieces ih =>
      obtain ⟨first, others⟩ := List.forall_mem_cons.mp escaped
      rcases pieces with _ | ⟨next, pieces⟩
      · simpa using first.division
      · rw [List.dropLast_cons_of_ne_nil (List.cons_ne_nil next pieces)] at ended
        obtain ⟨endsFirst, endsOthers⟩ := List.forall_mem_cons.mp ended
        have later := ih (List.cons_ne_nil next pieces) others endsOthers
        simpa [List.intercalate_cons_cons] using Division.cut (first.closed endsFirst) later

/-- The pieces of a text are told by what they are joined to, and by where they are not cut. -/
theorem splitUnescaped_eq_iff {chars : List Char} {pieces : List (List Char)} :
    splitUnescaped chars = pieces ↔
      pieces ≠ [] ∧ [','].intercalate pieces = chars ∧ (∀ piece ∈ pieces, CommasEscaped piece) ∧
        ∀ piece ∈ pieces.dropLast, ¬EndsEscaping piece := by
  constructor
  · rintro rfl
    have division := division_splitUnescaped chars
    exact ⟨division.ne_nil, division.intercalate_eq, division.commasEscaped,
      division.not_endsEscaping⟩
  · rintro ⟨filled, rfl, escaped, ended⟩
    exact (division_intercalate filled escaped ended).splitUnescaped_eq

/-! ## Escapes taken away piece by piece -/

theorem unescape_append {front : List Char} (closed : Closed front) (rest : List Char) :
    unescape (front ++ rest) = unescape front ++ unescape rest := by
  induction closed with
  | nil => rfl
  | plain undivided _ ih =>
      rw [List.cons_append, unescape_cons undivided.2, unescape_cons undivided.2, ih]
      rfl
  | escaped char _ ih => simp [unescape, ih]

theorem Division.unescape_eq {chars : List Char} {pieces : List (List Char)}
    (division : Division chars pieces) :
    unescape chars = [','].intercalate (pieces.map unescape) := by
  induction division with
  | last => simp
  | dangling => simp
  | cut closed later ih =>
      have others : List.map unescape _ ≠ [] := List.map_eq_nil_iff.not.mpr later.ne_nil
      have comma : ',' ≠ '\\' := by decide
      rw [unescape_append closed, unescape_cons comma, ih, List.map_cons,
        List.intercalate_cons_of_ne_nil others, List.append_assoc]
      rfl

/-! ## Positions -/

/-- The number of bytes that a text takes up. -/
def byteLength (chars : List Char) : ℕ :=
  (Utf8.encode chars).length

theorem byteLength_append (front rest : List Char) :
    byteLength (front ++ rest) = byteLength front + byteLength rest := by
  rw [byteLength, Utf8.encode_append, List.length_append]
  rfl

theorem byteLength_singleton (char : Char) : byteLength [char] = char.utf8Size := by
  simp [byteLength, Utf8.encode]

/-- The spans of bytes between the unescaped commas, in a pass that is at `position` and has begun
the present span at `start`. The next span begins one byte after a comma. -/
def spansFrom (escaped : Bool) (start position : ℕ) : List Char → List (ℕ × ℕ)
  | [] => [(start, position)]
  | char :: rest =>
      if char = ',' ∧ escaped = false then
        (start, position) :: spansFrom false (position + 1) (position + char.utf8Size) rest
      else spansFrom (escapes escaped char) start (position + char.utf8Size) rest

def spans (chars : List Char) : List (ℕ × ℕ) :=
  spansFrom false 0 0 chars

/-- The bytes of a span are those of a piece, which stands there between what comes before and what
comes after it. -/
def Occupies (chars : List Char) (span : ℕ × ℕ) (piece : List Char) : Prop :=
  ∃ before after, chars = before ++ piece ++ after ∧
    span = (byteLength before, byteLength (before ++ piece))

/-- A pass that has read some pieces and begun another finds the rest of this one, and the pieces
that come later. -/
theorem forall₂_spansFrom (before piece rest : List Char) (escaped : Bool) :
    List.Forall₂ (Occupies (before ++ piece ++ rest))
      (spansFrom escaped (byteLength before) (byteLength (before ++ piece)) rest)
      ((splitFrom escaped rest).modifyHead (piece ++ ·)) := by
  induction rest generalizing before piece escaped with
  | nil =>
      have occupied : Occupies (before ++ piece ++ []) _ piece := ⟨before, [], rfl, rfl⟩
      simpa [spansFrom, splitFrom] using occupied
  | cons char rest ih =>
      by_cases cut : char = ',' ∧ escaped = false
      · obtain ⟨rfl, rfl⟩ := cut
        -- The next piece begins right after the comma, which is one byte long.
        have begun := ih (before ++ piece ++ [',']) [] false
        have comma : byteLength (before ++ piece ++ [',']) = byteLength (before ++ piece) + 1 := by
          rw [byteLength_append, byteLength_singleton]
          rfl
        have single : Char.utf8Size ',' = 1 := rfl
        rw [List.append_nil, comma, modifyHead_nil_append, List.append_assoc _ [','] rest] at begun
        have occupied : Occupies (before ++ piece ++ ',' :: rest) _ piece :=
          ⟨before, ',' :: rest, rfl, rfl⟩
        simpa [spansFrom, splitFrom, single] using List.Forall₂.cons occupied begun
      · have goesOn := ih before (piece ++ [char]) (escapes escaped char)
        have next : byteLength (before ++ (piece ++ [char])) =
            byteLength (before ++ piece) + char.utf8Size := by
          rw [← List.append_assoc, byteLength_append, byteLength_singleton]
        rw [next] at goesOn
        rw [splitFrom_cons cut, List.modifyHead_modifyHead]
        simpa [spansFrom, cut, escapes, Function.comp_def] using goesOn

theorem forall₂_spans (chars : List Char) :
    List.Forall₂ (Occupies chars) (spans chars) (splitUnescaped chars) := by
  have found := forall₂_spansFrom [] [] chars false
  rw [modifyHead_nil_append] at found
  exact found

/-! ## Escaped values -/

theorem trimStart_escapeValue (chars : List Char) :
    trimStart (escapeValue chars) = escapeValue (trimStart chars) := by
  induction chars with
  | nil => rfl
  | cons char chars ih =>
      by_cases separator : isSeparator char
      · have visible := isBlank_of_isSeparator separator
        have marked : isBlank '\\' = false := rfl
        simp [escapeValue_cons, trimStart_cons, separator, visible, marked]
      · by_cases blank : isBlank char
        · simpa [escapeValue_cons, trimStart_cons, separator, blank] using ih
        · simp [escapeValue_cons, trimStart_cons, separator, blank]

theorem trimEnd_escapeValue (chars : List Char) :
    trimEnd (escapeValue chars) = escapeValue (trimEnd chars) := by
  induction chars with
  | nil => rfl
  | cons char chars ih =>
      have empty := (spells_escapeValue (trimEnd chars)).eq_nil_iff
      by_cases separator : isSeparator char
      · have visible := isBlank_of_isSeparator separator
        have marked : isBlank '\\' = false := rfl
        simp [escapeValue_cons, trimEnd_cons, separator, visible, marked, ih]
      · by_cases gone : isBlank char = true ∧ trimEnd chars = []
        · have nothing : escapeValue [] = [] := rfl
          simp [escapeValue_cons, trimEnd_cons, separator, ih, gone, nothing]
        · have kept : ¬(isBlank char = true ∧ escapeValue (trimEnd chars) = []) := by
            rwa [← empty]
          simp only [escapeValue_cons, trimEnd_cons, separator, ih, if_neg gone, if_neg kept,
            Bool.false_eq_true, if_false]

theorem trim_escapeValue (chars : List Char) :
    trim (escapeValue chars) = escapeValue (trim chars) := by
  rw [trim, trimStart_escapeValue, trimEnd_escapeValue, trim]

/-! ## Nothing is lost -/

/-- Splitting gives the pieces that joined by commas are the text again, in which every comma is
escaped, and of which only the last may end in a backslash that escapes. A pass over the bytes finds
each of them between two characters. Without escapes the text is its pieces without escapes, joined
by commas. An escaped value is one piece, which says the value, and is trimmed as the value is. -/
theorem splitting_and_unescaping_lossless (chars : List Char) :
    (∀ pieces, splitUnescaped chars = pieces ↔
      pieces ≠ [] ∧ [','].intercalate pieces = chars ∧ (∀ piece ∈ pieces, CommasEscaped piece) ∧
        ∀ piece ∈ pieces.dropLast, ¬EndsEscaping piece) ∧
    List.Forall₂ (Occupies chars) (spans chars) (splitUnescaped chars) ∧
    unescape chars = [','].intercalate ((splitUnescaped chars).map unescape) ∧
    unescape (escapeValue chars) = chars ∧
    splitUnescaped (escapeValue chars) = [escapeValue chars] ∧
    trim (escapeValue chars) = escapeValue (trim chars) := by
  refine ⟨?pieces, ?positions, ?unescaped, ?restored, ?undivided, ?trimmed⟩
  case pieces => exact fun pieces => splitUnescaped_eq_iff
  case positions => exact forall₂_spans chars
  case unescaped => exact (division_splitUnescaped chars).unescape_eq
  case restored => exact (spells_escapeValue chars).unescape_eq
  case undivided => exact splitUnescaped_of_closed (closed_escapeValue chars)
  case trimmed => exact trim_escapeValue chars

end TrustGate.DistinguishedName
