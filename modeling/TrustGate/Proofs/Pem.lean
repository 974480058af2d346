import TrustGate.Bytes.Pem
import TrustGate.Proofs.Base64
import TrustGate.Proofs.Blank
import TrustGate.Proofs.Utf8

/-!
# Reading PEM blocks that were written

A layout is a way to write bytes as a block of a file: how the Base64 text is cut into
lines, which of the two line ends each line has, which label the block bears, and what
stands in front of it and behind it. Whatever the layout, the bytes are read back. A
line feed is a byte of no other character, so the lines of the file are the lines that
were written; and a line of Base64 has no dash, so none of them is taken for the end of
the block.
-/

namespace TrustGate.Pem

open Text

/-! ## Lines -/

theorem lines_append_lineFeed {line : Bytes} (unbroken : 0x0A ∉ line) (rest : Bytes) :
    lines (line ++ 0x0A :: rest) = (line ++ [0x0A]) :: lines rest := by
  induction line with
  | nil => simp [lines]
  | cons byte line ih =>
      have first : byte ≠ 0x0A := (List.ne_of_not_mem_cons unbroken).symm
      simp [lines, first, ih (List.not_mem_of_not_mem_cons unbroken)]

theorem lines_of_unbroken {line : Bytes} (filled : line ≠ []) (unbroken : 0x0A ∉ line) :
    lines line = [line] := by
  induction line with
  | nil => exact absurd rfl filled
  | cons byte line ih =>
      have first : byte ≠ 0x0A := (List.ne_of_not_mem_cons unbroken).symm
      cases line with
      | nil => simp [lines, first]
      | cons next line =>
          rw [lines, if_neg first, ih (by simp) (List.not_mem_of_not_mem_cons unbroken)]

inductive LineEnd
  | lf
  | crlf
deriving Repr, DecidableEq

def LineEnd.chars : LineEnd → List Char
  | lf => ['\n']
  | crlf => ['\r', '\n']

theorem LineEnd.isBlank_of_mem {lineEnd : LineEnd} :
    ∀ char ∈ lineEnd.chars, isBlank char = true := by
  cases lineEnd <;> simp [LineEnd.chars, isBlank]

/-- A line of text, with the end it has in a file. -/
structure Line where
  text : List Char
  lineEnd : LineEnd := .lf
  unbroken : '\n' ∉ text

namespace Line

def chars (line : Line) : List Char :=
  line.text ++ line.lineEnd.chars

def bytes (line : Line) : Bytes :=
  Utf8.encode line.chars

theorem lineText_bytes (line : Line) : lineText line.bytes = .ok line.chars := by
  rw [lineText, bytes, Utf8.decode?_encode]

theorem trimEnd_chars {line : Line} (visible : ∀ char ∈ line.text, isBlank char = false) :
    trimEnd line.chars = line.text := by
  rw [chars, trimEnd_append_of_blank LineEnd.isBlank_of_mem, trimEnd_of_visible visible]

theorem not_closes {line : Line} (dashless : '-' ∉ line.text) : ¬closingMark <+: line.chars := by
  intro closes
  rcases List.mem_append.mp (closes.subset (show '-' ∈ closingMark by decide)) with inside | atEnd
  · exact dashless inside
  · exact absurd (LineEnd.isBlank_of_mem _ atEnd) (by decide)

theorem exists_lineFeed_last (line : Line) :
    ∃ front, line.bytes = front ++ [0x0A] ∧ 0x0A ∉ front := by
  rcases line with ⟨text, _ | _, unbroken⟩
  · exact ⟨Utf8.encode text, Utf8.encode_append .., Utf8.lineFeed_notMem_encode unbroken⟩
  · refine ⟨Utf8.encode (text ++ ['\r']), ?_, Utf8.lineFeed_notMem_encode (by simpa using unbroken)⟩
    rw [bytes, chars, LineEnd.chars, ← List.singleton_append, ← List.append_assoc,
      Utf8.encode_append]
    rfl

/-- A line written in front of a file is its first line. -/
theorem lines_bytes_append (line : Line) (rest : Bytes) :
    lines (line.bytes ++ rest) = line.bytes :: lines rest := by
  obtain ⟨front, last, unbroken⟩ := line.exists_lineFeed_last
  rw [last, List.append_assoc, List.singleton_append, lines_append_lineFeed unbroken]

theorem lines_flatMap_bytes_append (written : List Line) (rest : Bytes) :
    lines (written.flatMap bytes ++ rest) = written.map bytes ++ lines rest := by
  induction written with
  | nil => rfl
  | cons line written ih =>
      rw [List.flatMap_cons, List.append_assoc, lines_bytes_append, ih, List.map_cons,
        List.cons_append]

end Line

/-! ## Layouts -/

/-- A way to write bytes as the first block of a file. -/
structure Layout (contents : Bytes) where
  /-- What stands in front of the block, none of which opens one. -/
  front : List Line := []
  label : List Char
  openingEnd : LineEnd := .lf
  /-- The lines over which the Base64 text is spread. -/
  body : List Line
  /-- What follows the closing line, unless that is the last one and has no end. -/
  rest? : Option (LineEnd × Bytes) := none
  skipped : ∀ line ∈ front, ¬openingMark <+: line.chars
  unbroken : '\n' ∉ label
  whole : body.flatMap Line.text = Base64.encode contents

namespace Layout

variable {contents : Bytes} (layout : Layout contents)

def opening : Line where
  text := openingMark ++ layout.label ++ dashes
  lineEnd := layout.openingEnd
  unbroken := by
    have outside : '\n' ∉ openingMark ∧ '\n' ∉ dashes := by decide
    simp [outside, layout.unbroken]

def closing : List Char :=
  closingMark ++ layout.label ++ dashes

/-- The closing line and what follows it. -/
def ending : Bytes :=
  Utf8.encode layout.closing ++
    match layout.rest? with
    | none => []
    | some (lineEnd, rest) => Utf8.encode lineEnd.chars ++ rest

/-- The file with the block. -/
def file : Bytes :=
  (layout.front ++ layout.opening :: layout.body).flatMap Line.bytes ++ layout.ending

/-- All of the text on one line, and nothing in front. -/
def plain (contents : Bytes) : Layout contents where
  label := "CERTIFICATE".toList
  body := [{ text := Base64.encode contents, unbroken := Base64.lineFeed_notMem_encode contents }]
  rest? := some (.lf, [])
  skipped := by simp
  unbroken := by decide
  whole := by simp

theorem closing_closes : closingMark <+: layout.closing := by
  rw [closing, List.append_assoc]
  exact List.prefix_append ..

theorem exists_lines_ending : ∃ line later chars,
    lines layout.ending = line :: later ∧ lineText line = .ok chars ∧ closingMark <+: chars := by
  have unbroken : '\n' ∉ layout.closing := by
    have outside : '\n' ∉ closingMark ∧ '\n' ∉ dashes := by decide
    simp [closing, outside, layout.unbroken]
  unfold ending
  rcases layout.rest? with _ | ⟨lineEnd, rest⟩
  · have filled : Utf8.encode layout.closing ≠ [] := by
      rw [closing, List.append_assoc, Utf8.encode_append]
      exact List.append_ne_nil_of_left_ne_nil (by decide) _
    refine ⟨Utf8.encode layout.closing, [], layout.closing, ?_, ?_, layout.closing_closes⟩
    · simpa using lines_of_unbroken filled (Utf8.lineFeed_notMem_encode unbroken)
    · rw [lineText, Utf8.decode?_encode]
  · let line : Line := ⟨layout.closing, lineEnd, unbroken⟩
    refine ⟨line.bytes, lines rest, line.chars, ?_, line.lineText_bytes, ?_⟩
    · rw [← line.lines_bytes_append, Line.bytes, Line.chars, Utf8.encode_append, List.append_assoc]
    · exact layout.closing_closes.trans (List.prefix_append ..)

end Layout

/-! ## Reading the lines of a block -/

theorem occursIn_iff (needle chars : List Char) :
    occursIn needle chars = true ↔ needle <:+: chars := by
  induction chars with
  | nil => simp [occursIn]
  | cons char chars ih => simp [occursIn, ih, List.infix_cons_iff]

section Reading

variable {line : Bytes} {chars : List Char} (text : lineText line = .ok chars)
include text

theorem readBody_cons_of_closes (closes : closingMark <+: chars) (later : List Bytes) :
    readBody (line :: later) = .ok [] := by
  simp [readBody, text, closes, Bind.bind, Except.bind, Pure.pure, Except.pure]

theorem readBody_cons_of_not_closes (within : ¬closingMark <+: chars) {later : List Bytes}
    {body : List Char} (read : readBody later = .ok body) :
    readBody (line :: later) = .ok (trimEnd chars ++ body) := by
  simp [readBody, text, within, read, Bind.bind, Except.bind, Pure.pure, Except.pure]

theorem readBlock_cons_of_opens (opens : openingMark <+: chars)
    (marked : dashes <:+: chars.drop openingMark.length) (later : List Bytes) :
    readBlock (line :: later) = readBody later := by
  simp [readBlock, text, opens, (occursIn_iff _ _).mpr marked, Bind.bind, Except.bind]

theorem readBlock_cons_of_not_opens (skip : ¬openingMark <+: chars) (later : List Bytes) :
    readBlock (line :: later) = readBlock later := by
  simp [readBlock, text, skip, Bind.bind, Except.bind]

end Reading

theorem readBlock_of_skipped {front : List Line}
    (skipped : ∀ line ∈ front, ¬openingMark <+: line.chars) (later : List Bytes) :
    readBlock (front.map Line.bytes ++ later) = readBlock later := by
  induction front with
  | nil => rfl
  | cons first front ih =>
      obtain ⟨skip, rest⟩ := List.forall_mem_cons.mp skipped
      rw [List.map_cons, List.cons_append, readBlock_cons_of_not_opens first.lineText_bytes skip,
        ih rest]

/-- Lines of visible characters without a dash are joined, up to the closing line. -/
theorem readBody_of_closed {line : Bytes} {chars : List Char} (text : lineText line = .ok chars)
    (closes : closingMark <+: chars) (later : List Bytes) {body : List Line}
    (visible : ∀ line ∈ body, ∀ char ∈ line.text, isBlank char = false)
    (dashless : ∀ line ∈ body, '-' ∉ line.text) :
    readBody (body.map Line.bytes ++ line :: later) = .ok (body.flatMap Line.text) := by
  induction body with
  | nil => exact readBody_cons_of_closes text closes later
  | cons first body ih =>
      obtain ⟨visibleFirst, visibleRest⟩ := List.forall_mem_cons.mp visible
      obtain ⟨dashlessFirst, dashlessRest⟩ := List.forall_mem_cons.mp dashless
      have rest := ih visibleRest dashlessRest
      rw [List.map_cons, List.cons_append, List.flatMap_cons,
        readBody_cons_of_not_closes first.lineText_bytes (Line.not_closes dashlessFirst) rest,
        Line.trimEnd_chars visibleFirst]

namespace Layout

variable {contents : Bytes} (layout : Layout contents)

theorem readBlock_opening (later : List Bytes) :
    readBlock (layout.opening.bytes :: later) = readBody later := by
  have chars : layout.opening.chars =
      openingMark ++ (layout.label ++ dashes ++ layout.openingEnd.chars) := by
    simp [Line.chars, opening]
  apply readBlock_cons_of_opens layout.opening.lineText_bytes
  · exact chars ▸ List.prefix_append ..
  · rw [chars, List.drop_left]
    exact List.infix_append ..

theorem mem_encode {line : Line} (mem : line ∈ layout.body) {char : Char}
    (inside : char ∈ line.text) : char ∈ Base64.encode contents :=
  layout.whole ▸ List.mem_flatMap.mpr ⟨line, mem, inside⟩

theorem readBlock_lines_file : readBlock (lines layout.file) = .ok (Base64.encode contents) := by
  obtain ⟨line, later, chars, last, text, closes⟩ := layout.exists_lines_ending
  rw [file, Line.lines_flatMap_bytes_append, List.map_append, List.append_assoc,
    readBlock_of_skipped layout.skipped, List.map_cons, List.cons_append, readBlock_opening, last,
    ← layout.whole]
  apply readBody_of_closed text closes later
  · exact fun _ mem _ inside => Base64.isBlank_of_mem_encode _ _ (layout.mem_encode mem inside)
  · exact fun _ mem inside => Base64.dash_notMem_encode _ (layout.mem_encode mem inside)

/-- The bytes are read back, however they are laid out. -/
theorem decode_file : decode layout.file = .ok contents := by
  simp [decode, layout.readBlock_lines_file, Base64.decode?_encode, Bind.bind, Except.bind,
    Pure.pure, Except.pure]

end Layout

end TrustGate.Pem
