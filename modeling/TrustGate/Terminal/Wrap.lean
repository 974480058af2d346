import TrustGate.Terminal.Glyph

/-!
# Breaking lines

A line that is too long for its room is broken between words, and within a word
only if the word alone is too long. The blanks at a break are dropped as far as
they fit on the line that ends there. With trimming, blanks are dropped at the
start of a line too.

Glyphs are taken one by one. The line under way consists of whole segments, each
the blanks between two words and the word after them; the last segment is still
open, with its blanks and its word apart.
-/

namespace TrustGate.Terminal

def glyphsWidth (glyphs : List Glyph) : Nat :=
  glyphs.foldr (fun glyph width => glyph.width + width) 0

/-- The state between two glyphs. -/
structure Wrapping where
  /-- The lines that are finished, in reverse order. -/
  finished : List (List Glyph) := []
  /-- The segments of the line under way. -/
  line : List Glyph := []
  blanks : List Glyph := []
  word : List Glyph := []
  /-- Whether the last glyph belongs to a word. -/
  inWord : Bool := false

namespace Wrapping

/-- Drops the blanks that fit into some room, and returns what is left. -/
def dropBlanks (room : Nat) : List Glyph → List Glyph
  | [] => []
  | glyph :: glyphs =>
      if glyph.width > room then glyph :: glyphs else dropBlanks (room - glyph.width) glyphs

/-- Closes the open segment. Blanks that would start a line are dropped if lines are trimmed. -/
def closeSegment (trim : Bool) (wrapping : Wrapping) : Wrapping :=
  let blanks := if wrapping.line.isEmpty && trim then [] else wrapping.blanks
  { wrapping with line := wrapping.line ++ blanks ++ wrapping.word, blanks := [], word := [] }

/-- Whether the open segment is closed before a glyph: a word has ended, or what the line would
start with is too long for it. -/
def closesBefore (limit : Nat) (trim : Bool) (wrapping : Wrapping) (glyph : Glyph) : Bool :=
  (wrapping.inWord && glyph.isBlank) ||
    (wrapping.line.isEmpty &&
      if trim then
        glyphsWidth wrapping.word + glyph.width > limit ||
          glyphsWidth wrapping.blanks + glyph.width > limit
      else
        glyphsWidth wrapping.word + glyphsWidth wrapping.blanks + glyph.width > limit)

/-- Whether the line under way is finished before a glyph: it is full, or the glyph would not fit
after the open segment. -/
def breaksBefore (limit : Nat) (wrapping : Wrapping) (glyph : Glyph) : Bool :=
  let lineWidth := glyphsWidth wrapping.line
  lineWidth ≥ limit ||
    (glyph.width > 0 &&
      lineWidth + glyphsWidth wrapping.blanks + glyphsWidth wrapping.word ≥ limit)

/-- Finishes the line under way, and drops the blanks that fit behind it. -/
def finishLine (limit : Nat) (wrapping : Wrapping) : Wrapping :=
  { wrapping with
    finished := wrapping.line :: wrapping.finished
    line := []
    blanks := dropBlanks (limit - glyphsWidth wrapping.line) wrapping.blanks }

def add (wrapping : Wrapping) (glyph : Glyph) : Wrapping :=
  if glyph.isBlank then
    { wrapping with blanks := wrapping.blanks ++ [glyph], inWord := false }
  else { wrapping with word := wrapping.word ++ [glyph], inWord := true }

/-- Takes a glyph. One that is wider than a line is left out, and so is a blank right after a break
at which no other blank is left. -/
def step (limit : Nat) (trim : Bool) (wrapping : Wrapping) (glyph : Glyph) : Wrapping :=
  if glyph.width > limit then wrapping
  else
    let wrapping :=
      if wrapping.closesBefore limit trim glyph then wrapping.closeSegment trim else wrapping
    if wrapping.breaksBefore limit glyph then
      let wrapping := wrapping.finishLine limit
      if glyph.isBlank && wrapping.blanks.isEmpty then wrapping else wrapping.add glyph
    else wrapping.add glyph

/-- The lines at the end of the glyphs. There is always one; blanks alone make an empty one. -/
def result (trim : Bool) (wrapping : Wrapping) : List (List Glyph) :=
  let finished :=
    if wrapping.line.isEmpty && wrapping.word.isEmpty && !wrapping.blanks.isEmpty then
      [] :: wrapping.finished
    else wrapping.finished
  let last := (wrapping.closeSegment trim).line
  let finished := if last.isEmpty then finished else last :: finished
  if finished.isEmpty then [[]] else finished.reverse

end Wrapping

def wrapLine (limit : Nat) (trim : Bool) (glyphs : List Glyph) : List (List Glyph) :=
  (glyphs.foldl (Wrapping.step limit trim) {}).result trim

/-- What of a line fits into some room. A glyph that is wider than all of it is left out. -/
def truncateLine (limit : Nat) (glyphs : List Glyph) : List Glyph :=
  let rec take (room : Nat) : List Glyph → List Glyph
    | [] => []
    | glyph :: glyphs =>
        if glyph.width > limit then take room glyphs
        else if glyph.width > room then []
        else glyph :: take (room - glyph.width) glyphs
  take limit glyphs

end TrustGate.Terminal
