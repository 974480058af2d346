import TrustGate.Terminal.Style
import TrustGate.Text.Blank
import TrustGate.Text.Width

/-!
# Glyphs

Text on its way to a screen: spans of one style, lines of spans, and the glyphs
that they consist of. A glyph is a grapheme cluster with a style. Clusters with
control characters are not shown.
-/

namespace TrustGate.Terminal

structure Glyph where
  symbol : List Char
  style : Style := {}
deriving Repr, DecidableEq

def Glyph.width (glyph : Glyph) : Nat :=
  Text.clusterWidth glyph.symbol

/-- Whether lines may be broken at a glyph: it is blank, or a space without width, but not a space
that forbids it. -/
def Glyph.isBlank (glyph : Glyph) : Bool :=
  glyph.symbol = ['\u200b'] || (glyph.symbol.all Text.isBlank && glyph.symbol ≠ ['\u00a0'])

structure Span where
  text : String
  style : Style := {}
deriving Repr, DecidableEq

/-- The number of columns that are set aside for a span. -/
def Span.width (span : Span) : Nat :=
  Text.width span.text.toList

/-- Whether a character controls a terminal rather than being shown. -/
def isControl (char : Char) : Bool :=
  char.toNat < 0x20 || (0x7F ≤ char.toNat && char.toNat < 0xA0)

def Span.glyphs (span : Span) : List Glyph :=
  ((Text.clusters span.text.toList).filter fun cluster => !cluster.any isControl).map
    fun symbol => { symbol, style := span.style }

abbrev Line := List Span

def Line.glyphs (line : Line) : List Glyph :=
  line.flatMap Span.glyphs

/-- The lines of a text; each ends with a line feed, with or without a carriage return in front, and
the last may lack its end. -/
def textLines (text : String) : List String :=
  let withoutReturn (line : List Char) : List Char :=
    if line.getLast? = some '\r' then line.dropLast else line
  let rec lines : List Char → List Char → List (List Char)
    | [], [] => []
    | [], line => [line.reverse]
    | '\n' :: rest, line => withoutReturn line.reverse :: lines rest []
    | char :: rest, line => lines rest (char :: line)
  (lines text.toList []).map String.ofList

/-- A text as one line, in which its lines follow one another. -/
def Line.ofText (text : String) : Line :=
  (textLines text).map fun text => { text }

end TrustGate.Terminal
