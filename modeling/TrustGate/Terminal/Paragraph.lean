import TrustGate.Terminal.Canvas
import TrustGate.Terminal.Wrap

/-!
# Drawing text

Paragraphs, which fill an area with lines, and titles, which lie on a border.
-/

namespace TrustGate.Terminal

inductive Alignment
  | left
  | right
deriving Repr, DecidableEq

/-- How a paragraph deals with lines that are too long. -/
inductive Fitting
  | truncate
  /-- They are broken, with or without blanks at the start of a line. -/
  | wrap (trim : Bool)
deriving Repr, DecidableEq

namespace Canvas

/-- Draws glyphs from a column on; those without width are left out. -/
def drawGlyphs (canvas : Canvas) (x y : Nat) : List Glyph → Canvas
  | [] => canvas
  | glyph :: glyphs =>
      if glyph.width = 0 then canvas.drawGlyphs x y glyphs
      else (canvas.put x y glyph.symbol glyph.style).drawGlyphs (x + glyph.width) y glyphs

def drawLines (canvas : Canvas) (area : Area) (alignment : Alignment) :
    Nat → List (List Glyph) → Canvas
  | _, [] => canvas
  | y, line :: lines =>
      let indent := match alignment with
        | .left => 0
        | .right => area.width - glyphsWidth line
      (canvas.drawGlyphs (area.x + indent) y line).drawLines area alignment (y + 1) lines

/-- Draws a paragraph; lines that do not fit into the area are left out. -/
def paragraph (canvas : Canvas) (area : Area) (lines : List Line) (fitting : Fitting)
    (style : Style := {}) (alignment : Alignment := .left) : Canvas :=
  if area.isEmpty then canvas
  else
    let fitted := match fitting with
      | .truncate => lines.map fun line => truncateLine area.width (Line.glyphs line)
      | .wrap trim => lines.flatMap fun line => wrapLine area.width trim (Line.glyphs line)
    (canvas.restyle area style).drawLines area alignment area.y (fitted.take area.height)

/-! ## Titles -/

/-- Draws the glyphs of a span into the columns up to a limit. A glyph without width joins the cell
before it, and a wide one empties the cells that it covers. -/
def drawSpanFrom (canvas : Canvas) (start limit y : Nat) (isFirst : Bool) (x : Nat) :
    List Glyph → Canvas
  | [] => canvas
  | glyph :: glyphs =>
      let next := x + glyph.width
      if next > limit then canvas
      else
        let canvas :=
          if isFirst then canvas.put x y glyph.symbol glyph.style
          else if x = start then canvas.append x y glyph.symbol glyph.style
          else if glyph.width = 0 then canvas.append (x - 1) y glyph.symbol glyph.style
          else canvas.put x y glyph.symbol glyph.style
        let canvas := canvas.clear ⟨x + 1, y, glyph.width - 1, 1⟩
        drawSpanFrom canvas start limit y false next glyphs

def drawSpans (canvas : Canvas) (limit y : Nat) : Nat → List Span → Canvas
  | _, [] => canvas
  | x, span :: spans =>
      if x ≥ limit then canvas
      else
        let canvas := canvas.drawSpanFrom x limit y true x span.glyphs
        canvas.drawSpans limit y (x + span.width) spans

/-- The end of a text that takes at most some columns. -/
def textEnd (columns : Nat) (text : String) : String :=
  let rec keep (left : Nat) : List (List Char) → List (List Char) → List (List Char)
    | [], kept => kept
    | cluster :: clusters, kept =>
        if Text.clusterWidth cluster > left then kept
        else keep (left - Text.clusterWidth cluster) clusters (cluster :: kept)
  String.ofList (keep columns (Text.clusters text.toList).reverse []).flatten

/-- Spans without some columns at their start, and the columns to leave free in front of what is
left because a wide sign was cut. -/
def skipColumns : Nat → List Span → Nat × List Span
  | _, [] => (0, [])
  | skipped, span :: spans =>
      if skipped ≥ span.width then skipColumns (skipped - span.width) spans
      else if skipped = 0 then (0, span :: spans)
      else
        let available := span.width - skipped
        let text := textEnd available span.text
        (available - Text.width text.toList, { span with text } :: spans)

/-- Draws a line into one row of an area: all of it, or what fits if it is cut on the side to which
it is not aligned. -/
def title (canvas : Canvas) (area : Area) (line : Line) (alignment : Alignment) : Canvas :=
  let lineWidth := line.foldr (fun span width => span.width + width) 0
  if area.isEmpty || lineWidth = 0 then canvas
  else
    match alignment with
    | .left => canvas.drawSpans area.right area.y area.x line
    | .right =>
        if lineWidth ≤ area.width then
          canvas.drawSpans area.right area.y (area.right - lineWidth) line
        else
          let (offset, spans) := skipColumns (lineWidth - area.width) line
          canvas.drawSpans area.right area.y (area.x + offset) spans

/-! ## Borders -/

/-- Draws a border along the edges of an area. Where edges meet because the area is too small, the
upper left corner wins. -/
def border (canvas : Canvas) (area : Area) (style : Style) : Canvas :=
  if area.isEmpty then canvas
  else
    let left := area.x
    let right := area.right - 1
    let top := area.y
    let bottom := area.bottom - 1
    let rowOf (canvas : Canvas) (y : Nat) : Canvas :=
      area.columns.foldl (fun canvas x => canvas.put x y ['─'] style) canvas
    let columnOf (canvas : Canvas) (x : Nat) : Canvas :=
      area.rows.foldl (fun canvas y => canvas.put x y ['│'] style) canvas
    let canvas := rowOf (columnOf (rowOf (columnOf canvas left) top) right) bottom
    let canvas := canvas.put right bottom ['┘'] style
    let canvas := canvas.put right top ['┐'] style
    let canvas := canvas.put left bottom ['└'] style
    canvas.put left top ['┌'] style

/-- The part of the upper edge between the corners. -/
def upperEdge (area : Area) : Area :=
  ⟨area.x + 1, area.y, area.width - 2, 1⟩

/-- The part of the lower edge between the corners. -/
def lowerEdge (area : Area) : Area :=
  ⟨area.x + 1, area.bottom - 1, area.width - 2, 1⟩

/-- Draws a border with a title on its upper edge, and another at the right of its lower edge. -/
def framed (canvas : Canvas) (area : Area) (style : Style) (upper : Line) (lower : Line := []) :
    Canvas :=
  let area := area.intersect canvas.area
  if area.isEmpty then canvas
  else
    let canvas := canvas.border area style
    let canvas := canvas.title (upperEdge area) upper .left
    canvas.title (lowerEdge area) lower .right

end Canvas

end TrustGate.Terminal
