import TrustGate.Terminal.Area
import TrustGate.Terminal.Style
import TrustGate.Text.Width

/-!
# Canvases

A canvas is a grid of cells to draw on. Whatever is drawn outside of it is
lost. A terminal shows a canvas as it is, but for the cells that lie behind a
wide sign: they stay as they were on the empty screen.
-/

namespace TrustGate.Terminal

/-- A grid of cells, row by row. -/
structure Canvas where
  width : Nat
  height : Nat
  cells : Array Cell
deriving Repr

namespace Canvas

def blank (width height : Nat) : Canvas :=
  ⟨width, height, Array.replicate (width * height) {}⟩

def area (canvas : Canvas) : Area :=
  ⟨0, 0, canvas.width, canvas.height⟩

def modify (canvas : Canvas) (x y : Nat) (change : Cell → Cell) : Canvas :=
  if x < canvas.width ∧ y < canvas.height then
    { canvas with cells := canvas.cells.modify (y * canvas.width + x) change }
  else canvas

def modifyArea (canvas : Canvas) (area : Area) (change : Cell → Cell) : Canvas :=
  area.rows.foldl
    (fun canvas y => area.columns.foldl (fun canvas x => canvas.modify x y change) canvas) canvas

def restyle (canvas : Canvas) (area : Area) (style : Style) : Canvas :=
  canvas.modifyArea area (·.restyle style)

def clear (canvas : Canvas) (area : Area) : Canvas :=
  canvas.modifyArea area fun _ => {}

def put (canvas : Canvas) (x y : Nat) (symbol : List Char) (style : Style) : Canvas :=
  canvas.modify x y fun cell => { cell with symbol }.restyle style

def append (canvas : Canvas) (x y : Nat) (symbol : List Char) (style : Style) : Canvas :=
  canvas.modify x y fun cell => { cell with symbol := cell.symbol ++ symbol }.restyle style

def row (canvas : Canvas) (y : Nat) : List Cell :=
  (canvas.cells.extract (y * canvas.width) ((y + 1) * canvas.width)).toList

/-- How many cells after it a cell covers. A pictograph that was asked for by a selector covers
none, since terminals do not agree about its width. -/
def coveredCells (cell : Cell) : Nat :=
  if cell.symbol.contains '\ufe0f' then 0 else Text.width cell.symbol - 1

/-- What a terminal shows of the cells of a row, the first of which may be covered. -/
def visibleCells (covered : Bool) : List Cell → List Cell
  | [] => []
  | cell :: cells =>
      (if covered then {} else cell) :: visibleCells (coveredCells cell > 0) cells

def rows (canvas : Canvas) : List (List Cell) :=
  (List.range canvas.height).map fun y => visibleCells false (canvas.row y)

def text (canvas : Canvas) : List String :=
  canvas.rows.map fun cells => String.ofList (cells.flatMap Cell.symbol)

/-- Consecutive cells of equal style, each group by its length and its first cell. -/
def styleRuns : List Cell → List (Nat × Cell)
  | [] => []
  | cell :: cells =>
      match styleRuns cells with
      | (count, first) :: runs =>
          if cell.sameStyle first then (count + 1, cell) :: runs
          else (1, cell) :: (count, first) :: runs
      | [] => [(1, cell)]

end Canvas

end TrustGate.Terminal
