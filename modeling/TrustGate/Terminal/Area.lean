/-!
# Areas of a screen

Rectangles of cells, and how they are divided. Coordinates are absolute, with
the origin in the upper left corner.
-/

namespace TrustGate.Terminal

structure Area where
  x : Nat
  y : Nat
  width : Nat
  height : Nat
deriving Repr, DecidableEq

namespace Area

/-- The column right of an area. -/
def right (area : Area) : Nat :=
  area.x + area.width

/-- The row below an area. -/
def bottom (area : Area) : Nat :=
  area.y + area.height

def isEmpty (area : Area) : Bool :=
  area.width = 0 || area.height = 0

def intersect (first second : Area) : Area :=
  let x := max first.x second.x
  let y := max first.y second.y
  ⟨x, y, min first.right second.right - x, min first.bottom second.bottom - y⟩

/-- What an area holds inside a border one cell wide. -/
def inside (area : Area) : Area :=
  ⟨min (area.x + 1) area.right, min (area.y + 1) area.bottom, area.width - 2, area.height - 2⟩

def columns (area : Area) : List Nat :=
  List.range' area.x area.width

def rows (area : Area) : List Nat :=
  List.range' area.y area.height

/-- The sizes of a flexible part and of fixed parts after it. The flexible part gets its minimum
first; then the fixed parts are served in their order, and the flexible part takes what is left. -/
def divide (available minimum : Nat) (fixed : List Nat) : Nat × List Nat :=
  let rec serve (left : Nat) : List Nat → Nat × List Nat
    | [] => (left, [])
    | size :: sizes =>
        let given := min size left
        let (left, others) := serve (left - given) sizes
        (left, given :: others)
  let reserved := min minimum available
  let (left, sizes) := serve (available - reserved) fixed
  (reserved + left, sizes)

/-- Rows that start at a height, with some sizes. -/
def stack (area : Area) (y : Nat) : List Nat → List Area
  | [] => []
  | size :: sizes => { area with y, height := size } :: stack area (y + size) sizes

/-- A flexible part of an area, and rows of fixed height under it. -/
def splitBelow (area : Area) (minimum : Nat) (fixed : List Nat) : Area × List Area :=
  let (flexible, sizes) := divide area.height minimum fixed
  ({ area with height := flexible }, area.stack (area.y + flexible) sizes)

/-- A flexible part of an area, and a part of fixed width right of it. -/
def splitRight (area : Area) (width : Nat) : Area × Area :=
  let given := min width area.width
  ({ area with width := area.width - given },
    ⟨area.x + (area.width - given), area.y, given, area.height⟩)

/-- Where a part starts that is centred in a length; half a cell is rounded up. -/
def centredStart (length part : Nat) : Nat :=
  (length - part + 1) / 2

def centred (area : Area) (width height : Nat) : Area :=
  let width := min width area.width
  let height := min height area.height
  ⟨area.x + centredStart area.width width, area.y + centredStart area.height height, width, height⟩

end Area

end TrustGate.Terminal
