/-!
# Styles

Colours and emphasis of what is shown on a terminal. A style says only some of
it, so that it can be laid over what a cell has already.
-/

namespace TrustGate.Terminal

inductive Color
  /-- The colour that the terminal uses by itself. -/
  | reset
  | black
  | cyan
  | gray
  | darkGray
  | rgb (red green blue : UInt8)
deriving Repr, DecidableEq

/-- What a style says about a cell. -/
structure Style where
  foreground? : Option Color := none
  background? : Option Color := none
  bold : Bool := false
  underlined : Bool := false
deriving Repr, DecidableEq

structure Cell where
  symbol : List Char := [' ']
  foreground : Color := .reset
  background : Color := .reset
  bold : Bool := false
  underlined : Bool := false
deriving Repr, DecidableEq, Inhabited

def Cell.restyle (cell : Cell) (style : Style) : Cell :=
  { cell with
    foreground := style.foreground?.getD cell.foreground
    background := style.background?.getD cell.background
    bold := cell.bold || style.bold
    underlined := cell.underlined || style.underlined }

/-- Whether two cells look the same but for their symbols. -/
def Cell.sameStyle (first second : Cell) : Bool :=
  { first with symbol := second.symbol } = second

end TrustGate.Terminal
