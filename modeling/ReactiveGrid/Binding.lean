import ReactiveGrid.Formula
import ReactiveGrid.Grid
import ReactiveGrid.Text.Blank

/-!
# Formulas over a grid

A name of a formula that is also the name of a cell takes the number that the cell shows, if it
shows one. The other names keep what they have, and count as zero if they have nothing.
-/

namespace ReactiveGrid

namespace Grid

def number? (g : Grid) (name : String) : Option Float :=
  (g.cellByName? name).bind fun c => Decimal.read? (Text.trim c.value.toList)

/-- The names of a formula that take a number from the grid, each with its number. -/
def bindings (g : Grid) (f : Formula) : List (String × Float) :=
  f.names.filterMap fun name => (g.number? name).map (name, ·)

def bind (g : Grid) (f : Formula) : Formula :=
  (g.bindings f).foldl (fun f p => f.set p.1 p.2) f

def bindEvents (g : Grid) (f : Formula) : List Event :=
  (g.bindings f).map fun p => .bound p.1 p.2

/-- The value of the formula that a text writes, with numbers taken from the grid. -/
def evaluateText (g : Grid) (text : String) : Except Expr.Fault Float :=
  (Formula.parse text).bind fun f => (g.bind f).eval

end Grid

end ReactiveGrid
