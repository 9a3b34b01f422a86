import ReactiveGrid.Dependency.Cycles
import ReactiveGrid.Dependency.Walk
import ReactiveGrid.Grid

/-!
# Recalculation

A text that is no formula is its own value. A formula that refers to a cell of the grid shows that
cell's value, unless it lies on a cycle; every other formula shows its raw text. When a text has been
entered, first the links of its cell are renewed, then its value, and then the values of its readers,
each of which is told first that what it reads has changed.
-/

namespace ReactiveGrid

namespace Grid

/-- The value that the text of a cell stands for, where the given cells lie on cycles, and what
happens on the way. -/
def evaluate (g : Grid) (cyclic : Std.ExtTreeSet Address) (a : Address) : String × List Event :=
  let text := g.text a
  match formula? text with
  | none => (text, [])
  | some name =>
    match g.shape.resolve? name with
    | none => (text, [.unresolved a text])
    | some target => if a ∈ cyclic then (text, [.circular a text]) else (g.value target, [])

def rebind (g : Grid) (a : Address) : Grid :=
  let target := g.shape.target? (g.text a)
  let cleared := g.graph.clear a
  let graph := match target with
    | some t => cleared.link t a
    | none => cleared
  { g.modify a ({ · with reference := target }) with graph := graph }

/-- The cells whose values follow from that of a changed cell, in the order in which they are
recalculated. -/
def readers (g : Grid) (changed : Address) : List Address :=
  match g.propagation with
  | .transitive => g.graph.recalculationOrder changed
  | .singleHop => (g.graph.dependents changed).filter (· ≠ changed)

end Grid

namespace Update

def recompute (u : Update) (cyclic : Std.ExtTreeSet Address) (a : Address) : Update :=
  let (value, events) := u.grid.evaluate cyclic a
  let u := (events.foldl push u).push (.recomputed a value)
  (u.modify a ({ · with value := value })).notify a .value

def refresh (u : Update) (cyclic : Std.ExtTreeSet Address) (a : Address) : Update :=
  (u.notify a .text).recompute cyclic a

def recalculate (u : Update) (a : Address) : Update :=
  let u := { u with grid := u.grid.rebind a }
  let cyclic := u.grid.graph.cyclicCells a
  let u := u.recompute cyclic a
  (u.grid.readers a).foldl (·.refresh cyclic ·) u

end Update

namespace Grid

def assign (g : Grid) (a : Address) (text : String) : Update :=
  let u : Update := { grid := g }
  let u := (u.modify a fun c => { c with text := text, changed := true }).notify a .text
  u.recalculate a

end Grid

end ReactiveGrid
