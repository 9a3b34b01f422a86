import ReactiveGrid.Dependency.Walk

/-!
# Cells on cycles

Two cells belong together if each can be reached from the other. The walk finds the cells that
belong together: those it has met but not yet settled stand in the order in which they were met, cut
into groups of consecutive cells. Meeting a cell starts a group of its own. A link back to an
unsettled cell joins all later groups with the group of that cell. When the first cell of the
innermost group is closed, the group is complete, and its cells are settled. They lie on a cycle if
there are at least two of them, or if the only one reads itself.
-/

namespace ReactiveGrid.Dependency

structure Components where
  met : Nat := 0
  /-- For each unsettled cell, how many cells were met before it. -/
  position : Std.ExtTreeMap Address Nat := ∅
  /-- The unsettled cells, latest first. -/
  unsettled : List Address := []
  /-- The position of the first cell of each group, innermost group first. -/
  starts : List Nat := []
  cyclic : Std.ExtTreeSet Address := ∅

namespace Components

/-- Settles the cells met from the given cell on, which are a complete group. -/
def settle (g : Graph) (s : Components) (first : Address) : Components :=
  let group := s.unsettled.takeWhile (· ≠ first) ++ [first]
  { s with
    position := group.foldl (fun m c => m.erase c) s.position
    unsettled := (s.unsettled.dropWhile (· ≠ first)).tail
    starts := s.starts.tail
    cyclic :=
      if 1 < group.length ∨ first ∈ g.dependents first then
        group.foldl (fun m c => m.insert c) s.cyclic
      else s.cyclic }

def step (g : Graph) (s : Components) : Visit → Components
  | .enter c =>
    { s with
      met := s.met + 1
      position := s.position.insert c s.met
      unsettled := c :: s.unsettled
      starts := s.met :: s.starts }
  | .revisit _ d =>
    match s.position[d]? with
    | some i => { s with starts := s.starts.dropWhile (i < ·) }
    | none => s
  | .leave c => if s.position[c]? = s.starts.head? then s.settle g c else s

end Components

namespace Graph

/-- The cells on a cycle among those that can be reached from a cell, itself included. -/
def cyclicCells (g : Graph) (start : Address) : Std.ExtTreeSet Address :=
  ((g.walk start).foldl (Components.step g) {}).cyclic

/-- Whether a cell lies on a cycle. A cell that reads itself does. -/
def isCyclic (g : Graph) (cell : Address) : Bool :=
  (g.cyclicCells cell).contains cell

end Graph

end ReactiveGrid.Dependency
