import ReactiveGrid.Dependency.Graph

/-!
# Walking through the dependents of a cell

A walk starts at a cell and goes on depth first: from the innermost open cell it takes the next
dependent, in address order, and opens it unless it was met before. A cell none of whose dependents
are left is closed. The trace of the walk tells each of these steps.

A cell that reads nothing is never a dependent. So the cells that are still to be met are found
among those that read something, and each cell that is met leaves fewer of them.

A walk closes a cell only after it has closed every cell first met below it. So, read backwards, the
closed cells stand in an order in which a cell comes after the cells that it reads, as far as there
is no cycle. The cell that the walk started from is closed last, and is not recalculated.
-/

namespace ReactiveGrid.Dependency

inductive Visit where
  | enter (cell : Address)
  | revisit (cell dependent : Address)
  | leave (cell : Address)
deriving DecidableEq, Repr

def Visit.left? : Visit → Option Address
  | leave cell => some cell
  | _ => none

namespace Graph

/-- The steps from a point of the walk on, behind those before it (latest first). The point is given
by the open cells, innermost first, each with the dependents still to look at, and by the cells that
were not met yet. -/
def visits (g : Graph) (path : List (Address × List Address))
    (fresh : Std.ExtTreeMap Address (Std.ExtTreeSet Address)) (before : List Visit) : List Visit :=
  match path with
  | [] => before.reverse
  | (cell, []) :: path => g.visits path fresh (.leave cell :: before)
  | (cell, d :: ds) :: path =>
    if d ∈ fresh then
      g.visits ((d, g.dependents d) :: (cell, ds) :: path) (fresh.erase d) (.enter d :: before)
    else g.visits ((cell, ds) :: path) fresh (.revisit cell d :: before)
termination_by (fresh.size, path.foldr (fun p n => p.2.length + 1 + n) 0)
decreasing_by
  · apply Prod.Lex.right
    exact Nat.lt_add_of_pos_left (Nat.succ_pos _)
  · next h =>
    apply Prod.Lex.left
    have hpos : fresh.size ≠ 0 := by
      intro h0
      have he : fresh = ∅ := by
        rw [← Std.ExtTreeMap.isEmpty_iff, Std.ExtTreeMap.isEmpty_eq_size_beq_zero, h0]
        rfl
      rw [he] at h
      exact Std.ExtTreeMap.not_mem_empty h
    rw [Std.ExtTreeMap.size_erase, if_pos (Std.ExtTreeMap.mem_iff_contains.1 h)]
    omega
  · apply Prod.Lex.right
    exact Nat.add_lt_add_right (Nat.lt_succ_self _) _

def walk (g : Graph) (start : Address) : List Visit :=
  g.visits [(start, g.dependents start)] (g.sources.sets.erase start) [.enter start]

/-! ### The order of recalculation -/

/-- The cells that a walk closes, latest first. -/
def closedCells (g : Graph) (start : Address) : List Address :=
  ((g.walk start).filterMap Visit.left?).reverse

/-- The cells to recalculate after a cell has changed, each after the cells that it reads. -/
def recalculationOrder (g : Graph) (changed : Address) : List Address :=
  (g.closedCells changed).tail

end Graph

end ReactiveGrid.Dependency
