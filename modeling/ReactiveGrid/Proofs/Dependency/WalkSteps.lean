import ReactiveGrid.Dependency.Walk
import ReactiveGrid.Proofs.Dependency.Reach

/-!
# The walk as a run of single steps

A point of the walk is what the recursion carries: the open cells with their dependents still to look
at, the cells not met yet, and the trace so far. Each call of the recursion is one step from a point
to the next, so whatever holds at the start and is kept by a step holds where the walk ends.
-/

namespace ReactiveGrid.Dependency
open Relation

structure Point where
  path : List (Address × List Address)
  fresh : Std.ExtTreeMap Address (Std.ExtTreeSet Address)
  before : List Visit

namespace Point

/-- The open cells, innermost first. -/
def openCells (p : Point) : List Address := p.path.map (·.1)

/-- The closed cells, latest first. -/
def closed (p : Point) : List Address := p.before.filterMap Visit.left?

def met (p : Point) : List Address := p.openCells ++ p.closed

/-- Closing a cell moves it from the open cells to the closed ones, so the same cells are met. -/
theorem met_leave_perm (c : Address) (path : List (Address × List Address))
    (fresh : Std.ExtTreeMap Address (Std.ExtTreeSet Address)) (before : List Visit) :
    (Point.mk path fresh (.leave c :: before)).met.Perm
      (Point.mk ((c, []) :: path) fresh before).met :=
  List.perm_middle

end Point

namespace Graph

inductive Step (g : Graph) : Point → Point → Prop where
  | leave (c : Address) (path : List (Address × List Address))
      (fresh : Std.ExtTreeMap Address (Std.ExtTreeSet Address)) (before : List Visit) :
      Step g ⟨(c, []) :: path, fresh, before⟩ ⟨path, fresh, .leave c :: before⟩
  | enter (c d : Address) (ds : List Address) (path : List (Address × List Address))
      (fresh : Std.ExtTreeMap Address (Std.ExtTreeSet Address)) (before : List Visit)
      (hd : d ∈ fresh) :
      Step g ⟨(c, d :: ds) :: path, fresh, before⟩
        ⟨(d, g.dependents d) :: (c, ds) :: path, fresh.erase d, .enter d :: before⟩
  | revisit (c d : Address) (ds : List Address) (path : List (Address × List Address))
      (fresh : Std.ExtTreeMap Address (Std.ExtTreeSet Address)) (before : List Visit)
      (hd : d ∉ fresh) :
      Step g ⟨(c, d :: ds) :: path, fresh, before⟩ ⟨(c, ds) :: path, fresh, .revisit c d :: before⟩

def firstPoint (g : Graph) (start : Address) : Point :=
  ⟨[(start, g.dependents start)], g.sources.sets.erase start, [.enter start]⟩

theorem visits_run (g : Graph) (path : List (Address × List Address))
    (fresh : Std.ExtTreeMap Address (Std.ExtTreeSet Address)) (before : List Visit) :
    ∃ rest, ReflTransGen g.Step ⟨path, fresh, before⟩
      ⟨[], rest, (g.visits path fresh before).reverse⟩ := by
  fun_induction g.visits path fresh before with
  | case1 fresh before =>
    rw [List.reverse_reverse]
    exact ⟨fresh, .refl⟩
  | case2 fresh before c path ih =>
    obtain ⟨rest, hrun⟩ := ih
    exact ⟨rest, .head (.leave ..) hrun⟩
  | case3 fresh before c d ds path hd ih =>
    obtain ⟨rest, hrun⟩ := ih
    exact ⟨rest, .head (.enter _ _ _ _ _ _ hd) hrun⟩
  | case4 fresh before c d ds path hd ih =>
    obtain ⟨rest, hrun⟩ := ih
    exact ⟨rest, .head (.revisit _ _ _ _ _ _ hd) hrun⟩

theorem walk_run (g : Graph) (start : Address) :
    ∃ rest, ReflTransGen g.Step (g.firstPoint start) ⟨[], rest, (g.walk start).reverse⟩ :=
  visits_run g [(start, g.dependents start)] (g.sources.sets.erase start) [.enter start]

/-- What holds where the walk starts, and is kept by every step, holds where it ends: there no cell
is open, and the trace is the walk. -/
theorem walk_invariant {g : Graph} {start : Address} {P : Point → Prop}
    (hfirst : P (g.firstPoint start)) (hstep : ∀ p q, P p → g.Step p q → P q) :
    ∃ rest, P ⟨[], rest, (g.walk start).reverse⟩ := by
  obtain ⟨rest, hrun⟩ := g.walk_run start
  refine ⟨rest, ?_⟩
  generalize (⟨[], rest, _⟩ : Point) = last at hrun ⊢
  induction hrun with
  | refl => exact hfirst
  | tail _ hlast ih => exact hstep _ _ ih hlast

end Graph

end ReactiveGrid.Dependency
