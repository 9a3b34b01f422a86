import Mathlib.Data.List.Basic
import ReactiveGrid.Proofs.Dependency.WalkInvariant

/-!
# The order of recalculation is topological as far as there is one

The cells to recalculate are those that the changed cell reaches, each once and without the changed
cell. A cell stands before each cell that it feeds, unless that cell reaches it in turn.
-/

namespace ReactiveGrid.Dependency.Graph

theorem walked_walk (g : Graph) (start : Address) :
    ∃ rest, g.Walked start ⟨[], rest, (g.walk start).reverse⟩ :=
  walk_invariant (walked_firstPoint g start) fun _ _ h hstep => h.step hstep

theorem closed_walk (g : Graph) (start : Address)
    (rest : Std.ExtTreeMap Address (Std.ExtTreeSet Address)) :
    (Point.mk [] rest (g.walk start).reverse).closed = g.closedCells start :=
  List.filterMap_reverse

theorem nodup_closedCells (g : Graph) (start : Address) : (g.closedCells start).Nodup := by
  obtain ⟨rest, h⟩ := g.walked_walk start
  rw [← g.closed_walk start rest]
  exact h.nodup

theorem closedCells_eq_cons (g : Graph) (start : Address) :
    g.closedCells start = start :: g.recalculationOrder start := by
  obtain ⟨rest, h⟩ := g.walked_walk start
  rcases h.bottom with hlast | ⟨_, hhead⟩
  · cases hlast
  · rw [closed_walk] at hhead
    exact List.eq_cons_of_mem_head? hhead

theorem mem_closedCells {g : Graph} {start c : Address} :
    c ∈ g.closedCells start ↔ g.Reaches start c := by
  obtain ⟨rest, h⟩ := g.walked_walk start
  have hmet : (Point.mk [] rest (g.walk start).reverse).met = g.closedCells start :=
    g.closed_walk start rest
  have hstart : start ∈ g.closedCells start := by
    rw [closedCells_eq_cons]
    exact List.mem_cons_self ..
  constructor
  · intro hc
    rw [← hmet] at hc
    exact h.reached c hc
  · intro hc
    refine hc.mem_of_closed (fun p q hp hpq => ?_) hstart
    rw [← hmet]
    rw [← g.closed_walk start rest] at hp
    exact h.met_of_closed p hp q hpq

theorem nodup_recalculationOrder (g : Graph) (changed : Address) :
    (g.recalculationOrder changed).Nodup :=
  (g.nodup_closedCells changed).tail

theorem not_mem_recalculationOrder_self (g : Graph) (changed : Address) :
    changed ∉ g.recalculationOrder changed := by
  have h := g.nodup_closedCells changed
  rw [closedCells_eq_cons] at h
  exact (List.nodup_cons.1 h).1

theorem mem_recalculationOrder {g : Graph} {changed c : Address} :
    c ∈ g.recalculationOrder changed ↔ c ≠ changed ∧ g.Reaches changed c := by
  rw [← mem_closedCells, closedCells_eq_cons, List.mem_cons]
  constructor
  · intro hc
    have hne : c ≠ changed := by
      rintro rfl
      exact g.not_mem_recalculationOrder_self c hc
    exact ⟨hne, Or.inr hc⟩
  · rintro ⟨hne, heq | hc⟩
    · exact absurd heq hne
    · exact hc

/-- What a cell feeds stands behind it among the closed cells, or reaches it. -/
theorem mem_after_of_feeds {g : Graph} {start p d : Address} {front back : List Address}
    (heq : g.closedCells start = front ++ p :: back) (h : g.Feeds p d) :
    d ∈ back ∨ g.Reaches d p := by
  obtain ⟨rest, hw⟩ := g.walked_walk start
  rw [← g.closed_walk start rest] at heq
  exact hw.ordered front p back heq d h

/-- So what feeds a cell off the cycles stands before it, if it is a closed cell at all. -/
theorem not_mem_after_of_feeds {g : Graph} {start p d : Address} {front back : List Address}
    (heq : g.closedCells start = front ++ d :: back) (h : g.Feeds p d) (hd : ¬ g.OnCycle d) :
    p ∉ d :: back := by
  have hnodup := g.nodup_closedCells start
  intro hp
  rcases List.mem_cons.1 hp with rfl | hp
  · exact hd (Reaches.onCycle h (Reaches.refl p))
  · obtain ⟨between, rest, rfl⟩ := List.append_of_mem hp
    have heq' : g.closedCells start = (front ++ d :: between) ++ p :: rest := by
      rw [heq, List.append_assoc, List.cons_append]
    rcases mem_after_of_feeds heq' h with hafter | hreach
    · rw [heq'] at hnodup
      exact (List.nodup_append.1 hnodup).2.2 d (by simp) d (List.mem_cons_of_mem _ hafter) rfl
    · exact hd (hreach.onCycle_of_feeds h)

theorem idxOf_lt_idxOf_of_feeds {g : Graph} {changed p d : Address}
    (hp : p ∈ g.recalculationOrder changed) (hpd : g.Feeds p d) (hdp : ¬ g.Reaches d p) :
    (g.recalculationOrder changed).idxOf p < (g.recalculationOrder changed).idxOf d := by
  have hnodup := g.nodup_recalculationOrder changed
  obtain ⟨front, back, heq⟩ := List.append_of_mem hp
  have hclosed : g.closedCells changed = (changed :: front) ++ p :: back := by
    rw [closedCells_eq_cons, heq, List.cons_append]
  rcases mem_after_of_feeds hclosed hpd with hd | hd
  · rw [heq] at hnodup ⊢
    obtain ⟨-, hback, hdisj⟩ := List.nodup_append.1 hnodup
    have hpfront : p ∉ front := fun h => hdisj p h p (List.mem_cons_self ..) rfl
    have hdfront : d ∉ front := fun h => hdisj d h d (List.mem_cons_of_mem _ hd) rfl
    have hne : p ≠ d := by
      rintro rfl
      exact (List.nodup_cons.1 hback).1 hd
    rw [List.idxOf_append_of_notMem hpfront, List.idxOf_append_of_notMem hdfront,
      List.idxOf_cons_self, List.idxOf_cons_ne _ hne]
    omega
  · exact absurd hd hdp

/-- The order of recalculation has each cell that the changed one reaches, without the changed one,
exactly once; and a cell comes before those that it feeds, unless they lie on a cycle with it. -/
theorem recalculationOrder_sorts_reach (g : Graph) (changed : Address) :
    (g.recalculationOrder changed).Nodup ∧
      (∀ c, c ∈ g.recalculationOrder changed ↔ c ≠ changed ∧ g.Reaches changed c) ∧
      (∀ p ∈ g.recalculationOrder changed, ∀ d ∈ g.recalculationOrder changed,
        g.Feeds p d → ¬ g.Reaches d p →
          (g.recalculationOrder changed).idxOf p < (g.recalculationOrder changed).idxOf d) ∧
      ((∀ c, g.Reaches changed c → ¬ g.OnCycle c) →
        ∀ p ∈ g.recalculationOrder changed, ∀ d ∈ g.recalculationOrder changed, g.Feeds p d →
          (g.recalculationOrder changed).idxOf p < (g.recalculationOrder changed).idxOf d) := by
  refine ⟨g.nodup_recalculationOrder changed, fun c => mem_recalculationOrder, ?_, ?_⟩
  · intro p hp d _ hpd hdp
    exact idxOf_lt_idxOf_of_feeds hp hpd hdp
  · intro hacyclic p hp d _ hpd
    have hreach : g.Reaches changed p := (mem_recalculationOrder.1 hp).2
    exact idxOf_lt_idxOf_of_feeds hp hpd fun hdp => hacyclic p hreach (Reaches.onCycle hpd hdp)

end ReactiveGrid.Dependency.Graph
