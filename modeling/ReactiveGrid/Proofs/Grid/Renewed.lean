import ReactiveGrid.Proofs.Dependency.Cycles
import ReactiveGrid.Proofs.Grid.Links

/-!
# Which cells a text renews, and what they show

Entering a text renews the written cell and its readers, each once, whether the readers are all cells
that are reached or the direct ones only. The written cell comes first and is not touched again. So a
direct reader finds its new value, and all others keep the values they had, however stale.
-/

namespace ReactiveGrid.Grid
open Dependency

section

variable {g : Grid} {a c t : Address} {text : String}

/-- The cells that are renewed when a text is entered, in their order. -/
def renewed (g : Grid) (a : Address) (text : String) : List Address :=
  a :: (g.rebound a text).readers a

theorem mem_readers_transitive (hg : g.propagation = .transitive) :
    c ∈ g.readers a ↔ c ≠ a ∧ g.graph.Reaches a c := by
  unfold readers
  rw [hg]
  exact Graph.mem_recalculationOrder

theorem mem_readers_singleHop (hg : g.propagation = .singleHop) :
    c ∈ g.readers a ↔ c ≠ a ∧ g.graph.Feeds a c := by
  unfold readers
  rw [hg]
  simp [Graph.Feeds, and_comm]

theorem nodup_readers (g : Grid) (a : Address) : (g.readers a).Nodup := by
  unfold readers
  split
  · exact g.graph.nodup_recalculationOrder a
  · exact (g.graph.nodup_dependents a).filter _

theorem ne_of_mem_readers (hc : c ∈ g.readers a) : c ≠ a := by
  cases hg : g.propagation with
  | transitive => exact ((mem_readers_transitive hg).1 hc).1
  | singleHop => exact ((mem_readers_singleHop hg).1 hc).1

theorem reaches_of_mem_readers (hc : c ∈ g.readers a) : g.graph.Reaches a c := by
  cases hg : g.propagation with
  | transitive => exact ((mem_readers_transitive hg).1 hc).2
  | singleHop => exact ((mem_readers_singleHop hg).1 hc).2.reaches

theorem mem_readers_of_feeds (hc : c ≠ a) (hfeeds : g.graph.Feeds a c) : c ∈ g.readers a := by
  cases hg : g.propagation with
  | transitive => exact (mem_readers_transitive hg).2 ⟨hc, hfeeds.reaches⟩
  | singleHop => exact (mem_readers_singleHop hg).2 ⟨hc, hfeeds⟩

theorem nodup_renewed (g : Grid) (a : Address) (text : String) : (g.renewed a text).Nodup :=
  List.nodup_cons.2 ⟨fun ha => ne_of_mem_readers ha rfl, nodup_readers ..⟩

theorem reaches_of_mem_renewed (hc : c ∈ g.renewed a text) :
    (g.rebound a text).graph.Reaches a c := by
  rcases List.mem_cons.1 hc with rfl | hc
  · exact Graph.Reaches.refl c
  · exact reaches_of_mem_readers hc

theorem mem_renewed_of_feeds (hfeeds : (g.rebound a text).graph.Feeds a c) :
    c ∈ g.renewed a text := by
  by_cases hc : c = a
  · rw [hc]
    exact List.mem_cons_self ..
  · exact List.mem_cons_of_mem _ (mem_readers_of_feeds hc hfeeds)

theorem mem_renewed_transitive (hg : g.propagation = .transitive) :
    c ∈ g.renewed a text ↔ (g.rebound a text).graph.Reaches a c := by
  constructor
  · exact reaches_of_mem_renewed
  · intro hc
    by_cases hca : c = a
    · rw [hca]
      exact List.mem_cons_self ..
    · refine List.mem_cons_of_mem _ ((mem_readers_transitive ?_).2 ⟨hca, hc⟩)
      rw [propagation_rebound, hg]

theorem mem_renewed_singleHop (hg : g.propagation = .singleHop) :
    c ∈ g.renewed a text ↔ c = a ∨ (g.rebound a text).graph.Feeds a c := by
  have hreaders : c ∈ (g.rebound a text).readers a ↔ c ≠ a ∧ (g.rebound a text).graph.Feeds a c :=
    mem_readers_singleHop (by rw [propagation_rebound, hg])
  rw [renewed, List.mem_cons, hreaders]
  by_cases hc : c = a <;> simp [hc]

/-! ### Values afterwards -/

theorem grid_assign_renewed (g : Grid) (a : Address) (text : String) :
    (g.assign a text).grid = (g.renewed a text).foldl
      (renew ((g.rebound a text).graph.cyclicCells a)) (g.rebound a text) :=
  grid_assign g a text

theorem cell?_rebound_of_ne (hc : c ≠ a) : (g.rebound a text).cell? c = g.cell? c := by
  rw [cell?_rebound, if_neg (Ne.symm hc)]

theorem cell?_assign_of_not_mem (hc : c ∉ g.renewed a text) :
    (g.assign a text).grid.cell? c = g.cell? c := by
  have hne : c ≠ a := by
    rintro rfl
    exact hc (List.mem_cons_self ..)
  rw [grid_assign_renewed, cell?_foldl_renew_of_not_mem _ _ _ _ hc, cell?_rebound_of_ne hne]

theorem value_assign_of_not_mem (hc : c ∉ g.renewed a text) :
    (g.assign a text).grid.value c = g.value c := by
  unfold value
  rw [cell?_assign_of_not_mem hc]

/-- A renewed cell shows what its text stood for in its turn, after the cells before it. -/
theorem value_assign_of_renewed {front back : List Address}
    (heq : g.renewed a text = front ++ c :: back) :
    (g.assign a text).grid.value c =
      ((front.foldl (renew ((g.rebound a text).graph.cyclicCells a)) (g.rebound a text)).evaluate
        ((g.rebound a text).graph.cyclicCells a) c).1 := by
  have hnodup := nodup_renewed g a text
  rw [heq] at hnodup
  have hback : c ∉ back := (List.nodup_cons.1 (List.nodup_append.1 hnodup).2.1).1
  rw [grid_assign_renewed, heq, value_foldl_renew _ _ hback]

theorem value_assign_self (g : Grid) (a : Address) (text : String) :
    (g.assign a text).grid.value a =
      ((g.rebound a text).evaluate ((g.rebound a text).graph.cyclicCells a) a).1 := by
  have heq : g.renewed a text = [] ++ a :: (g.rebound a text).readers a := by
    rw [renewed, List.nil_append]
  rw [value_assign_of_renewed heq, List.foldl_nil]

theorem value_assign_of_onCycle (hc : c ∈ g.renewed a text)
    (hcycle : (g.rebound a text).graph.OnCycle c) :
    (g.assign a text).grid.value c = (g.assign a text).grid.text c := by
  obtain ⟨front, back, heq⟩ := List.append_of_mem hc
  have hcyclic : c ∈ (g.rebound a text).graph.cyclicCells a :=
    Graph.mem_cyclicCells.2 ⟨reaches_of_mem_renewed hc, hcycle⟩
  rw [value_assign_of_renewed heq, text_assign]
  cases ht : (g.rebound a text).shape.target? ((g.rebound a text).text c) with
  | none =>
    rw [evaluate_of_target?_eq_none (by simpa using ht), text_foldl_renew]
  | some t =>
    rw [evaluate_of_target?_eq_some (t := t) (by simpa using ht), if_pos hcyclic, text_foldl_renew]

/-- What a cell off the cycles reads is renewed before it or not at all. -/
theorem not_mem_later_of_feeds {front back : List Address}
    (heq : g.renewed a text = front ++ c :: back) (hfeeds : (g.rebound a text).graph.Feeds t c)
    (hcycle : ¬ (g.rebound a text).graph.OnCycle c) (h : g.Linked) : t ∉ c :: back := by
  cases hg : g.propagation with
  | transitive =>
    have hclosed : g.renewed a text = (g.rebound a text).graph.closedCells a := by
      rw [renewed, Graph.closedCells_eq_cons, readers, propagation_rebound, hg]
    rw [hclosed] at heq
    exact Graph.not_mem_after_of_feeds heq hfeeds hcycle
  | singleHop =>
    intro ht
    have hreach : (g.rebound a text).graph.Reaches a t := by
      refine reaches_of_mem_renewed ?_
      rw [heq]
      exact List.mem_append_right _ ht
    have hca : c ≠ a := by
      rintro rfl
      exact hcycle (hreach.onCycle_of_feeds hfeeds)
    have hc : c ∈ g.renewed a text := by
      rw [heq]
      exact List.mem_append_right _ (List.mem_cons_self ..)
    -- A direct reader reads the written cell, which stands at the front.
    have hac : (g.rebound a text).graph.Feeds a c := ((mem_renewed_singleHop hg).1 hc).resolve_left hca
    have hlinked : (g.rebound a text).Linked := h.rebound a text
    obtain rfl : t = a := Shape.Refers.unique ((hlinked t c).1 hfeeds) ((hlinked a c).1 hac)
    have hnodup := nodup_renewed g t text
    cases front with
    | nil =>
      rw [renewed, List.nil_append] at heq
      exact hca (List.cons.inj heq).1.symm
    | cons b front =>
      have hb : t = b := (List.cons.inj (heq : t :: _ = b :: _)).1
      rw [heq, ← hb] at hnodup
      exact (List.nodup_cons.1 hnodup).1 (List.mem_append_right _ ht)

/-- At the end, a renewed cell shows what its text stands for at the end. -/
theorem value_assign_of_mem_renewed (h : g.Linked) (hc : c ∈ g.renewed a text) :
    (g.assign a text).grid.value c =
      ((g.assign a text).grid.evaluate ((g.rebound a text).graph.cyclicCells a) c).1 := by
  obtain ⟨front, back, heq⟩ := List.append_of_mem hc
  rw [value_assign_of_renewed heq, grid_assign_renewed, heq]
  symm
  refine evaluate_congr (by simp) (by simp) fun t ht hcyclic => ?_
  have hfeeds : (g.rebound a text).graph.Feeds t c :=
    (h.rebound a text t c).2 (by simpa [Shape.Refers] using ht)
  have hcycle : ¬ (g.rebound a text).graph.OnCycle c := fun hcycle =>
    hcyclic (Graph.mem_cyclicCells.2 ⟨reaches_of_mem_renewed hc, hcycle⟩)
  exact value_foldl_renew_append _ _ (not_mem_later_of_feeds heq hfeeds hcycle h)

/-- A direct reader off the cycles takes its value from the written cell. -/
theorem value_assign_of_feeds (h : g.Linked) (hfeeds : (g.rebound a text).graph.Feeds a c)
    (hcycle : ¬ (g.rebound a text).graph.OnCycle c) :
    (g.assign a text).grid.value c = (g.assign a text).grid.value a := by
  have htarget : (g.rebound a text).shape.target? ((g.rebound a text).text c) = some a :=
    (h.rebound a text a c).1 hfeeds
  rw [shape_rebound, ← shape_assign g a text, ← text_assign] at htarget
  have hcyclic : c ∉ (g.rebound a text).graph.cyclicCells a := fun hmem =>
    hcycle (Graph.mem_cyclicCells.1 hmem).2
  rw [value_assign_of_mem_renewed h (mem_renewed_of_feeds hfeeds),
    evaluate_of_target?_eq_some htarget, if_neg hcyclic]

/-! ### The same, told by the references of the texts -/

theorem value_assign_self_of_not_refers
    (hno : ∀ t, ¬ (g.assign a text).grid.shape.Refers (g.assign a text).grid.text a t) :
    (g.assign a text).grid.value a = (g.assign a text).grid.text a := by
  rw [value_assign_self, text_assign]
  refine evaluate_of_target?_eq_none (Option.eq_none_iff_forall_ne_some.2 fun t ht => hno t ?_)
  rwa [Shape.Refers, text_assign, shape_assign, ← shape_rebound g a text]

theorem value_assign_self_of_refers (h : g.Linked)
    (hat : (g.assign a text).grid.shape.Refers (g.assign a text).grid.text a t)
    (hcycle : ¬ (g.assign a text).grid.shape.RefersInCycle (g.assign a text).grid.text a) :
    (g.assign a text).grid.value a = g.value t := by
  rw [Shape.Refers, text_assign, shape_assign, ← shape_rebound g a text] at hat
  have hcyclic : a ∉ (g.rebound a text).graph.cyclicCells a := fun hmem =>
    hcycle ((onCycle_rebound_iff h).1 (Graph.mem_cyclicCells.1 hmem).2)
  rw [value_assign_self, evaluate_of_target?_eq_some hat, if_neg hcyclic, value_rebound]

theorem value_assign_of_refersInCycle (h : g.Linked) (hc : c ∈ g.renewed a text)
    (hcycle : (g.assign a text).grid.shape.RefersInCycle (g.assign a text).grid.text c) :
    (g.assign a text).grid.value c = (g.assign a text).grid.text c :=
  value_assign_of_onCycle hc ((onCycle_rebound_iff h).2 hcycle)

theorem value_assign_of_refers (h : g.Linked)
    (hca : (g.assign a text).grid.shape.Refers (g.assign a text).grid.text c a)
    (hcycle : ¬ (g.assign a text).grid.shape.RefersInCycle (g.assign a text).grid.text c) :
    (g.assign a text).grid.value c = (g.assign a text).grid.value a :=
  value_assign_of_feeds h ((feeds_rebound_iff h).2 hca) fun hc =>
    hcycle ((onCycle_rebound_iff h).1 hc)

/-- With one hop, a cell is left as it is if it is not written and does not refer to the written
cell. -/
theorem value_assign_of_ne_of_not_refers (h : g.Linked) (hg : g.propagation = .singleHop)
    (hc : c ≠ a) (hca : ¬ (g.assign a text).grid.shape.Refers (g.assign a text).grid.text c a) :
    (g.assign a text).grid.value c = g.value c := by
  refine value_assign_of_not_mem fun hmem => ?_
  rcases (mem_renewed_singleHop hg).1 hmem with heq | hfeeds
  · exact hc heq
  · exact hca ((feeds_rebound_iff h).1 hfeeds)

end

end ReactiveGrid.Grid
