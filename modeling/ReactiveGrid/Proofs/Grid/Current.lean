import ReactiveGrid.Proofs.Grid.Renewed

/-!
# Values are up to date after every run

In a transitive grid every value is up to date between operations: a cell that refers to nothing or
lies on a cycle shows its text, and every other cell shows what the cell shows that it refers to. So
each cell shows the text of the cell where its chain of references ends.

Entering a text can change what a cell shows only if the cell can be reached from the one that was
written, and these are the cells renewed. A cell that cannot be reached has the same chain before and
after. A cell that can be reached is renewed after the cell it refers to, unless it is on a cycle.
-/

namespace ReactiveGrid.Grid
open Relation Dependency

structure Current (g : Grid) : Prop where
  linked : g.Linked
  value_own : ∀ c, g.shape.target? (g.text c) = none ∨ g.graph.OnCycle c → g.value c = g.text c
  value_target : ∀ c t, g.shape.target? (g.text c) = some t → ¬ g.graph.OnCycle c →
    g.value c = g.value t

theorem current_blank (s : Shape) (m : Propagation) : (blank s m).Current where
  linked := linked_blank s m
  value_own := by
    intro c _
    rw [value_blank, text_blank]
  value_target := by
    intro c t _ _
    rw [value_blank, value_blank]

theorem Current.of_alike {g g' : Grid} (h : g.Current) (hsame : g.Alike g') : g'.Current := by
  constructor
  case linked => exact h.linked.of_eq hsame.shape_eq hsame.graph_eq hsame.text_eq
  case value_own =>
    intro c hc
    rw [hsame.shape_eq, hsame.graph_eq, hsame.text_eq] at hc
    rw [hsame.value_eq, hsame.text_eq]
    exact h.value_own c hc
  case value_target =>
    intro c t ht hc
    rw [hsame.shape_eq, hsame.text_eq] at ht
    rw [hsame.graph_eq] at hc
    rw [hsame.value_eq, hsame.value_eq]
    exact h.value_target c t ht hc

theorem Current.value_eq_text {g : Grid} (h : g.Current) {c e : Address}
    (he : g.shape.EndsAt g.text c e) : g.value c = g.text e := by
  induction he with
  | noReference c hno => exact h.value_own c (Or.inl (Option.eq_none_iff_forall_not_mem.2 hno))
  | onCycle c hcycle => exact h.value_own c (Or.inr ((h.linked.onCycle_iff c).2 hcycle))
  | follow c t e hct hc _ ih =>
    have hoff : ¬ g.graph.OnCycle c := fun hcycle => hc ((h.linked.onCycle_iff c).1 hcycle)
    rw [h.value_target c t hct hoff, ih]

/-! ### Entering a text -/

section

variable {g : Grid} {a c t : Address} {text : String}

theorem value_assign_of_not_reaches (hg : g.propagation = .transitive)
    (hc : ¬ (g.rebound a text).graph.Reaches a c) :
    (g.assign a text).grid.value c = g.value c :=
  value_assign_of_not_mem fun hmem => hc ((mem_renewed_transitive hg).1 hmem)

/-- A cell that is reached shows at the end what its text stands for at the end: the cell that it
refers to is not renewed after it, unless it is on a cycle and shows its own text. -/
theorem value_assign_of_reaches (h : g.Linked) (hg : g.propagation = .transitive)
    (hc : (g.rebound a text).graph.Reaches a c) :
    (g.assign a text).grid.value c =
      ((g.assign a text).grid.evaluate ((g.rebound a text).graph.cyclicCells a) c).1 :=
  value_assign_of_mem_renewed h ((mem_renewed_transitive hg).2 hc)

theorem ne_of_not_reaches (hc : ¬ (g.rebound a text).graph.Reaches a c) : c ≠ a := by
  rintro rfl
  exact hc (Graph.Reaches.refl c)

theorem onCycle_assign_of_not_reaches (hc : ¬ (g.rebound a text).graph.Reaches a c) :
    (g.assign a text).grid.graph.OnCycle c ↔ g.graph.OnCycle c := by
  rw [graph_assign]
  exact (Graph.onCycle_congr (fun p d hd => feeds_rebound_of_ne hd) hc).symm

theorem Current.assign (h : g.Current) (hg : g.propagation = .transitive) (a : Address)
    (text : String) : (g.assign a text).grid.Current := by
  have hlinked := linked_assign h.linked a text
  constructor
  case linked => exact hlinked
  case value_own =>
    intro c hc
    by_cases hreach : (g.rebound a text).graph.Reaches a c
    · rw [value_assign_of_reaches h.linked hg hreach]
      cases ht : (g.assign a text).grid.shape.target? ((g.assign a text).grid.text c) with
      | none => exact evaluate_of_target?_eq_none ht
      | some t =>
        have hcycle : (g.assign a text).grid.graph.OnCycle c := by
          rcases hc with hnone | hcycle
          · rw [ht] at hnone
            cases hnone
          · exact hcycle
        rw [graph_assign] at hcycle
        rw [evaluate_of_target?_eq_some ht, if_pos (Graph.mem_cyclicCells.2 ⟨hreach, hcycle⟩)]
    · have hne := ne_of_not_reaches hreach
      rw [shape_assign, text_assign_of_ne hne, onCycle_assign_of_not_reaches hreach] at hc
      rw [value_assign_of_not_reaches hg hreach, text_assign_of_ne hne]
      exact h.value_own c hc
  case value_target =>
    intro c t ht hc
    by_cases hreach : (g.rebound a text).graph.Reaches a c
    · have hcyclic : c ∉ (g.rebound a text).graph.cyclicCells a := by
        rw [graph_assign] at hc
        exact fun hmem => hc (Graph.mem_cyclicCells.1 hmem).2
      rw [value_assign_of_reaches h.linked hg hreach, evaluate_of_target?_eq_some ht,
        if_neg hcyclic]
    · -- Then the cell that it refers to cannot be reached either.
      have hfeeds : (g.rebound a text).graph.Feeds t c := by
        rw [← graph_assign]
        exact (hlinked t c).2 ht
      have hreach' : ¬ (g.rebound a text).graph.Reaches a t := fun hat =>
        hreach (hat.trans hfeeds.reaches)
      rw [shape_assign, text_assign_of_ne (ne_of_not_reaches hreach)] at ht
      rw [onCycle_assign_of_not_reaches hreach] at hc
      rw [value_assign_of_not_reaches hg hreach, value_assign_of_not_reaches hg hreach']
      exact h.value_target c t ht hc

end

/-! ### Runs -/

theorem Current.move {g g' : Grid} (h : g.Current) (hg : g.propagation = .transitive)
    (hmove : g.Move g') : g'.Current := by
  rcases hmove.assign_or_alike with ⟨a, text, heq⟩ | hsame
  · rw [heq]
    exact h.assign hg a text
  · exact h.of_alike hsame

theorem Current.run {g : Grid} (h : g.Current) (hg : g.propagation = .transitive)
    (ops : List Operation) : (g.run ops).Current :=
  run_invariant_of_propagation (fun _ _ h hg hmove => h.move hg hmove) g ops hg h

theorem current_run (s : Shape) (ops : List Operation) :
    ((blank s .transitive).run ops).Current :=
  (current_blank s .transitive).run rfl ops

theorem value_run_eq_text {s : Shape} {c e : Address} {ops : List Operation}
    (he : s.EndsAt ((blank s .transitive).run ops).text c e) :
    ((blank s .transitive).run ops).value c = ((blank s .transitive).run ops).text e := by
  refine (current_run s ops).value_eq_text ?_
  rw [shape_run]
  exact he

/-- What the cells of a transitive grid show is decided by their texts alone: the references of each
cell of the grid end at one cell of the grid, whose text is what the cell shows, and runs that lead
to the same texts lead to the same values. -/
theorem values_decided_by_texts (s : Shape) (ops : List Operation) :
    (∀ c, s.Contains c →
      (∃! e, s.EndsAt ((blank s .transitive).run ops).text c e) ∧
      ∀ e, s.EndsAt ((blank s .transitive).run ops).text c e →
        s.Contains e ∧
        ((blank s .transitive).run ops).value c = ((blank s .transitive).run ops).text e) ∧
    ∀ ops' : List Operation,
      (∀ c, s.Contains c →
        ((blank s .transitive).run ops).text c = ((blank s .transitive).run ops').text c) →
      ∀ c, s.Contains c →
        ((blank s .transitive).run ops).value c = ((blank s .transitive).run ops').value c := by
  constructor
  · intro c hc
    obtain ⟨e, he⟩ : ∃ e, s.EndsAt ((blank s .transitive).run ops).text c e :=
      Shape.exists_endsAt_of_contains hc
    exact ⟨⟨e, he, fun _ hf => hf.unique he⟩, fun f hf => ⟨hf.contains hc, value_run_eq_text hf⟩⟩
  · intro ops' htexts c hc
    have htext : ((blank s .transitive).run ops).text = ((blank s .transitive).run ops').text := by
      funext a
      by_cases ha : s.Contains a
      · exact htexts a ha
      · rw [text_of_not_contains (by rwa [shape_run]), text_of_not_contains (by rwa [shape_run])]
    obtain ⟨e, he⟩ : ∃ e, s.EndsAt ((blank s .transitive).run ops).text c e :=
      Shape.exists_endsAt_of_contains hc
    have hvalue' : ((blank s .transitive).run ops').value c =
        ((blank s .transitive).run ops').text e := by
      refine value_run_eq_text ?_
      rw [← htext]
      exact he
    rw [value_run_eq_text he, hvalue', htext]

end ReactiveGrid.Grid
