import ReactiveGrid.Proofs.Dependency.Reach
import ReactiveGrid.Proofs.Grid.Reference
import ReactiveGrid.Proofs.Grid.Renewal

/-!
# The graph of a grid says what its texts say

In a grid that was built up by operations, one cell feeds another exactly if the text of the other
refers to it. Entering a text leaves all other texts alone, and rebinding a cell renews the links to
that cell and no others.
-/

namespace ReactiveGrid.Grid
open Relation

def Linked (g : Grid) : Prop :=
  ∀ p d, g.graph.Feeds p d ↔ g.shape.Refers g.text d p

theorem Linked.onCycle_iff {g : Grid} (h : g.Linked) (c : Address) :
    g.graph.OnCycle c ↔ g.shape.RefersInCycle g.text c := by
  have hswap : g.graph.Feeds = Function.swap (g.shape.Refers g.text) := by
    funext p d
    exact propext (h p d)
  unfold Dependency.Graph.OnCycle Shape.RefersInCycle
  rw [hswap, transGen_swap]

theorem Linked.of_eq {g g' : Grid} (h : g.Linked) (hshape : g'.shape = g.shape)
    (hgraph : g'.graph = g.graph) (htext : ∀ c, g'.text c = g.text c) : g'.Linked := by
  intro p d
  unfold Shape.Refers
  rw [hgraph, hshape, htext]
  exact h p d

/-- The texts tell the graph. -/
theorem Linked.graph_eq {g g' : Grid} (h : g.Linked) (h' : g'.Linked) (hshape : g'.shape = g.shape)
    (htext : g'.text = g.text) : g'.graph = g.graph := by
  refine Dependency.Graph.ext_dependents fun p d => ?_
  refine (h' p d).trans (Iff.trans ?_ (h p d).symm)
  rw [hshape, htext]

theorem text_blank (s : Shape) (m : Propagation) (a : Address) : (blank s m).text a = "" := by
  unfold text
  rw [cell?_blank]
  split <;> rfl

theorem value_blank (s : Shape) (m : Propagation) (a : Address) : (blank s m).value a = "" := by
  unfold value
  rw [cell?_blank]
  split <;> rfl

theorem linked_blank (s : Shape) (m : Propagation) : (blank s m).Linked := by
  intro p d
  have hno : ¬ (blank s m).graph.Feeds p d := Dependency.Graph.not_mem_dependents_empty
  have hno' : ¬ (blank s m).shape.Refers (blank s m).text d p := by
    unfold Shape.Refers
    rw [text_blank, target?_empty]
    exact Option.some_ne_none p ∘ Eq.symm
  exact iff_of_false hno hno'

theorem feeds_rebind {g : Grid} {a p d : Address} :
    (g.rebind a).graph.Feeds p d ↔
      if d = a then g.shape.Refers g.text a p else g.graph.Feeds p d := by
  unfold Dependency.Graph.Feeds Shape.Refers rebind
  cases ht : g.shape.target? (g.text a) with
  | none =>
    rw [Dependency.Graph.mem_dependents_clear]
    by_cases hd : d = a
    · simp [hd]
    · simp [hd]
  | some t =>
    rw [Dependency.Graph.mem_dependents_link, Dependency.Graph.mem_dependents_clear]
    by_cases hd : d = a
    · simp [hd, eq_comm]
    · simp [hd]

/-- Rebinding a cell makes the graph right if only the links to that cell were wrong. -/
theorem linked_rebind {g : Grid} {a : Address}
    (h : ∀ p d, d ≠ a → (g.graph.Feeds p d ↔ g.shape.Refers g.text d p)) :
    (g.rebind a).Linked := by
  intro p d
  have htext : (g.rebind a).text = g.text := funext fun b => text_rebind g a b
  rw [feeds_rebind, htext, shape_rebind]
  split
  · next hd => rw [hd]
  · next hd => exact h p d hd

theorem feeds_rebound_of_ne {g : Grid} {a : Address} {text : String} {p d : Address} (hd : d ≠ a) :
    g.graph.Feeds p d ↔ (g.rebound a text).graph.Feeds p d := by
  rw [rebound, feeds_rebind, if_neg hd, graph_modify]

theorem Linked.rebound {g : Grid} (h : g.Linked) (a : Address) (text : String) :
    (g.rebound a text).Linked := by
  refine linked_rebind fun p d hd => ?_
  unfold Shape.Refers
  rw [graph_modify, shape_modify, text_modify_of_ne (Ne.symm hd)]
  exact h p d

theorem linked_assign {g : Grid} (h : g.Linked) (a : Address) (text : String) :
    (g.assign a text).grid.Linked :=
  (h.rebound a text).of_eq ((shape_assign ..).trans (shape_rebound ..).symm) (graph_assign ..)
    (text_assign g a text)

section

variable {g : Grid} {a c t : Address} {text : String}

theorem feeds_rebound_iff (h : g.Linked) : (g.rebound a text).graph.Feeds t c ↔
    (g.assign a text).grid.shape.Refers (g.assign a text).grid.text c t := by
  rw [← graph_assign]
  exact linked_assign h a text t c

theorem onCycle_rebound_iff (h : g.Linked) : (g.rebound a text).graph.OnCycle c ↔
    (g.assign a text).grid.shape.RefersInCycle (g.assign a text).grid.text c := by
  rw [← graph_assign]
  exact (linked_assign h a text).onCycle_iff c

theorem refers_assign_of_ne (hc : c ≠ a) :
    (g.assign a text).grid.shape.Refers (g.assign a text).grid.text c t ↔
      g.shape.Refers g.text c t := by
  unfold Shape.Refers
  rw [shape_assign, text_assign_of_ne hc]

end

end ReactiveGrid.Grid
