import ReactiveGrid.Proofs.Grid.Notifications

/-!
# Entering the same text twice

The second time, the cell has the text already, and its link and its reference are those of the text,
so nothing is to be rebound. The same cells are renewed in the same order, and each of them stands for
what it shows: a cell on a cycle for its own text, the written cell off the cycles for a cell that the
first time did not renew, and a reader off the cycles for a cell that was renewed before it and not
again. So no renewal changes anything.
-/

namespace ReactiveGrid.Grid
open Dependency

/-! ### Changes that change nothing -/

section

variable {g : Grid} {a : Address} {cyclic : Std.ExtTreeSet Address}

theorem modify_eq_self {f : Cell → Cell} (hf : ∀ c, g.cell? a = some c → f c = c) :
    g.modify a f = g := by
  unfold modify
  by_cases ha : g.shape.Contains a
  · have hcell : f (g.cellAt a ha) = g.cellAt a ha := hf _ (cell?_of_contains ha)
    rw [dif_pos ha, hcell, cellAt, Vector.set_getElem_self]
  · rw [dif_neg ha]

theorem renew_eq_self (hvalue : (g.evaluate cyclic a).1 = g.value a) : renew cyclic g a = g := by
  refine modify_eq_self fun c hc => ?_
  rw [hvalue, value_of_cell? hc]

theorem foldl_renew_eq_self {cells : List Address}
    (hvalue : ∀ c ∈ cells, (g.evaluate cyclic c).1 = g.value c) :
    cells.foldl (renew cyclic) g = g := by
  induction cells with
  | nil => rfl
  | cons c cs ih =>
    rw [List.foldl_cons, renew_eq_self (hvalue c (List.mem_cons_self ..)),
      ih fun d hd => hvalue d (List.mem_cons_of_mem _ hd)]

theorem Sound.rebind_eq_self (h : g.Sound) (a : Address) : g.rebind a = g := by
  have hcells : g.modify a ({ · with reference := g.shape.target? (g.text a) }) = g := by
    refine modify_eq_self fun c hc => ?_
    rw [text_of_cell? hc, ← (h.cells a c hc).reference_eq]
  have hlinked : (g.rebind a).Linked := linked_rebind fun p d _ => h.linked p d
  have hgraph : (g.rebind a).graph = g.graph :=
    h.linked.graph_eq hlinked (shape_rebind g a) (funext (text_rebind g a))
  calc
    g.rebind a = { g.modify a ({ · with reference := g.shape.target? (g.text a) }) with
        graph := (g.rebind a).graph } := rfl
    _ = { g with graph := (g.rebind a).graph } := by rw [hcells]
    _ = g := by rw [hgraph]

end

/-! ### The second time -/

section

variable {g : Grid} {a : Address} {c : Cell} {text : String}

theorem entered_of_cell?_assign (hc : (g.assign a text).grid.cell? a = some c) :
    c.text = text ∧ c.changed = true := by
  rw [cell?_assign, cell?_rebound, if_pos rfl, Option.map_map] at hc
  obtain ⟨before, -, rfl⟩ := Option.map_eq_some_iff.1 hc
  exact ⟨rfl, rfl⟩

theorem entered_assign : (g.assign a text).grid.entered a text = (g.assign a text).grid := by
  refine modify_eq_self fun c hc => ?_
  obtain ⟨htext, hchanged⟩ := entered_of_cell?_assign hc
  rw [← htext, ← hchanged]

theorem rebound_assign (h : g.Sound) :
    (g.assign a text).grid.rebound a text = (g.assign a text).grid := by
  have hentered : (g.assign a text).grid.rebound a text =
      ((g.assign a text).grid.entered a text).rebind a := rfl
  rw [hentered, entered_assign, (h.assign a text).rebind_eq_self]

theorem renewed_assign (h : g.Sound) :
    (g.assign a text).grid.renewed a text = g.renewed a text := by
  have hreaders : (g.assign a text).grid.readers a = (g.rebound a text).readers a := by
    unfold readers
    rw [propagation_assign, propagation_rebound, graph_assign]
  rw [renewed, rebound_assign h, hreaders, renewed]

theorem assign_assign (h : g.Sound) :
    ((g.assign a text).grid.assign a text).grid = (g.assign a text).grid := by
  rw [grid_assign_renewed, renewed_assign h, rebound_assign h, graph_assign]
  exact foldl_renew_eq_self fun c hc => (value_assign_of_mem_renewed h.linked hc).symm

end

/-- A text that is entered twice in a row leaves the whole grid as the first time did, after any run and
in either mode: also where values are stale, and where the written cell is on a cycle. The second time
the same cells are told of the same properties in the same order, through the same listeners. -/
theorem entered_twice_as_once (s : Shape) (m : Propagation) (ops : List Operation) (a : Address)
    (text : String) :
    let once := ((blank s m).run ops).apply (.setText a text)
    let twice := once.grid.apply (.setText a text)
    twice.grid = once.grid ∧
    twice.outcome = once.outcome ∧
    (twice.events.filterMap Event.notice?).map (fun n => (n.1.address, n.2)) =
      (once.events.filterMap Event.notice?).map (fun n => (n.1.address, n.2)) ∧
    (twice.events.flatMap Event.deliveries).map
        (fun call => (call.listener, call.cell.address, call.property)) =
      (once.events.flatMap Event.deliveries).map
        (fun call => (call.listener, call.cell.address, call.property)) := by
  have h : ((blank s m).run ops).Sound := sound_run s m ops
  generalize (blank s m).run ops = g at h ⊢
  intro once twice
  have honce : once = g.apply (.setText a text) := rfl
  have htwice : twice = once.grid.apply (.setText a text) := rfl
  clear_value twice once
  by_cases ha : g.shape.Contains a
  · have hin : (g.assign a text).grid.shape.Contains a := by rwa [shape_assign]
    rw [apply_setText ha] at honce
    rw [honce, Transition.grid_ofUpdate, apply_setText hin] at htwice
    have hnotices : ((g.assign a text).grid.assign a text).notices.map
        (fun n => (n.1.address, n.2)) =
          (g.assign a text).notices.map (fun n => (n.1.address, n.2)) := by
      rw [map_notices_assign (h.assign a text) hin, map_notices_assign h ha, renewed_assign h]
    rw [htwice, honce]
    refine ⟨?_, ?_, ?_, ?_⟩
    · rw [Transition.grid_ofUpdate, Transition.grid_ofUpdate, assign_assign h]
    · rw [Transition.outcome_ofUpdate, Transition.outcome_ofUpdate]
    · rw [Transition.events_ofUpdate, Transition.events_ofUpdate]
      exact hnotices
    · rw [Transition.events_ofUpdate, Transition.events_ofUpdate,
        calls_assign (h.assign a text),
        calls_assign h, renewed_assign h]
      simp only [listeners_assign]
  · obtain ⟨cause, hrefused⟩ := exists_refusal_of_not_contains ha text
    have hkept : once.grid = g := by rw [honce, hrefused, Transition.refused]
    rw [hkept, ← honce] at htwice
    rw [htwice]
    exact ⟨rfl, rfl, rfl, rfl⟩

end ReactiveGrid.Grid
