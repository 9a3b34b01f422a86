import ReactiveGrid.Proofs.Grid.Renewed

/-!
# What happens when a text is entered

Entering a text leads to one block of events for each renewed cell, in the order of renewal: the cell
is told of its text, it is found out what the text stands for, the value is stored, and the cell is
told of it. A cell is renewed once, so it shows its old value until its block comes, and its last value
from then on. What is found out depends on texts, which no renewal changes.
-/

namespace ReactiveGrid

namespace Grid

variable {g g' : Grid} {a c : Address} {p : Property} {cyclic : Std.ExtTreeSet Address}

/-- A cell of the grid is told of a property. -/
def told (g : Grid) (p : Property) (a : Address) : List Event :=
  ((g.cell? a).map (.notified · p)).toList

theorem told_congr (h : g'.cell? a = g.cell? a) : g'.told p a = g.told p a := by
  unfold told
  rw [h]

theorem evaluate_events_congr (hshape : g'.shape = g.shape) (htext : g'.text a = g.text a) :
    (g'.evaluate cyclic a).2 = (g.evaluate cyclic a).2 := by
  unfold evaluate
  rw [hshape, htext]
  cases hf : formula? (g.text a) with
  | none => simp only [hf]
  | some name =>
    cases ht : g.shape.resolve? name with
    | none => simp only [hf, ht]
    | some t =>
      simp only [hf, ht]
      split <;> rfl

/-- The events of the renewal of a cell, told by the grids before and after it. -/
def block (before after : Grid) (cyclic : Std.ExtTreeSet Address) (a : Address) : List Event :=
  before.told .text a ++
    ((after.evaluate cyclic a).2 ++ .recomputed a (after.value a) :: after.told .value a)

theorem block_congr {before before' after after' : Grid} (hshape : after'.shape = after.shape)
    (hbefore : before'.cell? a = before.cell? a) (hafter : after'.cell? a = after.cell? a) :
    block before' after' cyclic a = block before after cyclic a := by
  have htext : after'.text a = after.text a := by rw [text, hafter, ← text]
  have hvalue : after'.value a = after.value a := by rw [value, hafter, ← value]
  unfold block
  rw [told_congr hbefore, told_congr hafter, evaluate_events_congr hshape htext, hvalue]

end Grid

namespace Update

variable (u : Update) (cyclic : Std.ExtTreeSet Address) (a : Address)

theorem events_foldl_push (events : List Event) :
    (events.foldl push u).events.toList = u.events.toList ++ events := by
  induction events generalizing u with
  | nil => exact (List.append_nil _).symm
  | cons e es ih => rw [List.foldl_cons, ih, toList_events_push, List.append_assoc, List.singleton_append]

theorem events_notify (p : Property) :
    (u.notify a p).events.toList = u.events.toList ++ u.grid.told p a := by
  unfold notify Grid.told
  cases u.grid.cell? a with
  | none => exact (List.append_nil _).symm
  | some c => exact toList_events_push

theorem events_recompute : (u.recompute cyclic a).events.toList = u.events.toList ++
    ((u.grid.evaluate cyclic a).2 ++ .recomputed a ((Grid.renew cyclic u.grid a).value a) ::
      (Grid.renew cyclic u.grid a).told .value a) := by
  have hgrid : ((((u.grid.evaluate cyclic a).2.foldl push u).push
      (.recomputed a (u.grid.evaluate cyclic a).1)).modify a
        ({ · with value := (u.grid.evaluate cyclic a).1 })).grid = Grid.renew cyclic u.grid a := by
    rw [modify, grid_push, grid_foldl_push]
    rfl
  rw [recompute_eq, events_notify, hgrid, modify, toList_events_push, events_foldl_push,
    Grid.value_renew_self]
  simp only [List.append_assoc, List.singleton_append]

theorem events_refresh : (u.refresh cyclic a).events.toList = u.events.toList ++
    Grid.block u.grid (Grid.renew cyclic u.grid a) cyclic a := by
  have hfound : ((Grid.renew cyclic u.grid a).evaluate cyclic a).2 = (u.grid.evaluate cyclic a).2 :=
    Grid.evaluate_events_congr (Grid.shape_renew ..) (Grid.text_renew ..)
  rw [refresh, events_recompute, events_notify, grid_notify, Grid.block, hfound, List.append_assoc]

/-- Each cell is told of its text before any renewal of it, and of its value after the only one. -/
theorem events_foldl_refresh {cyclic : Std.ExtTreeSet Address} (cells : List Address)
    (hnodup : cells.Nodup) :
    (cells.foldl (·.refresh cyclic ·) u).events.toList = u.events.toList ++
      cells.flatMap (Grid.block u.grid (cells.foldl (Grid.renew cyclic) u.grid) cyclic) := by
  induction cells generalizing u with
  | nil => exact (List.append_nil _).symm
  | cons c cs ih =>
    obtain ⟨hc, hcs⟩ := List.nodup_cons.1 hnodup
    have hfirst : Grid.block u.grid (Grid.renew cyclic u.grid c) cyclic c =
        Grid.block u.grid (cs.foldl (Grid.renew cyclic) (Grid.renew cyclic u.grid c)) cyclic c :=
      (Grid.block_congr (Grid.shape_foldl_renew ..) rfl
        (Grid.cell?_foldl_renew_of_not_mem _ _ _ _ hc)).symm
    have hlater : ∀ d ∈ cs,
        Grid.block (Grid.renew cyclic u.grid c)
          (cs.foldl (Grid.renew cyclic) (Grid.renew cyclic u.grid c)) cyclic d =
        Grid.block u.grid (cs.foldl (Grid.renew cyclic) (Grid.renew cyclic u.grid c)) cyclic d := by
      intro d hd
      refine Grid.block_congr rfl (Grid.cell?_renew_of_ne _ _ _ _ ?_) rfl
      rintro rfl
      exact hc hd
    rw [List.foldl_cons, ih _ hcs, grid_refresh, events_refresh, List.foldl_cons, List.flatMap_cons,
      hfirst, List.flatMap_congr hlater, List.append_assoc]

end Update

namespace Grid

section

variable (g : Grid) (a : Address) (text : String)

/-- The grid in which a text is entered and nothing renewed yet. Its cells are what listeners find
when they are told of texts. -/
def entered (g : Grid) (a : Address) (text : String) : Grid :=
  g.modify a fun c => { c with text := text, changed := true }

theorem cell?_entered_of_ne {c : Address} (hc : c ≠ a) : (g.entered a text).cell? c = g.cell? c := by
  rw [entered, cell?_modify, if_neg (Ne.symm hc)]

theorem assign_eq : g.assign a text = ((g.rebound a text).readers a).foldl
    (·.refresh ((g.rebound a text).graph.cyclicCells a) ·)
    (Update.recompute { Update.notify { grid := g.entered a text } a .text with
      grid := g.rebound a text } ((g.rebound a text).graph.cyclicCells a) a) := by
  have hgrid : (Update.notify { grid := g.entered a text } a .text).grid.rebind a =
      g.rebound a text := by
    rw [Update.grid_notify]
    rfl
  have hreaders : (Update.recompute { Update.notify { grid := g.entered a text } a .text with
      grid := g.rebound a text } ((g.rebound a text).graph.cyclicCells a) a).grid.readers a =
        (g.rebound a text).readers a := by
    rw [Update.grid_recompute, readers_renew]
  rw [← hreaders, ← hgrid]
  rfl

theorem events_assign : (g.assign a text).events.toList = (g.renewed a text).flatMap
    (block (g.entered a text) (g.assign a text).grid ((g.rebound a text).graph.cyclicCells a)) := by
  obtain ⟨ha, hreaders⟩ := List.nodup_cons.1 (nodup_renewed g a text)
  have htold : (Update.notify { grid := g.entered a text } a .text).events.toList =
      (g.entered a text).told .text a := Update.events_notify _ _ _
  have hfold : (g.assign a text).grid = ((g.rebound a text).readers a).foldl
      (renew ((g.rebound a text).graph.cyclicCells a))
      (renew ((g.rebound a text).graph.cyclicCells a) (g.rebound a text) a) := by
    rw [grid_assign_renewed, renewed, List.foldl_cons]
  -- The written cell is renewed first, and not again.
  have hwritten : block (g.entered a text)
        (renew ((g.rebound a text).graph.cyclicCells a) (g.rebound a text) a)
        ((g.rebound a text).graph.cyclicCells a) a =
      block (g.entered a text) (g.assign a text).grid ((g.rebound a text).graph.cyclicCells a) a := by
    rw [hfold]
    exact (block_congr (shape_foldl_renew ..) rfl
      (cell?_foldl_renew_of_not_mem _ _ _ _ ha)).symm
  have hreader : ∀ d ∈ (g.rebound a text).readers a,
      block (renew ((g.rebound a text).graph.cyclicCells a) (g.rebound a text) a)
        (g.assign a text).grid ((g.rebound a text).graph.cyclicCells a) d =
      block (g.entered a text) (g.assign a text).grid ((g.rebound a text).graph.cyclicCells a) d := by
    intro d hd
    have hda := ne_of_mem_readers hd
    refine block_congr rfl ?_ rfl
    rw [cell?_renew_of_ne _ _ _ _ (Ne.symm hda), cell?_rebound_of_ne hda,
      cell?_entered_of_ne _ _ _ hda]
  have hfound : ((renew ((g.rebound a text).graph.cyclicCells a) (g.rebound a text) a).evaluate
        ((g.rebound a text).graph.cyclicCells a) a).2 =
      ((g.rebound a text).evaluate ((g.rebound a text).graph.cyclicCells a) a).2 :=
    evaluate_events_congr (shape_renew ..) (text_renew ..)
  conv_lhs => rw [assign_eq]
  rw [Update.events_foldl_refresh _ _ hreaders, Update.events_recompute, Update.grid_recompute,
    htold, ← hfound, ← hfold, renewed, List.flatMap_cons, ← hwritten,
    List.flatMap_congr hreader]
  rfl

end

end Grid

end ReactiveGrid
