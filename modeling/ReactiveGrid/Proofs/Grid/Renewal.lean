import ReactiveGrid.Grid.Operation

/-!
# What entering a text does to texts and values

Entering a text writes one text, renews one link, and then renews the values of some cells one after
the other. Renewing a value writes that value and nothing else, so what a cell shows at the end is
what it was given when its turn came, and what it was given depends only on the cells renewed before.
-/

namespace ReactiveGrid

namespace Grid

theorem text_modify_of_eq {g : Grid} {a : Address} {f : Cell → Cell}
    (hf : ∀ c, (f c).text = c.text) (b : Address) : (g.modify a f).text b = g.text b := by
  unfold text
  rw [cell?_modify]
  split
  · cases g.cell? b with
    | none => rfl
    | some c => exact hf c
  · rfl

theorem value_modify_of_eq {g : Grid} {a : Address} {f : Cell → Cell}
    (hf : ∀ c, (f c).value = c.value) (b : Address) : (g.modify a f).value b = g.value b := by
  unfold value
  rw [cell?_modify]
  split
  · cases g.cell? b with
    | none => rfl
    | some c => exact hf c
  · rfl

theorem text_map_of_eq {g : Grid} {f : Cell → Cell} (hf : ∀ c, (f c).text = c.text)
    (a : Address) : text { g with cells := g.cells.map f } a = g.text a := by
  unfold text
  rw [cell?_map]
  cases g.cell? a with
  | none => rfl
  | some c => exact hf c

theorem value_map_of_eq {g : Grid} {f : Cell → Cell} (hf : ∀ c, (f c).value = c.value)
    (a : Address) : value { g with cells := g.cells.map f } a = g.value a := by
  unfold value
  rw [cell?_map]
  cases g.cell? a with
  | none => rfl
  | some c => exact hf c

theorem text_modify_of_ne {g : Grid} {a b : Address} {f : Cell → Cell} (h : a ≠ b) :
    (g.modify a f).text b = g.text b := by
  unfold text
  rw [cell?_modify, if_neg h]

theorem value_modify_of_ne {g : Grid} {a b : Address} {f : Cell → Cell} (h : a ≠ b) :
    (g.modify a f).value b = g.value b := by
  unfold value
  rw [cell?_modify, if_neg h]

theorem text_of_not_contains {g : Grid} {a : Address} (h : ¬ g.shape.Contains a) :
    g.text a = "" := by
  unfold text cell?
  rw [dif_neg h]
  rfl

theorem value_of_not_contains {g : Grid} {a : Address} (h : ¬ g.shape.Contains a) :
    g.value a = "" := by
  unfold value cell?
  rw [dif_neg h]
  rfl

theorem target?_empty (s : Shape) : s.target? "" = none := rfl

/-! ### The value of a text -/

theorem evaluate_of_target?_eq_none {g : Grid} {cyclic : Std.ExtTreeSet Address} {a : Address}
    (h : g.shape.target? (g.text a) = none) : (g.evaluate cyclic a).1 = g.text a := by
  unfold Shape.target? at h
  unfold evaluate
  cases hf : formula? (g.text a) with
  | none => simp only [hf]
  | some name =>
    rw [hf, Option.bind_some] at h
    simp only [hf, h]

theorem evaluate_of_target?_eq_some {g : Grid} {cyclic : Std.ExtTreeSet Address} {a t : Address}
    (h : g.shape.target? (g.text a) = some t) :
    (g.evaluate cyclic a).1 = if a ∈ cyclic then g.text a else g.value t := by
  obtain ⟨name, hf, hname⟩ := Option.bind_eq_some_iff.1 h
  unfold evaluate
  simp only [hf, hname]
  split <;> rfl

/-- What a text stands for is told by that text and, off the given cells, by the cell it refers to. -/
theorem evaluate_congr {g g' : Grid} {cyclic : Std.ExtTreeSet Address} {a : Address}
    (hshape : g'.shape = g.shape) (htext : g'.text a = g.text a)
    (hvalue : ∀ t, g.shape.target? (g.text a) = some t → a ∉ cyclic → g'.value t = g.value t) :
    (g'.evaluate cyclic a).1 = (g.evaluate cyclic a).1 := by
  have htarget : g'.shape.target? (g'.text a) = g.shape.target? (g.text a) := by
    rw [hshape, htext]
  cases ht : g.shape.target? (g.text a) with
  | none =>
    rw [ht] at htarget
    rw [evaluate_of_target?_eq_none htarget, evaluate_of_target?_eq_none ht, htext]
  | some t =>
    rw [ht] at htarget
    rw [evaluate_of_target?_eq_some htarget, evaluate_of_target?_eq_some ht, htext]
    split
    · rfl
    · next ha => exact hvalue t ht ha

def renew (cyclic : Std.ExtTreeSet Address) (g : Grid) (a : Address) : Grid :=
  g.modify a ({ · with value := (g.evaluate cyclic a).1 })

section

variable (cyclic : Std.ExtTreeSet Address) (g : Grid) (a b : Address)

@[simp] theorem shape_renew : (renew cyclic g a).shape = g.shape := shape_modify

@[simp] theorem propagation_renew : (renew cyclic g a).propagation = g.propagation :=
  propagation_modify

@[simp] theorem graph_renew : (renew cyclic g a).graph = g.graph := graph_modify

@[simp] theorem text_renew : (renew cyclic g a).text b = g.text b := by
  refine text_modify_of_eq ?_ b
  intro c
  rfl

theorem value_renew_of_ne (h : a ≠ b) : (renew cyclic g a).value b = g.value b :=
  value_modify_of_ne h

theorem readers_renew : (renew cyclic g a).readers b = g.readers b := by
  unfold readers
  simp only [propagation_renew, graph_renew]

theorem value_renew_self : (renew cyclic g a).value a = (g.evaluate cyclic a).1 := by
  by_cases h : g.shape.Contains a
  · unfold renew value
    rw [cell?_modify, if_pos rfl, cell?_of_contains h]
    rfl
  · have htext := text_of_not_contains h
    have hnone : g.shape.target? (g.text a) = none := by rw [htext, target?_empty]
    rw [evaluate_of_target?_eq_none hnone, htext]
    exact value_of_not_contains (by simpa using h)

end

/-! ### Renewing cells one after the other -/

section

variable (cyclic : Std.ExtTreeSet Address) (g : Grid) (cells : List Address)

/-- What renewing one cell keeps, renewing many keeps. -/
theorem foldl_renew_eq {α : Type} (view : Grid → α)
    (h : ∀ g a, view (renew cyclic g a) = view g) :
    view (cells.foldl (renew cyclic) g) = view g := by
  induction cells generalizing g with
  | nil => rfl
  | cons c cs ih => rw [List.foldl_cons, ih, h]

@[simp] theorem shape_foldl_renew : (cells.foldl (renew cyclic) g).shape = g.shape :=
  foldl_renew_eq cyclic g cells shape (shape_renew cyclic)

@[simp] theorem propagation_foldl_renew :
    (cells.foldl (renew cyclic) g).propagation = g.propagation :=
  foldl_renew_eq cyclic g cells propagation (propagation_renew cyclic)

@[simp] theorem graph_foldl_renew : (cells.foldl (renew cyclic) g).graph = g.graph :=
  foldl_renew_eq cyclic g cells graph (graph_renew cyclic)

@[simp] theorem text_foldl_renew (b : Address) :
    (cells.foldl (renew cyclic) g).text b = g.text b :=
  foldl_renew_eq cyclic g cells (fun g => g.text b) fun g a => text_renew cyclic g a b

theorem value_foldl_renew_of_not_mem {b : Address} (hb : b ∉ cells) :
    (cells.foldl (renew cyclic) g).value b = g.value b := by
  induction cells generalizing g with
  | nil => rfl
  | cons c cs ih =>
    rw [List.mem_cons, not_or] at hb
    rw [List.foldl_cons, ih _ hb.2, value_renew_of_ne _ _ _ _ (Ne.symm hb.1)]

/-- A cell that is not renewed again shows what its text stood for when it was its turn. -/
theorem value_foldl_renew {front back : List Address} {b : Address} (hb : b ∉ back) :
    ((front ++ b :: back).foldl (renew cyclic) g).value b =
      ((front.foldl (renew cyclic) g).evaluate cyclic b).1 := by
  rw [List.foldl_append, List.foldl_cons, value_foldl_renew_of_not_mem _ _ _ hb, value_renew_self]

theorem value_foldl_renew_append {front back : List Address} {b : Address} (hb : b ∉ back) :
    ((front ++ back).foldl (renew cyclic) g).value b = (front.foldl (renew cyclic) g).value b := by
  rw [List.foldl_append, value_foldl_renew_of_not_mem _ _ _ hb]

end

@[simp] theorem shape_rebind (g : Grid) (a : Address) : (g.rebind a).shape = g.shape :=
  shape_modify

@[simp] theorem propagation_rebind (g : Grid) (a : Address) :
    (g.rebind a).propagation = g.propagation :=
  propagation_modify

@[simp] theorem text_rebind (g : Grid) (a b : Address) : (g.rebind a).text b = g.text b := by
  refine text_modify_of_eq (g := g) (a := a) ?_ b
  intro c
  rfl

@[simp] theorem value_rebind (g : Grid) (a b : Address) : (g.rebind a).value b = g.value b := by
  refine value_modify_of_eq (g := g) (a := a) ?_ b
  intro c
  rfl

end Grid

/-! ### The grid behind an update -/

namespace Update

theorem grid_foldl_push (u : Update) (events : List Event) :
    (events.foldl push u).grid = u.grid := by
  induction events generalizing u with
  | nil => rfl
  | cons e es ih => rw [List.foldl_cons, ih, grid_push]

theorem recompute_eq (u : Update) (cyclic : Std.ExtTreeSet Address) (a : Address) :
    u.recompute cyclic a = ((((u.grid.evaluate cyclic a).2.foldl push u).push
      (.recomputed a (u.grid.evaluate cyclic a).1)).modify a
        ({ · with value := (u.grid.evaluate cyclic a).1 })).notify a .value := rfl

theorem grid_recompute (u : Update) (cyclic : Std.ExtTreeSet Address) (a : Address) :
    (u.recompute cyclic a).grid = Grid.renew cyclic u.grid a := by
  unfold recompute
  simp only [grid_notify, modify, grid_push, grid_foldl_push]
  rfl

theorem grid_refresh (u : Update) (cyclic : Std.ExtTreeSet Address) (a : Address) :
    (u.refresh cyclic a).grid = Grid.renew cyclic u.grid a := by
  rw [refresh, grid_recompute, grid_notify]

theorem grid_foldl_refresh (u : Update) (cyclic : Std.ExtTreeSet Address) (cells : List Address) :
    (cells.foldl (·.refresh cyclic ·) u).grid = cells.foldl (Grid.renew cyclic) u.grid := by
  induction cells generalizing u with
  | nil => rfl
  | cons c cs ih => rw [List.foldl_cons, ih, List.foldl_cons, grid_refresh]

/-- Recalculating renews the link of a cell, and then the cell and its readers in their order. -/
theorem grid_recalculate (u : Update) (a : Address) :
    (u.recalculate a).grid =
      (a :: (u.grid.rebind a).readers a).foldl
        (Grid.renew ((u.grid.rebind a).graph.cyclicCells a)) (u.grid.rebind a) := by
  unfold recalculate
  rw [grid_foldl_refresh, grid_recompute, List.foldl_cons, Grid.readers_renew]

end Update

namespace Grid

/-- The grid in which a text is entered and the link of its cell renewed, but no value yet. -/
def rebound (g : Grid) (a : Address) (text : String) : Grid :=
  (g.modify a fun c => { c with text := text, changed := true }).rebind a

section

variable (g : Grid) (a : Address) (text : String)

theorem grid_assign :
    (g.assign a text).grid = (a :: (g.rebound a text).readers a).foldl
      (renew ((g.rebound a text).graph.cyclicCells a)) (g.rebound a text) := by
  unfold assign
  rw [Update.grid_recalculate, Update.grid_notify]
  rfl

@[simp] theorem shape_rebound : (g.rebound a text).shape = g.shape := by
  rw [rebound, shape_rebind, shape_modify]

@[simp] theorem propagation_rebound : (g.rebound a text).propagation = g.propagation := by
  rw [rebound, propagation_rebind, propagation_modify]

@[simp] theorem value_rebound (c : Address) : (g.rebound a text).value c = g.value c := by
  rw [rebound, value_rebind]
  refine value_modify_of_eq ?_ c
  intro c
  rfl

theorem text_rebound_of_ne {c : Address} (h : c ≠ a) : (g.rebound a text).text c = g.text c := by
  rw [rebound, text_rebind, text_modify_of_ne (Ne.symm h)]

theorem shape_assign : (g.assign a text).grid.shape = g.shape := by
  rw [grid_assign, shape_foldl_renew, shape_rebound]

theorem propagation_assign : (g.assign a text).grid.propagation = g.propagation := by
  rw [grid_assign, propagation_foldl_renew, propagation_rebound]

theorem graph_assign : (g.assign a text).grid.graph = (g.rebound a text).graph := by
  rw [grid_assign, graph_foldl_renew]

theorem text_assign (c : Address) :
    (g.assign a text).grid.text c = (g.rebound a text).text c := by
  rw [grid_assign, text_foldl_renew]

end

section

variable {g : Grid} {a c : Address} {text : String}

theorem text_assign_self (ha : g.shape.Contains a) : (g.assign a text).grid.text a = text := by
  rw [text_assign, rebound, text_rebind]
  unfold Grid.text
  rw [cell?_modify, if_pos rfl, cell?_of_contains ha]
  rfl

theorem text_assign_of_ne (hc : c ≠ a) : (g.assign a text).grid.text c = g.text c := by
  rw [text_assign, text_rebound_of_ne _ _ _ hc]

end

end Grid

end ReactiveGrid
