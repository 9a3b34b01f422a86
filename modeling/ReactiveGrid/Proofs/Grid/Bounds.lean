import ReactiveGrid.Proofs.Dependency.Order
import ReactiveGrid.Proofs.Grid.Links

/-!
# No operation looks outside the grid

The operations look cells up by their addresses, and go on with an empty text, or with nothing to
change, where there is no cell. Here they are written once more in a strict form, which stops at the
first such address. On a grid that was built up by operations the strict form never stops, whatever
is called, and does the same: an address that is looked up was checked, or a text of the grid refers
to it, or the graph has it as a dependent.
-/

namespace ReactiveGrid
open Dependency

/-! ### The strict form -/

namespace Grid

def modify? (g : Grid) (a : Address) (f : Cell → Cell) : Option Grid :=
  (g.cell? a).map fun _ => g.modify a f

def evaluate? (g : Grid) (cyclic : Std.ExtTreeSet Address) (a : Address) :
    Option (String × List Event) :=
  (g.cell? a).bind fun c =>
    match formula? c.text with
    | none => some (c.text, [])
    | some name =>
      match g.shape.resolve? name with
      | none => some (c.text, [.unresolved a c.text])
      | some target =>
        if a ∈ cyclic then some (c.text, [.circular a c.text])
        else (g.cell? target).map fun t => (t.value, [])

def rebind? (g : Grid) (a : Address) : Option Grid :=
  (g.cell? a).bind fun c =>
    let target := g.shape.target? c.text
    let cleared := g.graph.clear a
    let graph := match target with
      | some t => cleared.link t a
      | none => cleared
    (g.modify? a ({ · with reference := target })).map ({ · with graph := graph })

end Grid

namespace Update

def modify? (u : Update) (a : Address) (f : Cell → Cell) : Option Update :=
  (u.grid.modify? a f).map ({ u with grid := · })

def notify? (u : Update) (a : Address) (p : Property) : Option Update :=
  (u.grid.cell? a).map fun c => u.push (.notified c p)

def recompute? (u : Update) (cyclic : Std.ExtTreeSet Address) (a : Address) : Option Update :=
  (u.grid.evaluate? cyclic a).bind fun (value, events) =>
    let u := (events.foldl push u).push (.recomputed a value)
    (u.modify? a ({ · with value := value })).bind (·.notify? a .value)

def refresh? (u : Update) (cyclic : Std.ExtTreeSet Address) (a : Address) : Option Update :=
  (u.notify? a .text).bind (·.recompute? cyclic a)

def recalculate? (u : Update) (a : Address) : Option Update :=
  (u.grid.rebind? a).bind fun g =>
    let cyclic := g.graph.cyclicCells a
    (recompute? { u with grid := g } cyclic a).bind fun u =>
      (u.grid.readers a).foldlM (·.refresh? cyclic ·) u

end Update

namespace Grid

def assign? (g : Grid) (a : Address) (text : String) : Option Update :=
  let u : Update := { grid := g }
  (u.modify? a fun c => { c with text := text, changed := true }).bind fun u =>
    (u.notify? a .text).bind (·.recalculate? a)

def paint? (g : Grid) (a : Address) (color : UInt32) : Option Update :=
  let u : Update := { grid := g }
  (u.modify? a fun c => { c with color := color, changed := true }).bind
    (·.notify? a .backgroundColor)

def applyAt? (g : Grid) (a : Address) (f : Grid → Option Transition) : Option Transition :=
  match g.shape.check a with
  | .error cause => some (.refused g cause)
  | .ok () => f g

def operate? (g : Grid) : Operation → Option Transition
  | .setText a text => g.applyAt? a fun g => (g.assign? a text).map .ofUpdate
  | .setTextByName name text =>
    match Address.ofName name with
    | .error cause => some (.refused g cause)
    | .ok a => g.applyAt? a fun g => (g.assign? a text).map .ofUpdate
  | .setColor a color => g.applyAt? a fun g => (g.paint? a color).map .ofUpdate
  | .listen a =>
    g.applyAt? a fun g =>
      (g.cell? a).bind fun c =>
        (g.modify? a Cell.listen).map fun g' =>
          { outcome := .ok (.listening c.nextListener), grid := g' }
  | .unlisten a id =>
    g.applyAt? a fun g =>
      (g.cell? a).bind fun c =>
        (g.modify? a (·.unlisten id)).map fun g' =>
          { outcome := .ok (.removed (c.hasListener id)), grid := g' }
  | .markSaved => some { outcome := .ok .done, grid := g.markSaved }

end Grid

/-! ### It does not stop -/

namespace Grid

variable {g : Grid} {a : Address}

theorem exists_cell (h : g.shape.Contains a) : ∃ c, g.cell? a = some c :=
  ⟨g.cellAt a h, cell?_of_contains h⟩

theorem modify?_eq (h : g.shape.Contains a) (f : Cell → Cell) :
    g.modify? a f = some (g.modify a f) := by
  obtain ⟨c, hc⟩ := exists_cell h
  rw [modify?, hc, Option.map_some]

theorem evaluate?_eq (h : g.shape.Contains a) (cyclic : Std.ExtTreeSet Address) :
    g.evaluate? cyclic a = some (g.evaluate cyclic a) := by
  obtain ⟨c, hc⟩ := exists_cell h
  have htext := text_of_cell? hc
  unfold evaluate? evaluate
  cases hf : formula? c.text with
  | none => simp only [hc, htext, hf, Option.bind_some]
  | some name =>
    cases hname : g.shape.resolve? name with
    | none => simp only [hc, htext, hf, hname, Option.bind_some]
    | some t =>
      obtain ⟨target, htarget⟩ := exists_cell (Shape.contains_of_resolve? hname)
      simp only [hc, htext, hf, hname, htarget, value_of_cell? htarget, Option.bind_some,
        Option.map_some]
      split <;> rfl

theorem rebind?_eq (h : g.shape.Contains a) : g.rebind? a = some (g.rebind a) := by
  obtain ⟨c, hc⟩ := exists_cell h
  have htext : c.text = g.text a := (text_of_cell? hc).symm
  unfold rebind?
  rw [hc, Option.bind_some]
  dsimp only
  rw [htext, modify?_eq h, Option.map_some]
  rfl

theorem Linked.contains_of_reaches (h : g.Linked) (ha : g.shape.Contains a) {d : Address}
    (hd : g.graph.Reaches a d) : g.shape.Contains d :=
  hd.mem_of_closed (fun _ _ _ hpq => (h.contains_of_feeds hpq).2) ha

theorem Linked.contains_of_mem_readers (h : g.Linked) (ha : g.shape.Contains a) {d : Address}
    (hd : d ∈ g.readers a) : g.shape.Contains d := by
  unfold readers at hd
  split at hd
  · exact h.contains_of_reaches ha (Graph.mem_recalculationOrder.1 hd).2
  · exact (h.contains_of_feeds (List.mem_filter.1 hd).1).2

end Grid

namespace Update

variable {u : Update} {a : Address}

theorem modify?_eq (h : u.grid.shape.Contains a) (f : Cell → Cell) :
    u.modify? a f = some (u.modify a f) := by
  rw [modify?, Grid.modify?_eq h, Option.map_some]
  rfl

theorem notify?_eq (h : u.grid.shape.Contains a) (p : Property) :
    u.notify? a p = some (u.notify a p) := by
  obtain ⟨c, hc⟩ := Grid.exists_cell h
  unfold notify? notify
  rw [hc, Option.map_some]

theorem recompute?_eq (h : u.grid.shape.Contains a) (cyclic : Std.ExtTreeSet Address) :
    u.recompute? cyclic a = some (u.recompute cyclic a) := by
  unfold recompute? recompute
  rw [Grid.evaluate?_eq h, Option.bind_some]
  generalize u.grid.evaluate cyclic a = result
  obtain ⟨value, events⟩ := result
  have hshape : ((events.foldl push u).push (.recomputed a value)).grid.shape = u.grid.shape := by
    rw [grid_push, grid_foldl_push]
  simp only
  rw [modify?_eq (by rwa [hshape]), Option.bind_some]
  refine notify?_eq ?_ _
  rw [modify, Grid.shape_modify]
  rwa [hshape]

theorem refresh?_eq (h : u.grid.shape.Contains a) (cyclic : Std.ExtTreeSet Address) :
    u.refresh? cyclic a = some (u.refresh cyclic a) := by
  unfold refresh? refresh
  rw [notify?_eq h, Option.bind_some]
  exact recompute?_eq (by rwa [grid_notify]) cyclic

theorem foldlM_refresh?_eq (cyclic : Std.ExtTreeSet Address) (cells : List Address)
    (h : ∀ d ∈ cells, u.grid.shape.Contains d) :
    cells.foldlM (·.refresh? cyclic ·) u = some (cells.foldl (·.refresh cyclic ·) u) := by
  induction cells generalizing u with
  | nil => rfl
  | cons d ds ih =>
    rw [List.foldlM_cons, refresh?_eq (h d (List.mem_cons_self ..)), List.foldl_cons]
    refine ih fun e he => ?_
    rw [grid_refresh, Grid.shape_renew]
    exact h e (List.mem_cons_of_mem _ he)

/-- Once the link of the cell is renewed, the graph has no address outside. -/
theorem recalculate?_eq (h : u.grid.shape.Contains a) (hlinked : (u.grid.rebind a).Linked) :
    u.recalculate? a = some (u.recalculate a) := by
  have ha : (u.grid.rebind a).shape.Contains a := by rwa [Grid.shape_rebind]
  unfold recalculate? recalculate
  simp only
  rw [Grid.rebind?_eq h, Option.bind_some, recompute?_eq ha, Option.bind_some]
  refine foldlM_refresh?_eq _ _ fun d hd => ?_
  rw [grid_recompute, Grid.readers_renew] at hd
  rw [grid_recompute, Grid.shape_renew]
  exact hlinked.contains_of_mem_readers ha hd

end Update

namespace Grid

variable {g : Grid} {a : Address}

theorem assign?_eq (h : g.Linked) (ha : g.shape.Contains a) (text : String) :
    g.assign? a text = some (g.assign a text) := by
  have ha' : (g.modify a fun c => { c with text := text, changed := true }).shape.Contains a := by
    rwa [shape_modify]
  unfold assign? assign
  simp only
  rw [Update.modify?_eq ha, Option.bind_some, Update.notify?_eq ha', Option.bind_some]
  refine Update.recalculate?_eq (by rwa [Update.grid_notify]) ?_
  rw [Update.grid_notify]
  exact h.rebound a text

theorem paint?_eq (ha : g.shape.Contains a) (color : UInt32) :
    g.paint? a color = some (g.paint a color) := by
  unfold paint? paint
  simp only
  rw [Update.modify?_eq ha, Option.bind_some]
  refine Update.notify?_eq ?_ _
  rwa [Update.modify, shape_modify]

theorem applyAt?_eq {f? : Grid → Option Transition} {f : Grid → Transition}
    (h : g.shape.Contains a → f? g = some (f g)) : g.applyAt? a f? = some (g.applyAt a f) := by
  unfold applyAt? applyAt
  cases hcheck : g.shape.check a with
  | error cause => rfl
  | ok => exact h (Shape.check_eq_ok_iff.1 hcheck)

theorem operate?_eq (h : g.Linked) (op : Operation) : g.operate? op = some (g.apply op) := by
  cases op with
  | setText a text =>
    simp only [operate?, apply]
    refine applyAt?_eq fun ha => ?_
    rw [assign?_eq h ha, Option.map_some]
  | setTextByName name text =>
    cases hname : Address.ofName name with
    | error cause => simp only [operate?, apply, hname]
    | ok a =>
      simp only [operate?, apply, hname]
      refine applyAt?_eq fun ha => ?_
      rw [assign?_eq h ha, Option.map_some]
  | setColor a color =>
    simp only [operate?, apply]
    refine applyAt?_eq fun ha => ?_
    rw [paint?_eq ha, Option.map_some]
  | listen a =>
    simp only [operate?, apply]
    refine applyAt?_eq fun ha => ?_
    obtain ⟨c, hc⟩ := exists_cell ha
    simp only [hc, Option.bind_some, modify?_eq ha, Option.map_some, nextListener, Option.getD_some]
  | unlisten a id =>
    simp only [operate?, apply]
    refine applyAt?_eq fun ha => ?_
    obtain ⟨c, hc⟩ := exists_cell ha
    simp only [hc, Option.bind_some, modify?_eq ha, Option.map_some, hasListener, Option.any_some]
  | markSaved => rfl

/-- After every run the links of a grid are those of its texts. A cell of the grid whose text names an
address inside reads that address alone, and keeps its name; every other address reads nothing. The
dependents of an address are, in address order, the cells whose texts name it. So all that is linked
lies inside the grid, and no operation looks a cell up that does not exist. -/
theorem links_follow_texts (s : Shape) (m : Propagation) (ops : List Operation) :
    let g := (blank s m).run ops
    (∀ a t, s.Contains a → s.Names (g.text a) t →
      g.graph.precedents a = [t] ∧ (g.cell? a).map Cell.referencedNames = some [t.name]) ∧
    (∀ a, ¬ (s.Contains a ∧ ∃ t, s.Names (g.text a) t) →
      g.graph.precedents a = [] ∧ ∀ c, g.cell? a = some c → c.referencedNames = []) ∧
    (∀ a, (g.graph.dependents a).Pairwise (fun p q => compare p q = .lt) ∧
      ∀ d, d ∈ g.graph.dependents a ↔ s.Contains d ∧ s.Names (g.text d) a) ∧
    (∀ p d, d ∈ g.graph.dependents p ∨ p ∈ g.graph.precedents d → s.Contains p ∧ s.Contains d) ∧
    ∀ op, g.operate? op = some (g.apply op) := by
  intro g
  have h : g.Sound := sound_run s m ops
  have hshape : g.shape = s := shape_run (blank s m) ops
  have hprecedents := h.linked.precedents_eq
  refine ⟨?_, ?_, ?_, ?_, fun op => operate?_eq h.linked op⟩
  · intro a t ha ht
    have htarget : g.shape.target? (g.text a) = some t := by
      rw [hshape]
      exact Shape.target?_eq_some_iff.2 ht
    obtain ⟨c, hc⟩ := exists_cell (hshape ▸ ha)
    rw [hprecedents, hc, Option.map_some, h.referencedNames_eq hc, htarget]
    exact ⟨rfl, rfl⟩
  · intro a hnone
    have htarget : g.shape.target? (g.text a) = none := by
      by_cases ha : g.shape.Contains a
      · rw [hshape, Shape.target?_eq_none_iff]
        exact fun ht => hnone ⟨hshape ▸ ha, ht⟩
      · rw [text_of_not_contains ha, target?_empty]
    refine ⟨by rw [hprecedents, htarget]; rfl, fun c hc => ?_⟩
    rw [h.referencedNames_eq hc, htarget]
    rfl
  · intro a
    refine ⟨g.graph.pairwise_dependents a, fun d => ?_⟩
    rw [h.linked.mem_dependents_iff, hshape]
  · intro p d hpd
    rw [Graph.mem_precedents, or_self] at hpd
    rw [← hshape]
    exact h.linked.contains_of_feeds hpd

/-- B1 refers to A1, so it reads that cell, and is the dependent of it. -/
theorem links_follow_texts_of_reference :
    let g := (blank ⟨1, 2, by decide⟩ .singleHop).run [.setText ⟨0, 1⟩ "=A1"]
    g.text ⟨0, 1⟩ = "=A1" ∧ g.graph.precedents ⟨0, 1⟩ = [⟨0, 0⟩] ∧
      ⟨0, 1⟩ ∈ g.graph.dependents ⟨0, 0⟩ := by
  intro g
  have htext : g.text ⟨0, 1⟩ = "=A1" := text_setText (by decide)
  have hnames : Shape.Names ⟨1, 2, by decide⟩ (g.text ⟨0, 1⟩) ⟨0, 0⟩ :=
    ⟨"A1", htext, rfl, by decide⟩
  obtain ⟨hreads, -, hread, -⟩ :=
    links_follow_texts ⟨1, 2, by decide⟩ .singleHop [.setText ⟨0, 1⟩ "=A1"]
  exact ⟨htext, (hreads _ _ (by decide) hnames).1, ((hread _).2 _).2 ⟨by decide, hnames⟩⟩

end Grid

end ReactiveGrid
