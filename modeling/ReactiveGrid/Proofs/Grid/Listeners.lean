import ReactiveGrid.Proofs.Grid.Cells

/-!
# Listeners only observe

Nothing that is done to a grid depends on who listens. Two grids that differ in the listeners of some
cells stay alike but for these listeners, whatever is called on both, and the same is logged. So calls
that register or remove listeners can be left out of a run: what differs afterwards is what further
such calls on the same cells answer, and nothing else.
-/

namespace ReactiveGrid

/-- The cell as it is without any listeners. -/
def Cell.muted (c : Cell) : Cell :=
  { c with listeners := [], nextListener := 0 }

theorem Cell.map_muted_of_eq {f : Cell → Cell} (hf : ∀ c, (f c).muted = c.muted)
    (c? : Option Cell) : (c?.map f).map Cell.muted = c?.map Cell.muted := by
  rw [Option.map_map, show Cell.muted ∘ f = Cell.muted from funext hf]

/-- A change that does not depend on listeners can be seen on the cells without them. -/
theorem Cell.map_muted_of_muted {f : Cell → Cell} (hf : ∀ c, (f c).muted = (f c.muted).muted)
    (c? : Option Cell) :
    (c?.map f).map Cell.muted = ((c?.map Cell.muted).map f).map Cell.muted := by
  simp only [Option.map_map]
  rw [show Cell.muted ∘ f = Cell.muted ∘ f ∘ Cell.muted from funext hf]

/-- The cell of which a listener is registered or removed. -/
def Operation.listenedCell? : Operation → Option Address
  | listen a => some a
  | unlisten a _ => some a
  | _ => none

/-- The second run is the first without some of the calls that register or remove listeners. All that
are left out concern the given cells. -/
inductive LeavesOutListening (cells : Address → Prop) : List Operation → List Operation → Prop where
  | nil : LeavesOutListening cells [] []
  | keep (op : Operation) (ops ops' : List Operation) (h : LeavesOutListening cells ops ops') :
      LeavesOutListening cells (op :: ops) (op :: ops')
  | leaveOut (op : Operation) (a : Address) (ops ops' : List Operation)
      (hop : op.listenedCell? = some a) (ha : cells a) (h : LeavesOutListening cells ops ops') :
      LeavesOutListening cells (op :: ops) ops'

/-! ### Grids -/

namespace Grid

/-- The two grids differ at most in the listeners of the given cells. -/
structure SameButListeners (cells : Address → Prop) (g g' : Grid) : Prop where
  shape_eq : g'.shape = g.shape
  propagation_eq : g'.propagation = g.propagation
  graph_eq : g'.graph = g.graph
  muted_eq : ∀ a, (g'.cell? a).map Cell.muted = (g.cell? a).map Cell.muted
  cell_eq : ∀ a, ¬ cells a → g'.cell? a = g.cell? a

theorem text_eq_of_muted (g : Grid) (a : Address) :
    g.text a = (((g.cell? a).map Cell.muted).map (·.text)).getD "" := by
  unfold text
  rw [Option.map_map]
  rfl

theorem value_eq_of_muted (g : Grid) (a : Address) :
    g.value a = (((g.cell? a).map Cell.muted).map (·.value)).getD "" := by
  unfold value
  rw [Option.map_map]
  rfl

theorem Alike.evaluate_eq {g g' : Grid} (h : g.Alike g') (cyclic : Std.ExtTreeSet Address)
    (a : Address) : g'.evaluate cyclic a = g.evaluate cyclic a := by
  unfold evaluate
  simp only [h.text_eq, h.shape_eq, h.value_eq]

theorem Alike.readers_eq {g g' : Grid} (h : g.Alike g') (a : Address) :
    g'.readers a = g.readers a := by
  unfold readers
  rw [h.propagation_eq, h.graph_eq]

namespace SameButListeners

variable {cells : Address → Prop} {g g' : Grid}

theorem refl (cells : Address → Prop) (g : Grid) : SameButListeners cells g g :=
  ⟨rfl, rfl, rfl, fun _ => rfl, fun _ _ => rfl⟩

theorem alike (h : SameButListeners cells g g') : g.Alike g' where
  shape_eq := h.shape_eq
  propagation_eq := h.propagation_eq
  graph_eq := h.graph_eq
  text_eq := by
    intro a
    rw [text_eq_of_muted, text_eq_of_muted g, h.muted_eq]
  value_eq := by
    intro a
    rw [value_eq_of_muted, value_eq_of_muted g, h.muted_eq]

/-- Both cells are changed in the same way, which does not depend on listeners. -/
theorem modify (h : SameButListeners cells g g') (a : Address) {f : Cell → Cell}
    (hf : ∀ c, (f c).muted = (f c.muted).muted) :
    SameButListeners cells (g.modify a f) (g'.modify a f) where
  shape_eq := by rw [shape_modify, shape_modify, h.shape_eq]
  propagation_eq := by rw [propagation_modify, propagation_modify, h.propagation_eq]
  graph_eq := by rw [graph_modify, graph_modify, h.graph_eq]
  muted_eq := by
    intro b
    rw [cell?_modify, cell?_modify]
    split
    · rw [Cell.map_muted_of_muted hf, h.muted_eq, ← Cell.map_muted_of_muted hf]
    · exact h.muted_eq b
  cell_eq := by
    intro b hb
    rw [cell?_modify, cell?_modify, h.cell_eq b hb]

/-- Only the listeners of one of the given cells are changed, and only in the first grid. -/
theorem modify_left (h : SameButListeners cells g g') {a : Address} (ha : cells a) {f : Cell → Cell}
    (hf : ∀ c, (f c).muted = c.muted) : SameButListeners cells (g.modify a f) g' where
  shape_eq := by rw [shape_modify, h.shape_eq]
  propagation_eq := by rw [propagation_modify, h.propagation_eq]
  graph_eq := by rw [graph_modify, h.graph_eq]
  muted_eq := by
    intro b
    rw [cell?_modify]
    split
    · rw [Cell.map_muted_of_eq hf, h.muted_eq]
    · exact h.muted_eq b
  cell_eq := by
    intro b hb
    have hne : a ≠ b := by
      rintro rfl
      exact hb ha
    rw [cell?_modify, if_neg hne, h.cell_eq b hb]

theorem map (cells : Address → Prop) (hcells : ∀ a, cells a) (g : Grid) {f : Cell → Cell}
    (hf : ∀ c, (f c).muted = c.muted) :
    SameButListeners cells g { g with cells := g.cells.map f } where
  shape_eq := rfl
  propagation_eq := rfl
  graph_eq := rfl
  muted_eq := by
    intro a
    rw [cell?_map, Cell.map_muted_of_eq hf]
  cell_eq := fun a ha => absurd (hcells a) ha

theorem markSaved (h : SameButListeners cells g g') :
    SameButListeners cells g.markSaved g'.markSaved where
  shape_eq := h.shape_eq
  propagation_eq := h.propagation_eq
  graph_eq := h.graph_eq
  muted_eq := by
    intro a
    unfold Grid.markSaved
    rw [cell?_map, cell?_map, Cell.map_muted_of_muted fun _ => rfl, h.muted_eq,
      ← Cell.map_muted_of_muted fun _ => rfl]
  cell_eq := by
    intro a ha
    unfold Grid.markSaved
    rw [cell?_map, cell?_map, h.cell_eq a ha]

/-- The reference that a text makes does not depend on listeners, and neither do the links. -/
theorem rebind (h : SameButListeners cells g g') (a : Address) :
    SameButListeners cells (g.rebind a) (g'.rebind a) := by
  have htarget : g'.shape.target? (g'.text a) = g.shape.target? (g.text a) := by
    rw [h.shape_eq, h.alike.text_eq]
  have hmodify := h.modify a (f := ({ · with reference := g.shape.target? (g.text a) }))
    fun _ => rfl
  have hcell : ∀ b, (g'.rebind a).cell? b =
      (g'.modify a ({ · with reference := g.shape.target? (g.text a) })).cell? b := by
    intro b
    rw [cell?_rebind, cell?_modify, htarget]
  have hcell' : ∀ b, (g.rebind a).cell? b =
      (g.modify a ({ · with reference := g.shape.target? (g.text a) })).cell? b :=
    fun _ => rfl
  constructor
  case shape_eq => rw [shape_rebind, shape_rebind, h.shape_eq]
  case propagation_eq => rw [propagation_rebind, propagation_rebind, h.propagation_eq]
  case graph_eq =>
    unfold Grid.rebind
    simp only [htarget, h.graph_eq]
  case muted_eq =>
    intro b
    rw [hcell, hcell', hmodify.muted_eq]
  case cell_eq =>
    intro b hb
    rw [hcell, hcell', hmodify.cell_eq b hb]

end SameButListeners

end Grid

/-! ### Updates -/

namespace Update

structure SameButListeners (cells : Address → Prop) (u u' : Update) : Prop where
  grid : u.grid.SameButListeners cells u'.grid
  records_eq : u'.events.toList.map Event.record = u.events.toList.map Event.record

namespace SameButListeners

variable {cells : Address → Prop} {u u' : Update}

theorem modify (h : SameButListeners cells u u') (a : Address) {f : Cell → Cell}
    (hf : ∀ c, (f c).muted = (f c.muted).muted) :
    SameButListeners cells (u.modify a f) (u'.modify a f) :=
  ⟨h.grid.modify a hf, h.records_eq⟩

theorem push (h : SameButListeners cells u u') {e e' : Event} (he : e'.record = e.record) :
    SameButListeners cells (u.push e) (u'.push e') where
  grid := h.grid
  records_eq := by
    rw [toList_events_push, toList_events_push, List.map_append, List.map_append, h.records_eq,
      List.map_singleton, List.map_singleton, he]

theorem foldl_push (h : SameButListeners cells u u') (events : List Event) :
    SameButListeners cells (events.foldl Update.push u) (events.foldl Update.push u') := by
  induction events generalizing u u' with
  | nil => exact h
  | cons e es ih => exact ih (h.push rfl)

/-- What is logged of a cell is its name, and that does not depend on listeners. -/
theorem notify (h : SameButListeners cells u u') (a : Address) (p : Property) :
    SameButListeners cells (u.notify a p) (u'.notify a p) := by
  have hmuted := h.grid.muted_eq a
  unfold Update.notify
  cases hc : u.grid.cell? a with
  | none =>
    rw [hc, Option.map_none, Option.map_eq_none_iff] at hmuted
    simp only [hmuted]
    exact h
  | some c =>
    rw [hc, Option.map_some] at hmuted
    obtain ⟨c', hc', heq⟩ := Option.map_eq_some_iff.1 hmuted
    have haddress : c'.muted.address = c.muted.address := congrArg Cell.address heq
    simp only [hc']
    have hname : c'.name = c.name := congrArg Address.name haddress
    refine h.push ?_
    simp only [Event.record, hname]

theorem recompute (h : SameButListeners cells u u') (cyclic : Std.ExtTreeSet Address)
    (a : Address) : SameButListeners cells (u.recompute cyclic a) (u'.recompute cyclic a) := by
  rw [recompute_eq, recompute_eq, h.grid.alike.evaluate_eq]
  exact (((h.foldl_push _).push rfl).modify a fun _ => rfl).notify a .value

theorem refresh (h : SameButListeners cells u u') (cyclic : Std.ExtTreeSet Address)
    (a : Address) : SameButListeners cells (u.refresh cyclic a) (u'.refresh cyclic a) :=
  (h.notify a .text).recompute cyclic a

theorem foldl_refresh (h : SameButListeners cells u u') (cyclic : Std.ExtTreeSet Address)
    (readers : List Address) :
    SameButListeners cells (readers.foldl (·.refresh cyclic ·) u)
      (readers.foldl (·.refresh cyclic ·) u') := by
  induction readers generalizing u u' with
  | nil => exact h
  | cons d ds ih =>
    rw [List.foldl_cons, List.foldl_cons]
    exact ih (h.refresh cyclic d)

/-- The links are renewed alike, so the same cells lie on cycles and the same readers follow. -/
theorem recalculate (h : SameButListeners cells u u') (a : Address) :
    SameButListeners cells (u.recalculate a) (u'.recalculate a) := by
  have hrebind := h.grid.rebind a
  have hrebound : SameButListeners cells { u with grid := u.grid.rebind a }
      { u' with grid := u'.grid.rebind a } := ⟨hrebind, h.records_eq⟩
  have hrecompute := hrebound.recompute ((u.grid.rebind a).graph.cyclicCells a) a
  unfold Update.recalculate
  simp only
  rw [hrebind.graph_eq, hrecompute.grid.alike.readers_eq]
  exact hrecompute.foldl_refresh _ _

end SameButListeners

end Update

/-! ### Operations -/

structure Transition.SameButListeners (cells : Address → Prop) (t t' : Transition) : Prop where
  grid : t.grid.SameButListeners cells t'.grid
  records_eq : t'.events.map Event.record = t.events.map Event.record
  refused_iff : ∀ cause, t'.outcome = .error cause ↔ t.outcome = .error cause

theorem Update.SameButListeners.transition {cells : Address → Prop} {u u' : Update}
    (h : u.SameButListeners cells u') :
    Transition.SameButListeners cells (.ofUpdate u) (.ofUpdate u') :=
  ⟨h.grid, h.records_eq, fun _ => Iff.rfl⟩

namespace Grid.SameButListeners

variable {cells : Address → Prop} {g g' : Grid}

theorem update (h : SameButListeners cells g g') :
    Update.SameButListeners cells { grid := g } { grid := g' } :=
  ⟨h, rfl⟩

theorem assign (h : SameButListeners cells g g') (a : Address) (text : String) :
    (g.assign a text).SameButListeners cells (g'.assign a text) := by
  have hentered := h.update.modify a (f := fun c => { c with text := text, changed := true })
    fun _ => rfl
  unfold Grid.assign
  exact (hentered.notify a .text).recalculate a

theorem paint (h : SameButListeners cells g g') (a : Address) (color : UInt32) :
    (g.paint a color).SameButListeners cells (g'.paint a color) := by
  have hpainted := h.update.modify a (f := fun c => { c with color := color, changed := true })
    fun _ => rfl
  unfold Grid.paint
  exact hpainted.notify a .backgroundColor

theorem applyAt (h : SameButListeners cells g g') (a : Address) {f : Grid → Transition}
    (hf : (f g).SameButListeners cells (f g')) :
    (g.applyAt a f).SameButListeners cells (g'.applyAt a f) := by
  unfold Grid.applyAt
  rw [h.shape_eq]
  cases g.shape.check a with
  | error cause => exact ⟨h, rfl, fun _ => Iff.rfl⟩
  | ok => exact hf

theorem apply (h : SameButListeners cells g g') (op : Operation) :
    (g.apply op).SameButListeners cells (g'.apply op) := by
  unfold Grid.apply
  cases op with
  | setText a text =>
    refine h.applyAt a ?_
    exact (h.assign a text).transition
  | setTextByName name text =>
    simp only
    cases Address.ofName name with
    | error cause => exact ⟨h, rfl, fun _ => Iff.rfl⟩
    | ok a =>
      refine h.applyAt a ?_
      exact (h.assign a text).transition
  | setColor a color =>
    refine h.applyAt a ?_
    exact (h.paint a color).transition
  | listen a =>
    refine h.applyAt a ⟨h.modify a (f := Cell.listen) fun _ => rfl, rfl, fun cause => ?_⟩
    simp only [reduceCtorEq]
  | unlisten a id =>
    refine h.applyAt a ⟨h.modify a (f := (·.unlisten id)) fun _ => rfl, rfl, fun cause => ?_⟩
    simp only [reduceCtorEq]
  | markSaved => exact ⟨h.markSaved, rfl, fun _ => Iff.rfl⟩

theorem outcome_applyAt (h : SameButListeners cells g g') (a : Address) {f : Grid → Transition}
    (hf : (f g').outcome = (f g).outcome) :
    (g'.applyAt a f).outcome = (g.applyAt a f).outcome := by
  unfold Grid.applyAt
  rw [h.shape_eq]
  cases g.shape.check a with
  | error cause => rfl
  | ok => exact hf

/-- Only what is answered about the listeners of the given cells may differ. -/
theorem outcome_apply (h : SameButListeners cells g g') {op : Operation}
    (hop : ∀ a, op.listenedCell? = some a → ¬ cells a) :
    (g'.apply op).outcome = (g.apply op).outcome := by
  unfold Grid.apply
  cases op with
  | setText a text =>
    refine h.outcome_applyAt a ?_
    simp only [Transition.ofUpdate]
  | setTextByName name text =>
    simp only
    cases Address.ofName name with
    | error cause => rfl
    | ok a =>
      refine h.outcome_applyAt a ?_
      simp only [Transition.ofUpdate]
  | setColor a color =>
    refine h.outcome_applyAt a ?_
    simp only [Transition.ofUpdate]
  | listen a =>
    refine h.outcome_applyAt a ?_
    simp only [nextListener, h.cell_eq a (hop a rfl)]
  | unlisten a id =>
    refine h.outcome_applyAt a ?_
    simp only [hasListener, h.cell_eq a (hop a rfl)]
  | markSaved => rfl

/-! ### Runs -/

theorem apply_left (h : SameButListeners cells g g') {op : Operation} {a : Address}
    (hop : op.listenedCell? = some a) (ha : cells a) :
    SameButListeners cells (g.apply op).grid g' := by
  have hmodify : ∀ f : Cell → Cell, (∀ c, (f c).muted = c.muted) →
      ∀ t : Grid → Transition, (t g).grid = g.modify a f →
        SameButListeners cells (g.applyAt a t).grid g' := by
    intro f hf t ht
    unfold Grid.applyAt
    cases g.shape.check a with
    | error cause => exact h
    | ok =>
      simp only [ht]
      exact h.modify_left ha hf
  cases op with
  | listen b =>
    obtain rfl : b = a := Option.some.inj hop
    exact hmodify Cell.listen (fun _ => rfl) _ rfl
  | unlisten b id =>
    obtain rfl : b = a := Option.some.inj hop
    exact hmodify (·.unlisten id) (fun _ => rfl) _ rfl
  | setText => cases hop
  | setTextByName => cases hop
  | setColor => cases hop
  | markSaved => cases hop

/-- By induction on how the second run arises from the first. -/
theorem run {ops ops' : List Operation} (hops : LeavesOutListening cells ops ops')
    (h : SameButListeners cells g g') : SameButListeners cells (g.run ops) (g'.run ops') := by
  induction hops generalizing g g' with
  | nil => exact h
  | keep op ops ops' _ ih => exact ih (h.apply op).grid
  | leaveOut op a ops ops' hop ha _ ih => exact ih (h.apply_left hop ha)

end Grid.SameButListeners

end ReactiveGrid
