import ReactiveGrid.Proofs.Grid.Bounds
import ReactiveGrid.Proofs.Grid.Events

/-!
# What listeners are told when a text is entered

Entering a text tells of the written cell and of its readers, of each twice: first of its text, while
it still shows its old value, and then of its value. Readers have no duplicates and the written cell
is none of them, so a cell is renewed after it was told of its text, before it is told of its value,
and at no other time. What is told of values is therefore what stands at the end.
-/

namespace ReactiveGrid

namespace Event

/-- The cell, as listeners find it, and the property that they are told of. -/
def notice? : Event → Option (Cell × Property)
  | notified cell property => some (cell, property)
  | _ => none

/-- The value that is about to be stored, and its cell. -/
def store? : Event → Option (Address × String)
  | recomputed cell value => some (cell, value)
  | _ => none

/-- One call for each listener of the cell. -/
def calls (notice : Cell × Property) : List Delivery :=
  notice.1.listeners.map (⟨·, { notice.1 with listeners := [] }, notice.2⟩)

theorem map_calls (c : Cell) (p : Property) :
    (calls (c, p)).map (fun d => (d.listener, d.cell.address, d.property)) =
      c.listeners.map (·, c.address, p) := by
  unfold calls
  rw [List.map_map]
  rfl

theorem cell_eq_of_mem_calls {d : Delivery} {c : Cell} {p : Property} (hd : d ∈ calls (c, p)) :
    d.cell = { c with listeners := [] } ∧ d.property = p := by
  obtain ⟨id, -, rfl⟩ := List.mem_map.1 hd
  exact ⟨rfl, rfl⟩

theorem deliveries_eq (e : Event) : e.deliveries = e.notice?.toList.flatMap calls := by
  cases e with
  | notified cell property => exact (List.flatMap_singleton ..).symm
  | circular => rfl
  | unresolved => rfl
  | recomputed => rfl
  | bound => rfl

/-- Listeners are called for notices, and for nothing else. -/
theorem flatMap_deliveries (events : List Event) :
    events.flatMap deliveries = (events.filterMap notice?).flatMap calls := by
  induction events with
  | nil => rfl
  | cons e es ih =>
    rw [List.flatMap_cons, ih, deliveries_eq, List.filterMap_cons]
    cases e.notice? with
    | none => rfl
    | some notice => rw [Option.toList_some, List.flatMap_singleton, List.flatMap_cons]

end Event

namespace Grid

def notices (g : Grid) (p : Property) (a : Address) : List (Cell × Property) :=
  ((g.cell? a).map (·, p)).toList

def listeners (g : Grid) (a : Address) : List Nat :=
  ((g.cell? a).map (·.listeners)).getD []

variable {g : Grid} {a : Address} {c : Cell} {p : Property}

theorem notices_of_cell? (h : g.cell? a = some c) : g.notices p a = [(c, p)] := by
  unfold notices
  rw [h]
  rfl

theorem listeners_of_cell? (h : g.cell? a = some c) : g.listeners a = c.listeners := by
  unfold listeners
  rw [h]
  rfl

/-- What happens while a value is computed tells nobody, and stores nothing. -/
theorem evaluate_silent (g : Grid) (cyclic : Std.ExtTreeSet Address) (a : Address) :
    ∀ e ∈ (g.evaluate cyclic a).2, e.notice? = none ∧ e.store? = none := by
  have hcases : (g.evaluate cyclic a).2 = [] ∨ (g.evaluate cyclic a).2 = [.unresolved a (g.text a)] ∨
      (g.evaluate cyclic a).2 = [.circular a (g.text a)] := by
    unfold evaluate
    cases hf : formula? (g.text a) with
    | none => simp only [hf, true_or]
    | some name =>
      cases ht : g.shape.resolve? name with
      | none => simp only [hf, ht, true_or, or_true]
      | some t =>
        simp only [hf, ht]
        split
        · exact .inr (.inr rfl)
        · exact .inl rfl
  intro e he
  rcases hcases with h | h | h <;> rw [h] at he
  · cases he
  · rw [List.mem_singleton.1 he]
    exact ⟨rfl, rfl⟩
  · rw [List.mem_singleton.1 he]
    exact ⟨rfl, rfl⟩

theorem notices_told (g : Grid) (p : Property) (a : Address) :
    (g.told p a).filterMap Event.notice? = g.notices p a := by
  unfold told notices
  cases g.cell? a <;> rfl

theorem stores_told (g : Grid) (p : Property) (a : Address) :
    (g.told p a).filterMap Event.store? = [] := by
  unfold told
  cases g.cell? a <;> rfl

theorem notices_block (before after : Grid) (cyclic : Std.ExtTreeSet Address) (a : Address) :
    (block before after cyclic a).filterMap Event.notice? =
      before.notices .text a ++ after.notices .value a := by
  have hsilent : (after.evaluate cyclic a).2.filterMap Event.notice? = [] :=
    List.filterMap_eq_nil_iff.2 fun e he => (after.evaluate_silent cyclic a e he).1
  rw [block, List.filterMap_append, List.filterMap_append, hsilent,
    List.filterMap_cons_none (f := Event.notice?) rfl, notices_told, notices_told, List.nil_append]

theorem stores_block (before after : Grid) (cyclic : Std.ExtTreeSet Address) (a : Address) :
    (block before after cyclic a).filterMap Event.store? = [(a, after.value a)] := by
  have hsilent : (after.evaluate cyclic a).2.filterMap Event.store? = [] :=
    List.filterMap_eq_nil_iff.2 fun e he => (after.evaluate_silent cyclic a e he).2
  rw [block, List.filterMap_append, List.filterMap_append, hsilent,
    List.filterMap_cons_some (f := Event.store?) rfl, stores_told, stores_told, List.nil_append,
    List.nil_append]

end Grid

namespace Update

def notices (u : Update) : List (Cell × Property) :=
  u.events.toList.filterMap Event.notice?

def stores (u : Update) : List (Address × String) :=
  u.events.toList.filterMap Event.store?

end Update

namespace Grid

theorem notices_assign (g : Grid) (a : Address) (text : String) :
    (g.assign a text).notices = (g.renewed a text).flatMap fun d =>
      (g.entered a text).notices .text d ++ (g.assign a text).grid.notices .value d := by
  rw [Update.notices, events_assign, List.filterMap_flatMap]
  exact List.flatMap_congr fun d _ => notices_block ..

theorem stores_assign (g : Grid) (a : Address) (text : String) :
    (g.assign a text).stores = (g.renewed a text).map fun d =>
      (d, (g.assign a text).grid.value d) := by
  rw [Update.stores, events_assign, List.filterMap_flatMap, List.map_eq_flatMap]
  exact List.flatMap_congr fun d _ => stores_block ..

section

variable {g : Grid} {a d : Address} {text : String}

theorem readers_rebound (g : Grid) (a : Address) (text : String) :
    (g.rebound a text).readers a =
      if g.propagation = .transitive then (g.assign a text).grid.graph.recalculationOrder a
      else ((g.assign a text).grid.graph.dependents a).filter (· ≠ a) := by
  unfold readers
  rw [propagation_rebound, graph_assign]
  cases g.propagation with
  | transitive => rfl
  | singleHop => rfl

theorem contains_of_mem_renewed (h : g.Linked) (ha : g.shape.Contains a)
    (hd : d ∈ g.renewed a text) : g.shape.Contains d := by
  have hlinked : (g.rebound a text).Linked := h.rebound a text
  have hin : (g.rebound a text).shape.Contains a := by rwa [shape_rebound]
  have hout := hlinked.contains_of_reaches hin (reaches_of_mem_renewed hd)
  rwa [shape_rebound] at hout

theorem text_entered : (g.entered a text).text d = (g.assign a text).grid.text d := by
  rw [text_assign, rebound, text_rebind, entered]

theorem value_entered : (g.entered a text).value d = g.value d := by
  refine value_modify_of_eq ?_ d
  intro c
  rfl

theorem listeners_entered : (g.entered a text).listeners d = g.listeners d := by
  unfold listeners entered
  rw [cell?_modify]
  split
  · rw [Option.map_map]
    rfl
  · rfl

theorem listeners_assign : (g.assign a text).grid.listeners d = g.listeners d := by
  unfold listeners
  rw [cell?_assign, Option.map_map, cell?_rebound]
  split
  · rw [Option.map_map]
    rfl
  · rfl

theorem Sound.address_entered {c : Cell} (h : g.Sound) (hc : (g.entered a text).cell? d = some c) :
    c.address = d := by
  rw [entered, cell?_modify] at hc
  split at hc
  · obtain ⟨before, hbefore, rfl⟩ := Option.map_eq_some_iff.1 hc
    exact (h.cells d before hbefore).address_eq
  · exact (h.cells d c hc).address_eq

/-- A cell stands there that knows its address. -/
def Placed (g : Grid) (a : Address) : Prop :=
  ∃ c, g.cell? a = some c ∧ c.address = a

theorem Sound.placed (h : g.Sound) (ha : g.shape.Contains a) : g.Placed a := by
  obtain ⟨c, hc⟩ := exists_cell ha
  exact ⟨c, hc, (h.cells a c hc).address_eq⟩

theorem placed_of_mem_renewed (h : g.Sound) (ha : g.shape.Contains a)
    (hd : d ∈ g.renewed a text) :
    (g.entered a text).Placed d ∧ (g.assign a text).grid.Placed d := by
  have hin : g.shape.Contains d := contains_of_mem_renewed h.linked ha hd
  obtain ⟨c, hc⟩ : ∃ c, (g.entered a text).cell? d = some c :=
    exists_cell (by rwa [entered, shape_modify])
  exact ⟨⟨c, hc, h.address_entered hc⟩, (h.assign a text).placed (by rwa [shape_assign])⟩

theorem map_notices (h : g.Placed d) (p : Property) :
    (g.notices p d).map (fun n => (n.1.address, n.2)) = [(d, p)] := by
  obtain ⟨c, hc, rfl⟩ := h
  rw [notices_of_cell? hc, List.map_singleton]

theorem map_notices_assign (h : g.Sound) (ha : g.shape.Contains a) :
    (g.assign a text).notices.map (fun n => (n.1.address, n.2)) =
      (g.renewed a text).flatMap fun d => [(d, .text), (d, .value)] := by
  rw [notices_assign, List.map_flatMap]
  refine List.flatMap_congr fun d hd => ?_
  obtain ⟨hentered, hassigned⟩ := placed_of_mem_renewed h ha hd
  rw [List.map_append, map_notices hentered, map_notices hassigned]
  rfl

/-- The written cell is told of as it is with its text, a reader as it was; then both as they are in
the end. -/
theorem notices_assign_of_cells (before after : Address → Cell)
    (hbefore : ∀ d ∈ g.renewed a text, g.cell? d = some (before d))
    (hafter : ∀ d ∈ g.renewed a text, (g.assign a text).grid.cell? d = some (after d)) :
    (g.assign a text).notices =
      ({ before a with text := text, changed := true }, .text) :: (after a, .value) ::
        ((g.rebound a text).readers a).flatMap fun d =>
          [(before d, .text), (after d, .value)] := by
  have hhead : (g.entered a text).cell? a =
      some { before a with text := text, changed := true } := by
    rw [entered, cell?_modify, if_pos rfl, hbefore a (List.mem_cons_self ..), Option.map_some]
  have hreaders : ∀ d ∈ (g.rebound a text).readers a, (g.entered a text).notices .text d ++
      (g.assign a text).grid.notices .value d = [(before d, .text), (after d, .value)] := by
    intro d hd
    have hmem : d ∈ g.renewed a text := List.mem_cons_of_mem _ hd
    have hentered : (g.entered a text).cell? d = some (before d) := by
      rw [cell?_entered_of_ne _ _ _ (ne_of_mem_readers hd), hbefore d hmem]
    rw [notices_of_cell? hentered, notices_of_cell? (hafter d hmem)]
    rfl
  rw [notices_assign, renewed, List.flatMap_cons, notices_of_cell? hhead,
    notices_of_cell? (hafter a (List.mem_cons_self ..)), List.flatMap_congr hreaders]
  rfl

theorem exists_cells_renewed (h : g.Linked) (ha : g.shape.Contains a) (text : String) :
    ∃ before after : Address → Cell, ∀ d ∈ g.renewed a text,
      g.cell? d = some (before d) ∧ (g.assign a text).grid.cell? d = some (after d) := by
  refine ⟨fun d => (g.cell? d).getD { address := d },
    fun d => ((g.assign a text).grid.cell? d).getD { address := d }, fun d hd => ?_⟩
  have hin : g.shape.Contains d := contains_of_mem_renewed h ha hd
  have hin' : (g.assign a text).grid.shape.Contains d := by rwa [shape_assign]
  obtain ⟨before, hbefore⟩ := exists_cell hin
  obtain ⟨after, hafter⟩ := exists_cell hin'
  simp only [hbefore, hafter, Option.getD_some, and_self]

theorem map_calls_notices (h : ∀ c, g.cell? d = some c → c.address = d) (p : Property) :
    ((g.notices p d).flatMap Event.calls).map (fun d => (d.listener, d.cell.address, d.property)) =
      (g.listeners d).map (·, d, p) := by
  unfold notices listeners
  cases hc : g.cell? d with
  | none => rfl
  | some c =>
    rw [Option.map_some, Option.toList_some, List.flatMap_singleton, Event.map_calls, h c hc]
    rfl

/-- Who is called: the listeners of each renewed cell, first for its text and then for its value. -/
theorem calls_assign (h : g.Sound) :
    ((g.assign a text).events.toList.flatMap Event.deliveries).map
        (fun d => (d.listener, d.cell.address, d.property)) =
      (g.renewed a text).flatMap fun d =>
        (g.listeners d).map (·, d, .text) ++ (g.listeners d).map (·, d, .value) := by
  have hsound : (g.assign a text).grid.Sound := h.assign a text
  have hcells : ∀ d, (((g.entered a text).notices .text d ++
      (g.assign a text).grid.notices .value d).flatMap Event.calls).map
        (fun d => (d.listener, d.cell.address, d.property)) =
      (g.listeners d).map (·, d, .text) ++ (g.listeners d).map (·, d, .value) := by
    intro d
    rw [List.flatMap_append, List.map_append, map_calls_notices fun c hc => h.address_entered hc,
      map_calls_notices fun c hc => (hsound.cells d c hc).address_eq, listeners_entered,
      listeners_assign]
  rw [Event.flatMap_deliveries, ← Update.notices, notices_assign, List.flatMap_assoc,
    List.map_flatMap]
  simp only [hcells]

/-- What is seen in a call: the text that is entered, and of the values only the old one and the last
one. -/
theorem seen_of_mem_deliveries (h : g.Sound) {call : Delivery}
    (hcall : call ∈ (g.assign a text).events.toList.flatMap Event.deliveries) :
    call.cell.text = (g.assign a text).grid.text call.cell.address ∧
    (call.property = .text ∧ call.cell.value = g.value call.cell.address ∨
      call.property = .value ∧
        call.cell.value = (g.assign a text).grid.value call.cell.address) := by
  rw [Event.flatMap_deliveries, ← Update.notices, notices_assign] at hcall
  obtain ⟨⟨c, p⟩, hnotice, hcall⟩ := List.mem_flatMap.1 hcall
  obtain ⟨hcell, hproperty⟩ := Event.cell_eq_of_mem_calls hcall
  obtain ⟨d, -, hnotice⟩ := List.mem_flatMap.1 hnotice
  rw [hcell, hproperty]
  rcases List.mem_append.1 hnotice with hnotice | hnotice
  · obtain ⟨found, hc, heq⟩ := Option.map_eq_some_iff.1 (Option.mem_toList.1 hnotice)
    obtain ⟨rfl, rfl⟩ := Prod.mk.inj heq
    rw [h.address_entered hc, ← text_entered, text_of_cell? hc, ← value_entered (a := a),
      value_of_cell? hc]
    exact ⟨rfl, .inl ⟨rfl, rfl⟩⟩
  · obtain ⟨found, hc, heq⟩ := Option.map_eq_some_iff.1 (Option.mem_toList.1 hnotice)
    obtain ⟨rfl, rfl⟩ := Prod.mk.inj heq
    rw [((h.assign a text).cells d found hc).address_eq, text_of_cell? hc, value_of_cell? hc]
    exact ⟨rfl, .inr ⟨rfl, rfl⟩⟩

end

theorem contains_of_setText_done {g : Grid} {a : Address} {text : String}
    (hok : (g.apply (.setText a text)).outcome = .ok .done) : g.shape.Contains a := by
  refine Classical.not_not.1 fun ha => ?_
  obtain ⟨cause, hrefused⟩ := exists_refusal_of_not_contains ha text
  rw [hrefused] at hok
  cases hok

/-- When a text is entered after any run, the written cell is told of its text and of its value, and
then each of its readers is, in the order of recalculation. Nobody else is told. Each listener of
these cells is called for each of the two, in the order of registration. Who is told of a text sees
the old value, and who is told of a value sees the last one. Each value is stored once. -/
theorem notifications_of_entered_text (s : Shape) (m : Propagation) (ops : List Operation)
    (a : Address) (text : String)
    (hok : (((blank s m).run ops).apply (.setText a text)).outcome = .ok .done) :
    let g := (blank s m).run ops
    let t := g.apply (.setText a text)
    let readers := if m = .transitive then t.grid.graph.recalculationOrder a
      else (t.grid.graph.dependents a).filter (· ≠ a)
    let calls := t.events.flatMap Event.deliveries
    (a :: readers).Nodup ∧
    (∃ before after : Address → Cell,
      (∀ d ∈ a :: readers, g.cell? d = some (before d) ∧ t.grid.cell? d = some (after d)) ∧
      t.events.filterMap Event.notice? =
        ({ before a with text := text, changed := true }, .text) :: (after a, .value) ::
          readers.flatMap fun d => [(before d, .text), (after d, .value)]) ∧
    (calls.map (fun call => (call.listener, call.cell.address, call.property)) =
      (a :: readers).flatMap fun d =>
        (g.listeners d).map (·, d, .text) ++ (g.listeners d).map (·, d, .value)) ∧
    (∀ d ∈ a :: readers, (g.listeners d).Pairwise (· < ·)) ∧
    (∀ call ∈ calls, call.cell.text = t.grid.text call.cell.address ∧
      (call.property = .text ∧ call.cell.value = g.value call.cell.address ∨
        call.property = .value ∧ call.cell.value = t.grid.value call.cell.address)) ∧
    t.events.filterMap Event.store? = (a :: readers).map (fun d => (d, t.grid.value d)) ∧
    ∀ d ∉ a :: readers, t.grid.cell? d = g.cell? d := by
  intro g t readers calls
  have h : g.Sound := sound_run s m ops
  have ha : g.shape.Contains a := contains_of_setText_done hok
  have ht : t = .ofUpdate (g.assign a text) := apply_setText ha
  have hmode : g.propagation = m := propagation_run (blank s m) ops
  have hgrid : t.grid = (g.assign a text).grid := by rw [ht, Transition.grid_ofUpdate]
  have hevents : t.events = (g.assign a text).events.toList := by rw [ht, Transition.ofUpdate]
  have hreaders : readers = (g.rebound a text).readers a := by
    rw [readers_rebound, hmode, ← hgrid]
  have hcalls : calls = (g.assign a text).events.toList.flatMap Event.deliveries := by
    rw [← hevents]
  clear_value calls readers t g
  have hrenewed : a :: readers = g.renewed a text := by rw [hreaders, renewed]
  refine ⟨?_, ?_, ?_, ?_, ?_, ?_, ?_⟩
  · rw [hrenewed]
    exact nodup_renewed g a text
  · obtain ⟨before, after, hcells⟩ := exists_cells_renewed h.linked ha text
    refine ⟨before, after, ?_, ?_⟩
    · rw [hrenewed, hgrid]
      exact hcells
    · rw [hevents, hreaders, ← Update.notices]
      exact notices_assign_of_cells before after (fun d hd => (hcells d hd).1)
        fun d hd => (hcells d hd).2
  · rw [hrenewed, hcalls]
    exact calls_assign h
  · intro d hd
    rw [hrenewed] at hd
    obtain ⟨c, hc⟩ := exists_cell (contains_of_mem_renewed h.linked ha hd)
    rw [listeners_of_cell? hc]
    exact (h.cells d c hc).ordered
  · rw [hcalls, hgrid]
    exact fun call hcall => seen_of_mem_deliveries h hcall
  · rw [hevents, hrenewed, hgrid]
    exact stores_assign g a text
  · rw [hrenewed, hgrid]
    exact fun d hd => cell?_assign_of_not_mem hd

/-- In a grid of two rows and columns, where B1 refers to A1, a text can be entered in A1. -/
theorem notifications_of_entered_text_in_corner :
    let g := (blank ⟨2, 2, by decide⟩ .transitive).run [.listen ⟨0, 0⟩, .setText ⟨0, 1⟩ "=A1"]
    let t := g.apply (.setText ⟨0, 0⟩ "x")
    let readers := t.grid.graph.recalculationOrder ⟨0, 0⟩
    t.outcome = .ok .done ∧
    (⟨0, 0⟩ :: readers).Nodup ∧
    t.events.filterMap Event.store? = (⟨0, 0⟩ :: readers).map (fun d => (d, t.grid.value d)) := by
  intro g t readers
  have hshape : g.shape.Contains ⟨0, 0⟩ := by
    rw [shape_run]
    decide
  have hok : t.outcome = .ok .done := congrArg Transition.outcome (apply_setText hshape)
  obtain ⟨hnodup, -, -, -, -, hstores, -⟩ :=
    notifications_of_entered_text ⟨2, 2, by decide⟩ .transitive
      [.listen ⟨0, 0⟩, .setText ⟨0, 1⟩ "=A1"] ⟨0, 0⟩ "x" hok
  exact ⟨hok, hnodup, hstores⟩

end Grid

end ReactiveGrid
