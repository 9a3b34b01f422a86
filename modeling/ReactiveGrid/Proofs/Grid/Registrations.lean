import ReactiveGrid.Proofs.Grid.History
import ReactiveGrid.Proofs.Grid.Listeners
import ReactiveGrid.Proofs.Grid.Snapshots

/-!
# Which listeners a cell has

A cell numbers its listeners as they are registered, each with the count of those before it. So a
number is given once, and nobody comes after a listener that was removed under its number. Main
statement: after every run the listeners of a cell are those that were registered for it and not removed
since, in the order of registration, and each of them is called once for all that the cell is told of.
-/

namespace ReactiveGrid

namespace Call

/-- The number under which the call registered a listener of the cell. -/
def registered? (a : Address) : Call → Option Nat
  | ⟨.listen b, .ok (.listening id)⟩ => if b = a then some id else none
  | _ => none

/-- All numbers that the cell gave to listeners, in the order of registration. -/
def registrations (a : Address) (calls : List Call) : List Nat :=
  calls.filterMap (registered? a)

variable {a : Address} {call : Call} {calls : List Call} {id : Nat}

theorem registered?_eq_some_iff : call.registered? a = some id ↔ call.Does a (.register id) := by
  constructor
  · intro h
    unfold registered? at h
    split at h
    · split at h
      · next hb =>
        obtain rfl := hb
        obtain rfl := Option.some.inj h
        exact .registered _
      · cases h
    · cases h
  · rintro ⟨⟩
    exact if_pos rfl

theorem registrations_concat_of_registers (h : call.Does a (.register id)) :
    registrations a (calls ++ [call]) = registrations a calls ++ [id] := by
  have hcall : [call].filterMap (registered? a) = [id] :=
    List.filterMap_cons_some (registered?_eq_some_iff.2 h)
  rw [registrations, List.filterMap_append, hcall, registrations]

theorem registrations_concat_of_silent (h : ∀ id, ¬ call.Does a (.register id)) :
    registrations a (calls ++ [call]) = registrations a calls := by
  have hnone : call.registered? a = none :=
    Option.eq_none_iff_forall_not_mem.2 fun id hid => h id (registered?_eq_some_iff.1 hid)
  rw [registrations, List.filterMap_append, List.filterMap_cons_none hnone, List.filterMap_nil,
    List.append_nil, registrations]

theorem Does.listenedCell?_of_register (h : call.Does a (.register id)) :
    call.operation.listenedCell? = some a := by
  cases h
  rfl

theorem Does.listenedCell?_of_remove (h : call.Does a (.remove id)) :
    call.operation.listenedCell? = some a := by
  cases h
  rfl

end Call

namespace Cell

variable {s : Shape} {a : Address} {call : Call} {calls : List Call} {c c' : Cell} {id : Nat}

theorem mem_listeners_listen {other : Nat} :
    other ∈ c.listen.listeners ↔ other ∈ c.listeners ∨ other = c.nextListener := by
  unfold listen
  rw [List.mem_append, List.mem_singleton]

theorem mem_listeners_unlisten {other : Nat} :
    other ∈ (c.unlisten id).listeners ↔ other ∈ c.listeners ∧ other ≠ id := by
  unfold unlisten
  rw [List.mem_filter, decide_eq_true_iff]

theorem unlisten_eq_erase (hnodup : c.listeners.Nodup) :
    c.unlisten id = { c with listeners := c.listeners.erase id } := by
  have hfilter : c.listeners.filter (fun other => decide (other ≠ id)) =
      c.listeners.filter (· != id) :=
    List.filter_congr fun other _ => by simp only [bne, beq_eq_decide, decide_not]
  unfold unlisten
  rw [hnodup.erase_eq_filter, hfilter]

/-! ### One call -/

theorem Becomes.listeners_eq (h : c.Becomes s a call c')
    (hregister : ∀ id, ¬ call.Does a (.register id)) (hremove : ∀ id, ¬ call.Does a (.remove id)) :
    c'.listeners = c.listeners ∧ c'.nextListener = c.nextListener := by
  cases h with
  | entered | painted | saved | spared => exact ⟨rfl, rfl⟩
  | listened hdeed => exact absurd hdeed (hregister _)
  | unlistened id hdeed => exact absurd hdeed (hremove id)

/-- The cell has the listeners that the calls registered and did not remove since. -/
structure Standing (a : Address) (calls : List Call) (c : Cell) : Prop where
  registrations_eq : Call.registrations a calls = List.range c.nextListener
  listeners_sublist : c.listeners.Sublist (Call.registrations a calls)
  mem_listeners : ∀ id, id ∈ c.listeners ↔
    Since (Call.Does a · (.register id)) (Call.Does a · (.remove id)) calls

namespace Standing

theorem blank (a : Address) : Standing a [] { address := a } where
  registrations_eq := rfl
  listeners_sublist := List.nil_sublist _
  mem_listeners := fun _ => iff_of_false List.not_mem_nil not_since_nil

theorem listen (h : Standing a calls c) (hcall : call.Does a (.register c.nextListener)) :
    Standing a (calls ++ [call]) c.listen where
  registrations_eq := by
    rw [Call.registrations_concat_of_registers hcall, h.registrations_eq, Cell.listen,
      List.range_succ]
  listeners_sublist := by
    rw [Call.registrations_concat_of_registers hcall]
    exact h.listeners_sublist.append (List.Sublist.refl _)
  mem_listeners := by
    intro id
    have hremove : ¬ call.Does a (.remove id) := by
      rw [hcall.iff]
      exact nofun
    rw [mem_listeners_listen, h.mem_listeners, since_concat, and_iff_left hremove, hcall.iff,
      Deed.register.injEq, or_comm]

theorem spare (h : Standing a calls c) (hregister : ∀ id, ¬ call.Does a (.register id))
    (hremove : ∀ id, ¬ call.Does a (.remove id)) (hlisteners : c'.listeners = c.listeners)
    (hnext : c'.nextListener = c.nextListener) : Standing a (calls ++ [call]) c' where
  registrations_eq := by
    rw [Call.registrations_concat_of_silent hregister, h.registrations_eq, hnext]
  listeners_sublist := by
    rw [Call.registrations_concat_of_silent hregister, hlisteners]
    exact h.listeners_sublist
  mem_listeners := by
    intro id
    rw [hlisteners, h.mem_listeners, since_concat, or_iff_right (hregister id),
      and_iff_left (hremove id)]

theorem unlisten (h : Standing a calls c) (hcall : call.Does a (.remove id)) :
    Standing a (calls ++ [call]) (c.unlisten id) := by
  have hregister : ∀ other, ¬ call.Does a (.register other) := by
    intro other
    rw [hcall.iff]
    exact nofun
  constructor
  case registrations_eq =>
    rw [Call.registrations_concat_of_silent hregister, h.registrations_eq, Cell.unlisten]
  case listeners_sublist =>
    rw [Call.registrations_concat_of_silent hregister]
    exact List.filter_sublist.trans h.listeners_sublist
  case mem_listeners =>
    intro other
    rw [mem_listeners_unlisten, h.mem_listeners, since_concat, or_iff_right (hregister other),
      hcall.iff, Deed.remove.injEq]

theorem concat (h : Standing a calls c) (hcall : c.Becomes s a call c') :
    Standing a (calls ++ [call]) c' := by
  cases hcall with
  | listened hdeed => exact h.listen hdeed
  | unlistened _ hdeed => exact h.unlisten hdeed
  | entered _ _ hdeed | painted _ hdeed | saved hdeed =>
    refine h.spare (fun id hid => ?_) (fun id hid => ?_) rfl rfl
    · cases hdeed.unique hid
    · cases hdeed.unique hid
  | spared _ hspares =>
    exact h.spare (fun id => hspares (.register id)) (fun id => hspares (.remove id)) rfl rfl

theorem ordered (h : Standing a calls c) : c.listeners.Pairwise (· < ·) := by
  have hsublist := h.listeners_sublist
  rw [h.registrations_eq] at hsublist
  exact List.pairwise_lt_range.sublist hsublist

theorem numbered (h : Standing a calls c) (hid : id ∈ c.listeners) : id < c.nextListener := by
  have hgiven := h.listeners_sublist.subset hid
  rwa [h.registrations_eq, List.mem_range] at hgiven

end Standing

/-- The cell gave the number to a listener that it has no more. -/
structure Retired (id : Nat) (c : Cell) : Prop where
  given : id < c.nextListener
  not_mem : id ∉ c.listeners

theorem Retired.becomes (h : c.Retired id) (hcall : c.Becomes s a call c') :
    c'.Retired id ∧ ¬ call.Does a (.register id) := by
  cases hcall with
  | listened hdeed =>
    have hne : id ≠ c.nextListener := Nat.ne_of_lt h.given
    refine ⟨⟨Nat.lt_succ_of_lt h.given, ?_⟩, ?_⟩
    · rw [mem_listeners_listen]
      exact not_or.2 ⟨h.not_mem, hne⟩
    · rw [hdeed.iff, Deed.register.injEq]
      exact hne
  | unlistened _ hdeed =>
    refine ⟨⟨h.given, ?_⟩, ?_⟩
    · rw [mem_listeners_unlisten]
      exact fun hid => h.not_mem hid.1
    · rw [hdeed.iff]
      exact nofun
  | entered _ _ hdeed | painted _ hdeed | saved hdeed =>
    refine ⟨⟨h.given, h.not_mem⟩, ?_⟩
    rw [hdeed.iff]
    exact nofun
  | spared _ hspares => exact ⟨⟨h.given, h.not_mem⟩, hspares _⟩

end Cell

namespace Event

/-- How a listener is called for a notice. -/
def callOf (id : Nat) (notice : Cell × Property) : Delivery :=
  ⟨id, { notice.1 with listeners := [] }, notice.2⟩

section

variable {a : Address} {id : Nat} {n : Cell × Property}

theorem filter_calls (hnodup : n.1.listeners.Nodup) (hn : n.1.address = a) :
    (calls n).filter (fun d => d.cell.address = a ∧ d.listener = id) =
      if id ∈ n.1.listeners then [callOf id n] else [] := by
  have hlistener : (fun d : Delivery => decide (d.cell.address = a ∧ d.listener = id)) ∘
      (callOf · n) = fun other => decide (other = id) := by
    funext other
    simp only [Function.comp_apply, callOf, hn, true_and]
  have hcalls : calls n = n.1.listeners.map (callOf · n) := rfl
  rw [hcalls, List.filter_map, hlistener, List.filter_eq, hnodup.count]
  split
  · rfl
  · rfl

theorem filter_calls_of_ne (hn : n.1.address ≠ a) :
    (calls n).filter (fun d => d.cell.address = a ∧ d.listener = id) = [] := by
  rw [List.filter_eq_nil_iff]
  intro d hd
  rw [(cell_eq_of_mem_calls hd).1, decide_eq_true_iff]
  exact fun hcell => hn hcell.1

theorem filter_flatMap_calls {listeners : List Nat} (hnodup : listeners.Nodup)
    (notices : List (Cell × Property))
    (h : ∀ n ∈ notices, n.1.address = a → n.1.listeners = listeners) :
    (notices.flatMap calls).filter (fun d => d.cell.address = a ∧ d.listener = id) =
      if id ∈ listeners then (notices.filter (·.1.address = a)).map (callOf id) else [] := by
  induction notices with
  | nil => exact (ite_self _).symm
  | cons n ns ih =>
    obtain ⟨hn, hns⟩ := List.forall_mem_cons.1 h
    rw [List.flatMap_cons, List.filter_append, ih hns, List.filter_cons]
    by_cases ha : n.1.address = a
    · have hlisteners := hn ha
      rw [filter_calls (hlisteners ▸ hnodup) ha, hlisteners, if_pos (decide_eq_true ha)]
      split
      · rfl
      · rfl
    · rw [filter_calls_of_ne ha, List.nil_append, if_neg (mt of_decide_eq_true ha)]

end

end Event

namespace Grid

variable {g : Grid} {a : Address} {c : Cell} {op : Operation}

theorem standing_run (s : Shape) (m : Propagation) (ops : List Operation)
    (hc : ((blank s m).run ops).cell? a = some c) :
    c.Standing a ((blank s m).history ops) :=
  cell_run_blank hc (.blank a) fun _ _ _ _ h hcall => h.concat hcall

theorem exists_retired_run {id : Nat} (hc : g.cell? a = some c) (h : c.Retired id)
    (ops : List Operation) : ∃ c', (g.run ops).cell? a = some c' ∧ c'.Retired id ∧
      ∀ call ∈ g.history ops, ¬ call.Does a (.register id) := by
  refine exists_cell_run (P := fun calls c => c.Retired id ∧
    ∀ call ∈ calls, ¬ call.Does a (.register id)) hc ⟨h, List.forall_mem_nil _⟩ ?_ ops
  intro calls call c c' ⟨hretired, hcalls⟩ hcall
  obtain ⟨hstill, hsilent⟩ := hretired.becomes hcall
  exact ⟨hstill, List.forall_mem_append.2 ⟨hcalls, List.forall_mem_singleton.2 hsilent⟩⟩

theorem events_eq_nil_of_listenedCell? (hop : op.listenedCell? = some a) :
    (g.apply op).events = [] := by
  have hanswers := g.answers_apply op
  generalize g.apply op = t at hanswers ⊢
  cases hanswers with
  | entered _ _ _ hwrites =>
    cases hwrites with
    | cell | name => cases hop
  | painted => cases hop
  | refused | listened | unlistened | saved => rfl

theorem exists_cell_of_not_listened (hc : g.cell? a = some c) (hop : op.listenedCell? ≠ some a) :
    ∃ c', (g.apply op).grid.cell? a = some c' ∧
      c'.listeners = c.listeners ∧ c'.nextListener = c.nextListener := by
  obtain ⟨c', hc', hbecomes⟩ := exists_becomes hc op
  exact ⟨c', hc', hbecomes.listeners_eq (fun _ hid => hop hid.listenedCell?_of_register)
    fun _ hid => hop hid.listenedCell?_of_remove⟩

theorem Sound.filter_deliveries (h : g.Sound) (hc : g.cell? a = some c) (op : Operation) (id : Nat) :
    ((g.apply op).events.flatMap Event.deliveries).filter
        (fun d => d.cell.address = a ∧ d.listener = id) =
      if id ∈ c.listeners then
        (((g.apply op).events.filterMap Event.notice?).filter (·.1.address = a)).map (Event.callOf id)
      else [] := by
  have hnodup : c.listeners.Nodup := (h.cells a c hc).ordered.imp Nat.ne_of_lt
  rw [Event.flatMap_deliveries]
  refine Event.filter_flatMap_calls hnodup _ fun n hn hna => ?_
  -- A call that changes the list tells of nothing, so every notice finds the list from before.
  by_cases hop : op.listenedCell? = some a
  · rw [events_eq_nil_of_listenedCell? hop] at hn
    cases hn
  · obtain ⟨c', hc', hpictures⟩ := h.exists_pictures op hn
    obtain ⟨after, hafter, hlisteners, -⟩ := exists_cell_of_not_listened hc hop
    rw [hna, hafter] at hc'
    rw [hpictures.listeners_eq, ← Option.some.inj hc', hlisteners]

theorem apply_listen (hc : g.cell? a = some c) : g.apply (.listen a) =
    { outcome := .ok (.listening c.nextListener), grid := g.modify a Cell.listen } := by
  rw [apply, applyAt_of_contains (contains_of_cell? hc), nextListener_of_cell? hc]

theorem apply_unlisten (hc : g.cell? a = some c) (id : Nat) : g.apply (.unlisten a id) =
    { outcome := .ok (.removed (decide (id ∈ c.listeners))), grid := g.modify a (·.unlisten id) } := by
  rw [apply, applyAt_of_contains (contains_of_cell? hc), hasListener_of_cell? hc,
    List.contains_eq_mem]

/-- After every run, a cell has given the numbers from zero on, each to one listener, and it has the
listeners that were registered for it and not removed since, in the order of registration. The next one
gets the next number. Asking to remove a listener is answered with whether the cell has it, and takes
away that one only. Nothing else that is called changes the list, and meanwhile each listener in it is
called once for each notice of the cell, in the order of these. A listener that was removed is never
called again, and none gets its number. The numbers have no bound here; those of a counter of 64 bits are
the same for a cell for which fewer than `2 ^ 64` listeners were registered. -/
theorem listeners_are_standing_registrations (s : Shape) (m : Propagation) (ops : List Operation) :
    let g := (blank s m).run ops
    let calls := (blank s m).history ops
    ∀ a, s.Contains a → ∃ c, g.cell? a = some c ∧
      (Call.registrations a calls = List.range c.nextListener ∧
        c.listeners.Sublist (Call.registrations a calls) ∧
        (∀ id, id ∈ c.listeners ↔
          Since (Call.Does a · (.register id)) (Call.Does a · (.remove id)) calls) ∧
        c.listeners.Pairwise (· < ·) ∧ ∀ id ∈ c.listeners, id < c.nextListener) ∧
      ((g.apply (.listen a)).outcome = .ok (.listening c.nextListener) ∧
        (g.apply (.listen a)).grid.cell? a = some { c with
          listeners := c.listeners ++ [c.nextListener]
          nextListener := c.nextListener + 1 }) ∧
      (∀ id,
        let t := g.apply (.unlisten a id)
        t.outcome = .ok (.removed (decide (id ∈ c.listeners))) ∧
        t.grid.cell? a = some { c with listeners := c.listeners.erase id } ∧
        ∀ b ≠ a, t.grid.cell? b = g.cell? b) ∧
      (∀ op, op.listenedCell? ≠ some a → ∃ c', (g.apply op).grid.cell? a = some c' ∧
        c'.listeners = c.listeners ∧ c'.nextListener = c.nextListener) ∧
      (∀ op id,
        let events := (g.apply op).events
        (events.flatMap Event.deliveries).filter (fun d => d.cell.address = a ∧ d.listener = id) =
          if id ∈ c.listeners then
            ((events.filterMap Event.notice?).filter (·.1.address = a)).map (Event.callOf id)
          else []) ∧
      ∀ id < c.nextListener, id ∉ c.listeners → ∀ later,
        (∀ call ∈ g.history later, ¬ call.Does a (.register id)) ∧
        (∃ c', (g.run later).cell? a = some c' ∧ id ∉ c'.listeners) ∧
        ∀ op, ∀ d ∈ ((g.run later).apply op).events.flatMap Event.deliveries,
          d.cell.address = a → d.listener ≠ id := by
  intro g calls a ha
  have h : g.Sound := sound_run s m ops
  have hshape : g.shape = s := shape_run (blank s m) ops
  obtain ⟨c, hc⟩ := exists_cell (g := g) (hshape ▸ ha)
  have hstanding : c.Standing a calls := standing_run s m ops hc
  have hnodup : c.listeners.Nodup := hstanding.ordered.imp Nat.ne_of_lt
  refine ⟨c, hc, ⟨hstanding.registrations_eq, hstanding.listeners_sublist, hstanding.mem_listeners,
    hstanding.ordered, fun id => hstanding.numbered⟩, ?_, ?_, ?_, ?_, ?_⟩
  · rw [apply_listen hc]
    refine ⟨rfl, ?_⟩
    rw [cell?_modify, if_pos rfl, hc]
    rfl
  · intro id t
    have ht : t = _ := apply_unlisten hc id
    rw [ht]
    refine ⟨rfl, ?_, fun b hb => ?_⟩
    · rw [cell?_modify, if_pos rfl, hc, Option.map_some, Cell.unlisten_eq_erase hnodup]
    · rw [cell?_modify, if_neg (Ne.symm hb)]
  · exact fun op hop => exists_cell_of_not_listened hc hop
  · exact fun op id => h.filter_deliveries hc op id
  · intro id hgiven hid later
    obtain ⟨c', hc', hretired, hcalls⟩ := exists_retired_run hc ⟨hgiven, hid⟩ later
    refine ⟨hcalls, ⟨c', hc', hretired.not_mem⟩, fun op d hd hda hlistener => ?_⟩
    have hnone := (h.run later).filter_deliveries hc' op id
    rw [if_neg hretired.not_mem, List.filter_eq_nil_iff] at hnone
    exact hnone d hd (decide_eq_true ⟨hda, hlistener⟩)

/-- The first of two listeners is removed, and its number is neither found nor given again. -/
theorem listeners_are_standing_registrations_of_removed :
    let s : Shape := ⟨1, 2, by decide⟩
    let ops := [Operation.listen ⟨0, 0⟩, .listen ⟨0, 0⟩, .unlisten ⟨0, 0⟩ 0]
    let g := (blank s .transitive).run ops
    s.Contains ⟨0, 0⟩ ∧
    ∃ c, g.cell? ⟨0, 0⟩ = some c ∧ c.listeners = [1] ∧ c.nextListener = 2 ∧
      Call.registrations ⟨0, 0⟩ ((blank s .transitive).history ops) = [0, 1] ∧
      (g.apply (.unlisten ⟨0, 0⟩ 0)).outcome = .ok (.removed false) ∧
      (g.apply (.unlisten ⟨0, 0⟩ 1)).outcome = .ok (.removed true) ∧
      ∀ later, ∀ call ∈ g.history later, ¬ call.Does ⟨0, 0⟩ (.register 0) := by
  intro s ops g
  have ha : s.Contains ⟨0, 0⟩ := by decide
  have hcell : ((blank ⟨1, 2, by decide⟩ .transitive).run
      [Operation.listen ⟨0, 0⟩, .listen ⟨0, 0⟩, .unlisten ⟨0, 0⟩ 0]).cell? ⟨0, 0⟩ =
        some { address := ⟨0, 0⟩, listeners := [1], nextListener := 2 } := rfl
  obtain ⟨c, hc, ⟨hregistrations, -⟩, -, hremove, -, -, hretired⟩ :=
    listeners_are_standing_registrations s .transitive ops ⟨0, 0⟩ ha
  obtain rfl := Option.some.inj (hc.symm.trans hcell)
  exact ⟨ha, _, hc, rfl, rfl, hregistrations, (hremove 0).1, (hremove 1).1,
    fun later => (hretired 0 (by decide) (by decide) later).1⟩

end Grid

end ReactiveGrid
