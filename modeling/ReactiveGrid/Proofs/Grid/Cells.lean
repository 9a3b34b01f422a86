import ReactiveGrid.Proofs.Grid.Linked
import ReactiveGrid.Proofs.Grid.Run

/-!
# Whole cells under every operation

Renewing a cell writes its value and nothing else. So entering a text leaves all cells as they are up
to their values, except that the written cell gets the text, the mark of a change and the reference of
the text. From this follows what is true of every cell after every run: it knows its address, its
reference is that of its text, and its listeners stand in the order in which they were numbered.
-/

namespace ReactiveGrid

namespace Cell

/-- The cell with another text and all that belongs to it, but not yet its value. -/
def enter (s : Shape) (text : String) (c : Cell) : Cell :=
  { c with text := text, changed := true, reference := s.target? text }

structure Sound (s : Shape) (a : Address) (c : Cell) : Prop where
  address_eq : c.address = a
  reference_eq : c.reference = s.target? c.text
  ordered : c.listeners.Pairwise (· < ·)
  numbered : ∀ id ∈ c.listeners, id < c.nextListener

namespace Sound

variable {s : Shape} {a : Address} {c : Cell}

theorem blank (s : Shape) (a : Address) : Sound s a { address := a } where
  address_eq := rfl
  reference_eq := rfl
  ordered := List.Pairwise.nil
  numbered := by
    intro id hid
    cases hid

theorem enter (h : Sound s a c) (text : String) : Sound s a (c.enter s text) where
  address_eq := h.address_eq
  reference_eq := rfl
  ordered := h.ordered
  numbered := h.numbered

theorem withValue (h : Sound s a c) (value : String) : Sound s a { c with value := value } :=
  ⟨h.address_eq, h.reference_eq, h.ordered, h.numbered⟩

theorem withColor (h : Sound s a c) (color : UInt32) (changed : Bool) :
    Sound s a { c with color := color, changed := changed } :=
  ⟨h.address_eq, h.reference_eq, h.ordered, h.numbered⟩

theorem listen (h : Sound s a c) : Sound s a c.listen where
  address_eq := h.address_eq
  reference_eq := h.reference_eq
  ordered := by
    refine List.pairwise_append.2 ⟨h.ordered, List.pairwise_singleton _ _, ?_⟩
    intro id hid next hnext
    rw [List.mem_singleton.1 hnext]
    exact h.numbered id hid
  numbered := by
    intro id hid
    rcases List.mem_append.1 hid with hid | hid
    · exact Nat.lt_succ_of_lt (h.numbered id hid)
    · rw [List.mem_singleton.1 hid]
      exact Nat.lt_succ_self _

theorem unlisten (h : Sound s a c) (id : Nat) : Sound s a (c.unlisten id) where
  address_eq := h.address_eq
  reference_eq := h.reference_eq
  ordered := h.ordered.filter _
  numbered := fun other hother => h.numbered other (List.mem_filter.1 hother).1

end Sound

end Cell

namespace Grid

variable {g : Grid} {a b : Address} {c : Cell}

theorem text_of_cell? (h : g.cell? a = some c) : g.text a = c.text := by
  unfold text
  rw [h]
  rfl

theorem value_of_cell? (h : g.cell? a = some c) : g.value a = c.value := by
  unfold value
  rw [h]
  rfl

/-! ### Renewing -/

section

variable (cyclic : Std.ExtTreeSet Address) (g : Grid) (a b : Address) (cells : List Address)

theorem cell?_renew_of_ne (h : a ≠ b) : (renew cyclic g a).cell? b = g.cell? b := by
  unfold renew
  rw [cell?_modify, if_neg h]

theorem cell?_renew : (renew cyclic g a).cell? b =
    (g.cell? b).map fun c => { c with value := (renew cyclic g a).value b } := by
  by_cases h : a = b
  · subst h
    rw [value_renew_self]
    unfold renew
    rw [cell?_modify, if_pos rfl]
  · rw [cell?_renew_of_ne _ _ _ _ h, value_renew_of_ne _ _ _ _ h]
    cases hb : g.cell? b with
    | none => rfl
    | some c => rw [value_of_cell? hb, Option.map_some]

theorem cell?_foldl_renew_of_not_mem (hb : b ∉ cells) :
    (cells.foldl (renew cyclic) g).cell? b = g.cell? b := by
  induction cells generalizing g with
  | nil => rfl
  | cons c cs ih =>
    rw [List.mem_cons, not_or] at hb
    rw [List.foldl_cons, ih _ hb.2, cell?_renew_of_ne _ _ _ _ (Ne.symm hb.1)]

theorem cell?_foldl_renew : (cells.foldl (renew cyclic) g).cell? b =
    (g.cell? b).map fun c => { c with value := (cells.foldl (renew cyclic) g).value b } := by
  induction cells generalizing g with
  | nil =>
    cases hb : g.cell? b with
    | none => exact hb
    | some c =>
      rw [List.foldl_nil, value_of_cell? hb, Option.map_some]
      exact hb
  | cons c cs ih =>
    rw [List.foldl_cons, ih, cell?_renew, Option.map_map]
    rfl

end

/-! ### Entering a text -/

section

variable (g : Grid) (a b : Address) (text : String)

theorem cell?_rebind : (g.rebind a).cell? b =
    if a = b then (g.cell? b).map ({ · with reference := g.shape.target? (g.text a) })
    else g.cell? b :=
  cell?_modify

theorem cell?_rebound : (g.rebound a text).cell? b =
    if a = b then (g.cell? b).map (Cell.enter g.shape text) else g.cell? b := by
  unfold rebound
  rw [cell?_rebind, cell?_modify, shape_modify]
  split
  · next h =>
    subst h
    cases ha : g.cell? a with
    | none => rfl
    | some c =>
      have hcell : (g.modify a fun c => { c with text := text, changed := true }).cell? a =
          some { c with text := text, changed := true } := by
        rw [cell?_modify, if_pos rfl, ha, Option.map_some]
      rw [text_of_cell? hcell]
      rfl
  · rfl

theorem cell?_assign : (g.assign a text).grid.cell? b =
    ((g.rebound a text).cell? b).map fun c =>
      { c with value := (g.assign a text).grid.value b } := by
  rw [grid_assign]
  exact cell?_foldl_renew ..

theorem color_assign : ((g.assign a text).grid.cell? b).map (·.color) =
    (g.cell? b).map (·.color) := by
  rw [cell?_assign, cell?_rebound]
  split
  · rw [Option.map_map, Option.map_map]
    rfl
  · rw [Option.map_map]
    rfl

end

/-! ### All operations -/

structure Sound (g : Grid) : Prop where
  linked : g.Linked
  cells : ∀ a c, g.cell? a = some c → c.Sound g.shape a

namespace Sound

theorem blank (s : Shape) (m : Propagation) : (blank s m).Sound where
  linked := linked_blank s m
  cells := by
    intro a c hc
    rw [cell?_blank] at hc
    split at hc
    · obtain rfl := Option.some.inj hc
      exact .blank s a
    · cases hc

theorem assign (h : g.Sound) (a : Address) (text : String) : (g.assign a text).grid.Sound where
  linked := linked_assign h.linked a text
  cells := by
    intro b c hc
    rw [cell?_assign] at hc
    rw [shape_assign]
    obtain ⟨entered, hentered, rfl⟩ := Option.map_eq_some_iff.1 hc
    refine Cell.Sound.withValue ?_ _
    rw [cell?_rebound] at hentered
    split at hentered
    · obtain ⟨before, hbefore, rfl⟩ := Option.map_eq_some_iff.1 hentered
      exact (h.cells b before hbefore).enter text
    · exact h.cells b entered hentered

theorem modify (h : g.Sound) (a : Address) {f : Cell → Cell} (htext : ∀ c, (f c).text = c.text)
    (hcell : ∀ c, c.Sound g.shape a → (f c).Sound g.shape a) : (g.modify a f).Sound where
  linked := h.linked.of_eq shape_modify graph_modify (text_modify_of_eq htext)
  cells := by
    intro b c hc
    rw [cell?_modify] at hc
    rw [shape_modify]
    split at hc
    · next heq =>
      subst heq
      obtain ⟨before, hbefore, rfl⟩ := Option.map_eq_some_iff.1 hc
      exact hcell before (h.cells a before hbefore)
    · exact h.cells b c hc

theorem map (h : g.Sound) {f : Cell → Cell} (htext : ∀ c, (f c).text = c.text)
    (hcell : ∀ a c, c.Sound g.shape a → (f c).Sound g.shape a) :
    Sound { g with cells := g.cells.map f } where
  linked := h.linked.of_eq rfl rfl (text_map_of_eq htext)
  cells := by
    intro a c hc
    rw [cell?_map] at hc
    obtain ⟨before, hbefore, rfl⟩ := Option.map_eq_some_iff.1 hc
    exact hcell a before (h.cells a before hbefore)

theorem markSaved (h : g.Sound) : g.markSaved.Sound :=
  h.map (fun _ => rfl) fun _ c hc => hc.withColor c.color false

theorem move {g' : Grid} (h : g.Sound) (hmove : g.Move g') : g'.Sound := by
  cases hmove with
  | stay => exact h
  | assign a text => exact h.assign a text
  | paint a color =>
    rw [grid_paint]
    exact h.modify a (fun _ => rfl) fun _ hc => hc.withColor color true
  | listen a => exact h.modify a (fun _ => rfl) fun _ hc => hc.listen
  | unlisten a id => exact h.modify a (fun _ => rfl) fun _ hc => hc.unlisten id
  | save => exact h.markSaved

theorem run (h : g.Sound) (ops : List Operation) : (g.run ops).Sound :=
  run_invariant (fun _ _ h hmove => h.move hmove) g ops h

end Sound

theorem sound_run (s : Shape) (m : Propagation) (ops : List Operation) :
    ((blank s m).run ops).Sound :=
  (Sound.blank s m).run ops

end Grid

end ReactiveGrid
