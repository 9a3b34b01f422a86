import ReactiveGrid.Proofs.Grid.Answers
import ReactiveGrid.Proofs.Grid.Cells
import ReactiveGrid.Proofs.Latest

/-!
# What a run makes of a cell

A run of operations is kept as its calls, each with its answer. One call does one of six things to a
cell: a text is entered for it, it is painted, a listener is registered or removed, it is saved, or at
most its value changes. So what is true of a cell after every run is shown by going through these six.
-/

namespace ReactiveGrid

/-- An operation that was called, with what was answered. -/
structure Call where
  operation : Operation
  outcome : Except Refusal Outcome

/-- What a call can do to a cell, beyond what becomes of its value. -/
inductive Deed where
  | enter (text : String)
  | paint (color : UInt32)
  | register (listener : Nat)
  | remove (listener : Nat)
  | save

namespace Call

/-- The call was not refused, and did this to the cell. A listener counts as removed also where the
answer was that there is none. -/
inductive Does (a : Address) : Call → Deed → Prop where
  | entered (op : Operation) (text : String) (h : op.Writes a text) :
      Does a ⟨op, .ok .done⟩ (.enter text)
  | painted (color : UInt32) : Does a ⟨.setColor a color, .ok .done⟩ (.paint color)
  | registered (id : Nat) : Does a ⟨.listen a, .ok (.listening id)⟩ (.register id)
  | removed (id : Nat) (was : Bool) : Does a ⟨.unlisten a id, .ok (.removed was)⟩ (.remove id)
  | saved : Does a ⟨.markSaved, .ok .done⟩ .save

def Spares (a : Address) (call : Call) : Prop :=
  ∀ deed, ¬ call.Does a deed

variable {a b : Address} {call : Call} {op : Operation} {deed deed' : Deed}

theorem Does.unique (h : call.Does a deed) (h' : call.Does a deed') : deed' = deed := by
  cases h with
  | entered op text hop =>
    cases h' with
    | entered _ _ hop' => rw [hop.unique hop']
    | painted | saved => cases hop
  | painted =>
    cases h' with
    | entered _ _ hop => cases hop
    | painted => rfl
  | registered =>
    cases h' with
    | registered => rfl
  | removed =>
    cases h' with
    | removed => rfl
  | saved =>
    cases h' with
    | entered _ _ hop => cases hop
    | saved => rfl

theorem Does.iff (h : call.Does a deed) : call.Does a deed' ↔ deed' = deed := by
  constructor
  · exact h.unique
  · rintro rfl
    exact h

theorem spares_of_refused (op : Operation) (cause : Refusal) : Spares a ⟨op, .error cause⟩ :=
  nofun

theorem spares_of_target?_eq (hop : op.target? = some b) (hne : b ≠ a)
    (outcome : Except Refusal Outcome) : Spares a ⟨op, outcome⟩ := by
  have hother : op.target? ≠ some a := by
    rw [hop]
    exact fun heq => hne (Option.some.inj heq)
  intro deed hdeed
  cases hdeed with
  | entered _ _ hwrites => exact hother hwrites.target?_eq
  | painted => exact hother rfl
  | registered => exact hother rfl
  | removed => exact hother rfl
  | saved => cases hop

end Call

namespace Cell

/-- What a call made of the cell. -/
inductive Becomes (s : Shape) (a : Address) (call : Call) (c : Cell) : Cell → Prop where
  | entered (text value : String) (h : call.Does a (.enter text)) :
      Becomes s a call c { c.enter s text with value := value }
  | painted (color : UInt32) (h : call.Does a (.paint color)) :
      Becomes s a call c { c with color := color, changed := true }
  | listened (h : call.Does a (.register c.nextListener)) : Becomes s a call c c.listen
  | unlistened (id : Nat) (h : call.Does a (.remove id)) : Becomes s a call c (c.unlisten id)
  | saved (h : call.Does a .save) : Becomes s a call c { c with changed := false }
  | spared (value : String) (h : call.Spares a) : Becomes s a call c { c with value := value }

theorem becomes_of_spares {s : Shape} {a : Address} {call : Call} (h : call.Spares a) (c : Cell) :
    c.Becomes s a call c :=
  .spared c.value h

end Cell

namespace Grid

variable {g : Grid} {a : Address} {c : Cell}

/-- The calls of a run, in their order. -/
def history (g : Grid) : List Operation → List Call
  | [] => []
  | op :: ops => ⟨op, (g.apply op).outcome⟩ :: (g.apply op).grid.history ops

theorem history_append (g : Grid) (ops ops' : List Operation) :
    g.history (ops ++ ops') = g.history ops ++ (g.run ops).history ops' := by
  induction ops generalizing g with
  | nil => rfl
  | cons op ops ih =>
    rw [List.cons_append, history, ih, history, List.cons_append]
    rfl

theorem history_concat (g : Grid) (ops : List Operation) (op : Operation) :
    g.history (ops ++ [op]) = g.history ops ++ [⟨op, ((g.run ops).apply op).outcome⟩] :=
  history_append g ops [op]

theorem contains_of_cell? (h : g.cell? a = some c) : g.shape.Contains a :=
  cell?_isSome.1 (Option.isSome_of_eq_some h)

theorem nextListener_of_cell? (h : g.cell? a = some c) : g.nextListener a = c.nextListener := by
  unfold nextListener
  rw [h]
  rfl

theorem hasListener_of_cell? (h : g.cell? a = some c) (id : Nat) :
    g.hasListener a id = c.listeners.contains id := by
  unfold hasListener
  rw [h, Option.any_some, Cell.hasListener_eq_contains]

/-! ### One call -/

theorem exists_becomes_modify {call : Call} {b : Address} {f : Cell → Cell}
    (hc : g.cell? a = some c) (hcall : call.operation.target? = some b)
    (hf : b = a → c.Becomes g.shape a call (f c)) :
    ∃ c', (g.modify b f).cell? a = some c' ∧ c.Becomes g.shape a call c' := by
  rw [cell?_modify, hc]
  by_cases hb : b = a
  · rw [if_pos hb]
    exact ⟨f c, rfl, hf hb⟩
  · rw [if_neg hb]
    exact ⟨c, rfl, Cell.becomes_of_spares (Call.spares_of_target?_eq hcall hb _) c⟩

theorem exists_becomes_assign {op : Operation} {b : Address} {text : String}
    (hc : g.cell? a = some c) (hop : op.Writes b text) :
    ∃ c', (g.assign b text).grid.cell? a = some c' ∧ c.Becomes g.shape a ⟨op, .ok .done⟩ c' := by
  rw [cell?_assign, cell?_rebound, hc]
  by_cases hb : b = a
  · subst hb
    rw [if_pos rfl]
    exact ⟨_, rfl, .entered text _ (.entered op text hop)⟩
  · rw [if_neg hb]
    exact ⟨_, rfl, .spared _ (Call.spares_of_target?_eq hop.target?_eq hb _)⟩

theorem exists_becomes (hc : g.cell? a = some c) (op : Operation) :
    ∃ c', (g.apply op).grid.cell? a = some c' ∧
      c.Becomes g.shape a ⟨op, (g.apply op).outcome⟩ c' := by
  have hanswers := g.answers_apply op
  generalize g.apply op = t at hanswers ⊢
  cases hanswers with
  | refused _ cause => exact ⟨c, hc, Cell.becomes_of_spares (Call.spares_of_refused op cause) c⟩
  | entered _ b text hop =>
    rw [Transition.grid_ofUpdate, Transition.outcome_ofUpdate]
    exact exists_becomes_assign hc hop
  | painted b color =>
    rw [Transition.grid_ofUpdate, Transition.outcome_ofUpdate, grid_paint]
    refine exists_becomes_modify hc rfl ?_
    rintro rfl
    exact .painted color (.painted color)
  | listened b =>
    refine exists_becomes_modify hc rfl ?_
    rintro rfl
    rw [nextListener_of_cell? hc]
    exact .listened (.registered c.nextListener)
  | unlistened b id =>
    refine exists_becomes_modify hc rfl ?_
    rintro rfl
    exact .unlistened id (.removed id _)
  | saved =>
    refine ⟨{ c with changed := false }, ?_, .saved .saved⟩
    rw [markSaved, cell?_map, hc, Option.map_some]

/-! ### All calls -/

theorem exists_cell_run {P : List Call → Cell → Prop} (hc : g.cell? a = some c) (hP : P [] c)
    (hstep : ∀ calls call c c', P calls c → c.Becomes g.shape a call c' → P (calls ++ [call]) c')
    (ops : List Operation) : ∃ c', (g.run ops).cell? a = some c' ∧ P (g.history ops) c' := by
  -- Induction on the last operation, since what is kept of a cell is told by all calls so far.
  induction ops using List.reverseRecOn with
  | nil => exact ⟨c, hc, hP⟩
  | append_singleton ops op ih =>
    obtain ⟨before, hbefore, hcalls⟩ := ih
    obtain ⟨after, hafter, hbecomes⟩ := exists_becomes hbefore op
    rw [shape_run] at hbecomes
    rw [run_concat, history_concat]
    exact ⟨after, hafter, hstep _ _ _ _ hcalls hbecomes⟩

theorem cell_run_blank {s : Shape} {m : Propagation} {P : List Call → Cell → Prop}
    {ops : List Operation} (hc : ((blank s m).run ops).cell? a = some c)
    (hP : P [] { address := a })
    (hstep : ∀ calls call c c', P calls c → c.Becomes s a call c' → P (calls ++ [call]) c') :
    P ((blank s m).history ops) c := by
  have ha : s.Contains a := by
    have hin := contains_of_cell? hc
    rwa [shape_run] at hin
  have hblank : (blank s m).cell? a = some { address := a } := by
    rw [cell?_blank, if_pos ha]
  obtain ⟨after, hafter, hcalls⟩ := exists_cell_run hblank hP hstep ops
  rw [hc] at hafter
  rwa [Option.some.inj hafter]

end Grid

end ReactiveGrid
