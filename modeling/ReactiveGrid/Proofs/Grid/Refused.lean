import ReactiveGrid.Proofs.Grid.Run

/-!
# Calls that are refused

A call is refused when the cell that it is about is not in the grid, and for nothing else but a name
that is none. It then leaves the grid as it was and tells of nothing. Main statement: such calls can be
left out of a run, one or all of them, and nobody can tell by what the other calls do, now or later.
-/

namespace ReactiveGrid

theorem Shape.excludes_iff {s : Shape} {a : Address} {cause : Refusal} : s.Excludes a cause ↔
    s.rows ≤ a.row ∧ cause = .rowOutside a.row (max s.rows 1 - 1) ∨
      a.row < s.rows ∧ s.columns ≤ a.column ∧
        cause = .columnOutside a.column (max s.columns 1 - 1) := by
  have hlast : ∀ n, max n 1 - 1 = n - 1 := by omega
  rw [hlast, hlast]
  constructor
  · intro h
    cases h with
    | row hrow => exact Or.inl ⟨hrow, rfl⟩
    | column hrow hcolumn => exact Or.inr ⟨hrow, hcolumn, rfl⟩
  · rintro (⟨hrow, rfl⟩ | ⟨hrow, hcolumn, rfl⟩)
    · exact .row hrow
    · exact .column hrow hcolumn

/-- An operation that is about a cell calls it by no wrong name, so only its place can be wrong. -/
theorem Shape.denies_iff_excludes {s : Shape} {op : Operation} {a : Address} {cause : Refusal}
    (hop : op.target? = some a) : s.Denies op cause ↔ s.Excludes a cause := by
  constructor
  · intro h
    cases h with
    | malformed name text malformed hname =>
      rw [Operation.target?_setTextByName_eq_some_iff, hname] at hop
      cases hop
    | outside _ b _ htarget hexcludes =>
      obtain rfl : b = a := Option.some.inj (htarget.symm.trans hop)
      exact hexcludes
  · exact .outside op a cause hop

namespace Grid

/-- What each call of a run led to. -/
def transitions (g : Grid) : List Operation → List Transition
  | [] => []
  | op :: ops => g.apply op :: (g.apply op).grid.transitions ops

/-- The second run is the first, begun at the given grid, without some calls that are refused in it. -/
inductive LeavesOutRefused : Grid → List Operation → List Operation → Prop where
  | nil (g : Grid) : LeavesOutRefused g [] []
  | keep (g : Grid) (op : Operation) (ops ops' : List Operation)
      (h : LeavesOutRefused (g.apply op).grid ops ops') :
      LeavesOutRefused g (op :: ops) (op :: ops')
  | leaveOut (g : Grid) (op : Operation) (cause : Refusal) (ops ops' : List Operation)
      (hop : (g.apply op).outcome = .error cause)
      (h : LeavesOutRefused (g.apply op).grid ops ops') : LeavesOutRefused g (op :: ops) ops'

variable {g : Grid} {op : Operation} {cause : Refusal} {ops ops' : List Operation}

theorem outcome_eq_error_iff_of_target? {a : Address} (hop : op.target? = some a) :
    (g.apply op).outcome = .error cause ↔ g.shape.Excludes a cause := by
  rw [outcome_eq_error_iff, Shape.denies_iff_excludes hop]

theorem outcome_setTextByName_eq_error_iff {name text : String} :
    (g.apply (.setTextByName name text)).outcome = .error cause ↔
      (∃ malformed, Address.parse name = .error malformed ∧ cause = .invalidAddress malformed) ∨
      ∃ a, Address.parse name = .ok a ∧ (g.apply (.setText a text)).outcome = .error cause := by
  have hset : ∀ a, (g.apply (.setText a text)).outcome = .error cause ↔ g.shape.Excludes a cause :=
    fun a => outcome_eq_error_iff_of_target? rfl
  rw [outcome_eq_error_iff, Shape.denies_setTextByName_iff]
  simp only [hset]

theorem grid_of_outcome_eq_error (h : (g.apply op).outcome = .error cause) :
    (g.apply op).grid = g := by
  rw [eq_refused_of_outcome h, Transition.refused]

theorem events_of_outcome_eq_error (h : (g.apply op).outcome = .error cause) :
    (g.apply op).events = [] := by
  rw [eq_refused_of_outcome h, Transition.refused]

/-! ### Runs -/

/-- All that a run tells is told by the calls that were not refused. -/
theorem flatMap_events_transitions (g : Grid) (ops : List Operation) :
    ((g.transitions ops).filter (·.outcome.isOk)).flatMap (·.events) =
      (g.transitions ops).flatMap (·.events) := by
  induction ops generalizing g with
  | nil => rfl
  | cons op ops ih =>
    rw [transitions, List.flatMap_cons, ← ih]
    cases houtcome : (g.apply op).outcome with
    | ok => rw [List.filter_cons_of_pos (by rw [houtcome]; rfl), List.flatMap_cons]
    | error cause =>
      rw [List.filter_cons_of_neg (by rw [houtcome]; exact Bool.false_ne_true),
        events_of_outcome_eq_error houtcome, List.nil_append]

namespace LeavesOutRefused

theorem run_eq (h : LeavesOutRefused g ops ops') : g.run ops' = g.run ops := by
  induction h with
  | nil => rfl
  | keep g op ops ops' _ ih => exact ih
  | leaveOut g op cause ops ops' hop _ ih =>
    rw [grid_of_outcome_eq_error hop] at ih
    rw [ih, run, run, List.foldl_cons, grid_of_outcome_eq_error hop]

theorem sublist (h : LeavesOutRefused g ops ops') :
    (g.transitions ops').Sublist (g.transitions ops) := by
  induction h with
  | nil => exact List.Sublist.refl _
  | keep g op ops ops' _ ih => exact ih.cons_cons _
  | leaveOut g op cause ops ops' hop _ ih =>
    rw [grid_of_outcome_eq_error hop] at ih
    rw [transitions, grid_of_outcome_eq_error hop]
    exact ih.cons _

theorem filter_eq (h : LeavesOutRefused g ops ops') :
    (g.transitions ops').filter (·.outcome.isOk) = (g.transitions ops).filter (·.outcome.isOk) := by
  induction h with
  | nil => rfl
  | keep g op ops ops' _ ih => rw [transitions, transitions, List.filter_cons, List.filter_cons, ih]
  | leaveOut g op cause ops ops' hop _ ih =>
    rw [grid_of_outcome_eq_error hop] at ih
    rw [transitions, grid_of_outcome_eq_error hop, ih, List.filter_cons_of_neg]
    rw [hop]
    exact Bool.false_ne_true

end LeavesOutRefused

/-- On a grid of any size, after every run, a call that gives its cell by row and column is refused just
when the row is outside, or else the column is. A call that gives it by a name is refused for what is
wrong with the name, or else as the call for the cell of that name would be. What is refused leaves the
grid with all its cells, listeners and links as it was, tells no listener and logs nothing. So a run
without some of its refused calls leads to the same grid, the calls that are left lead each to what they
led to before, and those that are not refused are the same and tell the same. -/
theorem refused_calls_change_nothing (s : Shape) (m : Propagation) (ops : List Operation) :
    let g := (blank s m).run ops
    (∀ a text color id,
      ∀ op ∈ [Operation.setText a text, .setColor a color, .listen a, .unlisten a id], ∀ cause,
        (g.apply op).outcome = .error cause ↔
          s.rows ≤ a.row ∧ cause = .rowOutside a.row (max s.rows 1 - 1) ∨
          a.row < s.rows ∧ s.columns ≤ a.column ∧
            cause = .columnOutside a.column (max s.columns 1 - 1)) ∧
    (∀ name text cause, (g.apply (.setTextByName name text)).outcome = .error cause ↔
      (∃ malformed, Address.parse name = .error malformed ∧ cause = .invalidAddress malformed) ∨
      ∃ a, Address.parse name = .ok a ∧ (g.apply (.setText a text)).outcome = .error cause) ∧
    (∀ op cause, (g.apply op).outcome = .error cause →
      (g.apply op).grid = g ∧ (g.apply op).events = []) ∧
    ∀ ops', LeavesOutRefused (blank s m) ops ops' →
      let before := (blank s m).transitions ops
      let after := (blank s m).transitions ops'
      (blank s m).run ops' = g ∧ after.Sublist before ∧
      after.filter (·.outcome.isOk) = before.filter (·.outcome.isOk) ∧
      after.flatMap (·.events) = before.flatMap (·.events) := by
  intro g
  have hshape : g.shape = s := shape_run (blank s m) ops
  refine ⟨?_, ?_, ?_, ?_⟩
  · intro a text color id op hop cause
    have htarget : op.target? = some a := by
      simp only [List.mem_cons, List.not_mem_nil, or_false] at hop
      rcases hop with rfl | rfl | rfl | rfl <;> rfl
    rw [outcome_eq_error_iff_of_target? htarget, hshape, Shape.excludes_iff]
  · exact fun name text cause => outcome_setTextByName_eq_error_iff
  · exact fun op cause h => ⟨grid_of_outcome_eq_error h, events_of_outcome_eq_error h⟩
  · intro ops' h before after
    refine ⟨h.run_eq, h.sublist, h.filter_eq, ?_⟩
    rw [← flatMap_events_transitions, h.filter_eq, flatMap_events_transitions]

/-- In a grid without cells every text is refused, and a color is refused for its column in a grid
without columns. Both calls can be left out. -/
theorem refused_calls_change_nothing_in_empty :
    let rowless := blank ⟨0, 26, by decide⟩ .transitive
    let columnless := blank ⟨2, 0, by decide⟩ .singleHop
    (rowless.apply (.setTextByName "A1" "1")).outcome = .error (.rowOutside 0 0) ∧
    (columnless.apply (.setColor ⟨1, 3⟩ 7)).outcome = .error (.columnOutside 3 0) ∧
    rowless.run [.markSaved] = rowless.run [.setTextByName "A1" "1", .markSaved] ∧
    (rowless.transitions [.markSaved]).Sublist
      (rowless.transitions [.setTextByName "A1" "1", .markSaved]) := by
  intro rowless columnless
  obtain ⟨-, hname, hnothing, hleave⟩ :=
    refused_calls_change_nothing ⟨0, 26, by decide⟩ .transitive [.setTextByName "A1" "1", .markSaved]
  obtain ⟨hcell, -⟩ := refused_calls_change_nothing ⟨2, 0, by decide⟩ .singleHop []
  have hfirst : (rowless.apply (.setTextByName "A1" "1")).outcome = .error (.rowOutside 0 0) := rfl
  obtain ⟨hrun, hsublist, -⟩ := hleave [.markSaved]
    (.leaveOut _ _ _ _ _ hfirst (.keep _ _ _ _ (.nil _)))
  refine ⟨hfirst, ?_, hrun, hsublist⟩
  exact (hcell ⟨1, 3⟩ "" 7 0 (.setColor ⟨1, 3⟩ 7) (by simp) _).2 (Or.inr ⟨by decide, by decide, rfl⟩)

end Grid

end ReactiveGrid
