import ReactiveGrid.Grid.Operation

/-!
# What is answered to an operation

An operation on a cell is refused just when the cell is not in the grid, for its row first; a name that
is none is refused with what is wrong with it. All others are carried out. So there are six answers,
and what an operation leaves and tells is found by going through them.
-/

namespace ReactiveGrid

theorem Transition.grid_ofUpdate (u : Update) : (Transition.ofUpdate u).grid = u.grid := rfl

theorem Transition.outcome_ofUpdate (u : Update) : (Transition.ofUpdate u).outcome = .ok .done :=
  rfl

theorem Transition.events_ofUpdate (u : Update) :
    (Transition.ofUpdate u).events = u.events.toList :=
  rfl

namespace Shape

/-- The cell is not in the grid: its row is outside, or else its column is. -/
inductive Excludes (s : Shape) (a : Address) : Refusal → Prop where
  | row (h : s.rows ≤ a.row) : Excludes s a (.rowOutside a.row (s.rows - 1))
  | column (hrow : a.row < s.rows) (h : s.columns ≤ a.column) :
      Excludes s a (.columnOutside a.column (s.columns - 1))

variable {s : Shape} {a : Address} {cause : Refusal}

theorem check_eq_error_iff : s.check a = .error cause ↔ s.Excludes a cause := by
  unfold check
  by_cases hrow : s.rows ≤ a.row
  · rw [if_pos hrow]
    constructor
    · rintro ⟨rfl⟩
      exact .row hrow
    · rintro (- | hlt)
      · rfl
      · exact absurd hrow (by omega)
  · rw [if_neg hrow]
    by_cases hcolumn : s.columns ≤ a.column
    · rw [if_pos hcolumn]
      constructor
      · rintro ⟨rfl⟩
        exact .column (by omega) hcolumn
      · rintro (h | -)
        · exact absurd h hrow
        · rfl
    · rw [if_neg hcolumn]
      refine iff_of_false (by simp) ?_
      rintro (h | ⟨-, h⟩)
      · exact hrow h
      · exact hcolumn h

theorem not_excludes_of_contains (h : s.Contains a) : ¬ s.Excludes a cause := by
  rw [← check_eq_error_iff, check_eq_ok_iff.2 h]
  simp

theorem exists_excludes_of_not_contains (h : ¬ s.Contains a) : ∃ cause, s.Excludes a cause := by
  cases hcheck : s.check a with
  | error cause => exact ⟨cause, check_eq_error_iff.1 hcheck⟩
  | ok => exact absurd (check_eq_ok_iff.1 hcheck) h

end Shape

/-- The cell that an operation is about, if it is about one and does not call it by a wrong name. -/
def Operation.target? : Operation → Option Address
  | setText a _ => some a
  | setTextByName name _ => (Address.parse name).toOption
  | setColor a _ => some a
  | listen a => some a
  | unlisten a _ => some a
  | markSaved => none

/-- The operation is about a cell that is not in the grid, or calls it by a wrong name. -/
inductive Shape.Denies (s : Shape) : Operation → Refusal → Prop where
  | malformed (name text : String) (cause : Address.Malformed)
      (h : Address.parse name = .error cause) :
      Denies s (.setTextByName name text) (.invalidAddress cause)
  | outside (op : Operation) (a : Address) (cause : Refusal) (hop : op.target? = some a)
      (h : s.Excludes a cause) : Denies s op cause

/-- The operation enters the text for the cell, which it gives by its address or by a name. -/
inductive Operation.Writes (a : Address) (text : String) : Operation → Prop where
  | cell : Writes a text (.setText a text)
  | name (name : String) (h : Address.parse name = .ok a) : Writes a text (.setTextByName name text)

theorem Operation.target?_setTextByName_eq_some_iff {name text : String} {a : Address} :
    (setTextByName name text).target? = some a ↔ Address.parse name = .ok a := by
  cases hname : Address.parse name with
  | error cause => simp [target?, Except.toOption, hname]
  | ok b => simp [target?, Except.toOption, hname]

theorem Operation.Writes.unique {op : Operation} {a : Address} {text text' : String}
    (h : op.Writes a text) (h' : op.Writes a text') : text' = text := by
  cases h with
  | cell =>
    cases h'
    rfl
  | name =>
    cases h'
    rfl

theorem Operation.Writes.target?_eq {op : Operation} {a : Address} {text : String}
    (h : op.Writes a text) : op.target? = some a := by
  cases h with
  | cell => rfl
  | name name h => exact target?_setTextByName_eq_some_iff.2 h

namespace Shape

variable {s : Shape} {name text : String} {cause : Refusal}

theorem denies_setTextByName_iff : s.Denies (.setTextByName name text) cause ↔
    (∃ malformed, Address.parse name = .error malformed ∧ cause = .invalidAddress malformed) ∨
      ∃ a, Address.parse name = .ok a ∧ s.Excludes a cause := by
  constructor
  · intro h
    cases h with
    | malformed _ _ malformed hname => exact Or.inl ⟨malformed, hname, rfl⟩
    | outside _ a _ htarget hexcludes =>
      exact Or.inr ⟨a, Operation.target?_setTextByName_eq_some_iff.1 htarget, hexcludes⟩
  · rintro (⟨malformed, hname, rfl⟩ | ⟨a, hname, hexcludes⟩)
    · exact .malformed name text malformed hname
    · exact .outside _ a cause (Operation.target?_setTextByName_eq_some_iff.2 hname) hexcludes

theorem exists_denies_iff : (∃ cause, s.Denies (.setTextByName name text) cause) ↔
    ∀ a, Address.parse name = .ok a → ¬ s.Contains a := by
  simp only [denies_setTextByName_iff]
  cases hname : Address.parse name with
  | error malformed => simp
  | ok a =>
    constructor
    · rintro ⟨cause, ⟨_, hcases, -⟩ | ⟨b, hb, hexcludes⟩⟩ c hc hcontains
      · cases hcases
      · rw [Except.ok.inj (hb.symm.trans hc)] at hexcludes
        exact not_excludes_of_contains hcontains hexcludes
    · intro h
      obtain ⟨cause, hexcludes⟩ := exists_excludes_of_not_contains (h a rfl)
      exact ⟨cause, Or.inr ⟨a, rfl, hexcludes⟩⟩

end Shape

namespace Grid

/-- What an operation leads to. -/
inductive Answers (g : Grid) : Operation → Transition → Prop where
  | refused (op : Operation) (cause : Refusal) (h : g.shape.Denies op cause) :
      Answers g op (.refused g cause)
  | entered (op : Operation) (a : Address) (text : String) (hop : op.Writes a text)
      (ha : g.shape.Contains a) : Answers g op (.ofUpdate (g.assign a text))
  | painted (a : Address) (color : UInt32) (ha : g.shape.Contains a) :
      Answers g (.setColor a color) (.ofUpdate (g.paint a color))
  | listened (a : Address) (ha : g.shape.Contains a) :
      Answers g (.listen a)
        { outcome := .ok (.listening (g.nextListener a)), grid := g.modify a Cell.listen }
  | unlistened (a : Address) (id : Nat) (ha : g.shape.Contains a) :
      Answers g (.unlisten a id)
        { outcome := .ok (.removed (g.hasListener a id)), grid := g.modify a (·.unlisten id) }
  | saved : Answers g .markSaved { outcome := .ok .done, grid := g.markSaved }

section

variable {g : Grid} {op : Operation} {a : Address} {cause : Refusal}

theorem applyAt_of_contains (ha : g.shape.Contains a) (f : Grid → Transition) :
    g.applyAt a f = f g := by
  unfold applyAt
  rw [Shape.check_eq_ok_iff.2 ha]

theorem applyAt_of_excludes (ha : g.shape.Excludes a cause) (f : Grid → Transition) :
    g.applyAt a f = .refused g cause := by
  unfold applyAt
  rw [Shape.check_eq_error_iff.2 ha]

theorem answers_applyAt {f : Grid → Transition} (hop : op.target? = some a)
    (hf : g.shape.Contains a → g.Answers op (f g)) : g.Answers op (g.applyAt a f) := by
  by_cases ha : g.shape.Contains a
  · rw [applyAt_of_contains ha]
    exact hf ha
  · obtain ⟨cause, hexcludes⟩ := Shape.exists_excludes_of_not_contains ha
    rw [applyAt_of_excludes hexcludes]
    exact .refused op cause (.outside op a cause hop hexcludes)

end

theorem answers_apply (g : Grid) (op : Operation) : g.Answers op (g.apply op) := by
  unfold apply
  cases op with
  | setText a text =>
    refine answers_applyAt rfl fun ha => ?_
    exact .entered _ a text .cell ha
  | setTextByName name text =>
    simp only
    cases hname : Address.parse name with
    | error cause =>
      rw [Address.ofName_of_parse_eq_error hname]
      exact .refused _ _ (.malformed name text cause hname)
    | ok a =>
      rw [Address.ofName_of_parse_eq_ok hname]
      refine answers_applyAt (Operation.target?_setTextByName_eq_some_iff.2 hname) fun ha => ?_
      exact .entered _ a text (.name name hname) ha
  | setColor a color =>
    refine answers_applyAt rfl fun ha => ?_
    exact .painted a color ha
  | listen a =>
    refine answers_applyAt rfl fun ha => ?_
    exact .listened a ha
  | unlisten a id =>
    refine answers_applyAt rfl fun ha => ?_
    exact .unlistened a id ha
  | markSaved => exact .saved

/-! ### Refused operations -/

section

variable {g : Grid} {op : Operation} {cause : Refusal}

theorem apply_of_denies (h : g.shape.Denies op cause) : g.apply op = .refused g cause := by
  cases h with
  | malformed name text malformed hname =>
    simp only [apply, Address.ofName_of_parse_eq_error hname]
  | outside _ a _ hop hexcludes =>
    cases op with
    | setTextByName name text =>
      have hname : Address.parse name = .ok a :=
        Operation.target?_setTextByName_eq_some_iff.1 hop
      simp only [apply, Address.ofName_of_parse_eq_ok hname, applyAt_of_excludes hexcludes]
    | setText | setColor | listen | unlisten =>
      obtain rfl := Option.some.inj hop
      rw [apply, applyAt_of_excludes hexcludes]
    | markSaved => cases hop

theorem outcome_eq_error_iff : (g.apply op).outcome = .error cause ↔ g.shape.Denies op cause := by
  constructor
  · intro h
    have hanswers := g.answers_apply op
    generalize g.apply op = t at h hanswers
    cases hanswers with
    | refused _ _ hdenies =>
      obtain rfl := Except.error.inj h
      exact hdenies
    | entered | painted | listened | unlistened | saved => cases h
  · intro h
    rw [apply_of_denies h]
    rfl

/-- A call that was refused left the grid as it was, and told of nothing. -/
theorem eq_refused_of_outcome (h : (g.apply op).outcome = .error cause) :
    g.apply op = .refused g cause :=
  apply_of_denies (outcome_eq_error_iff.1 h)

end

end Grid

end ReactiveGrid
