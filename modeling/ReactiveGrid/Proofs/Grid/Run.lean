import ReactiveGrid.Proofs.Grid.Answers
import ReactiveGrid.Proofs.Grid.Renewal

/-!
# What a run of operations can do to a grid

Whatever is called, and whether it is refused or not, a grid makes one of six moves. What every move
keeps holds after every run.
-/

namespace ReactiveGrid

namespace Grid

inductive Move (g : Grid) : Grid → Prop where
  | stay : Move g g
  | assign (a : Address) (text : String) (ha : g.shape.Contains a) : Move g (g.assign a text).grid
  | paint (a : Address) (color : UInt32) (ha : g.shape.Contains a) : Move g (g.paint a color).grid
  | listen (a : Address) (ha : g.shape.Contains a) : Move g (g.modify a Cell.listen)
  | unlisten (a : Address) (id : Nat) (ha : g.shape.Contains a) :
      Move g (g.modify a (·.unlisten id))
  | save : Move g g.markSaved

theorem move_apply (g : Grid) (op : Operation) : g.Move (g.apply op).grid := by
  have hanswers := g.answers_apply op
  generalize g.apply op = t at hanswers ⊢
  cases hanswers with
  | refused => exact .stay
  | entered _ a text _ ha =>
    rw [Transition.grid_ofUpdate]
    exact .assign a text ha
  | painted a color ha =>
    rw [Transition.grid_ofUpdate]
    exact .paint a color ha
  | listened a ha => exact .listen a ha
  | unlistened a id ha => exact .unlisten a id ha
  | saved => exact .save

theorem run_concat (g : Grid) (ops : List Operation) (op : Operation) :
    g.run (ops ++ [op]) = ((g.run ops).apply op).grid := by
  unfold run
  rw [List.foldl_append, List.foldl_cons, List.foldl_nil]

theorem run_invariant {P : Grid → Prop} (hmove : ∀ g g', P g → g.Move g' → P g') (g : Grid)
    (ops : List Operation) (hg : P g) : P (g.run ops) := by
  induction ops generalizing g with
  | nil => exact hg
  | cons op ops ih => exact ih _ (hmove g _ hg (move_apply g op))

theorem grid_paint (g : Grid) (a : Address) (color : UInt32) :
    (g.paint a color).grid = g.modify a fun c => { c with color := color, changed := true } :=
  Update.grid_notify

theorem Move.shape_eq {g g' : Grid} (h : g.Move g') : g'.shape = g.shape := by
  cases h with
  | stay => rfl
  | assign a text => exact shape_assign g a text
  | paint a color => rw [grid_paint, shape_modify]
  | listen a => exact shape_modify
  | unlisten a id => exact shape_modify
  | save => rfl

theorem Move.propagation_eq {g g' : Grid} (h : g.Move g') : g'.propagation = g.propagation := by
  cases h with
  | stay => rfl
  | assign a text => exact propagation_assign g a text
  | paint a color => rw [grid_paint, propagation_modify]
  | listen a => exact propagation_modify
  | unlisten a id => exact propagation_modify
  | save => rfl

/-- No move changes how far what is entered reaches, so a run may rely on it at each step. -/
theorem run_invariant_of_propagation {P : Grid → Prop} {m : Propagation}
    (hmove : ∀ g g', P g → g.propagation = m → g.Move g' → P g') (g : Grid) (ops : List Operation)
    (hm : g.propagation = m) (hg : P g) : P (g.run ops) := by
  have hrun := run_invariant (P := fun g => g.propagation = m ∧ P g)
    (fun g g' h hstep => ⟨hstep.propagation_eq.trans h.1, hmove g g' h.2 h.1 hstep⟩) g ops ⟨hm, hg⟩
  exact hrun.2

/-! ### Moves that enter no text -/

/-- The two grids differ at most in what no value is computed from. -/
structure Alike (g g' : Grid) : Prop where
  shape_eq : g'.shape = g.shape
  propagation_eq : g'.propagation = g.propagation
  graph_eq : g'.graph = g.graph
  text_eq : ∀ c, g'.text c = g.text c
  value_eq : ∀ c, g'.value c = g.value c

theorem Alike.refl (g : Grid) : g.Alike g :=
  ⟨rfl, rfl, rfl, fun _ => rfl, fun _ => rfl⟩

theorem alike_modify (g : Grid) (a : Address) {f : Cell → Cell} (htext : ∀ c, (f c).text = c.text)
    (hvalue : ∀ c, (f c).value = c.value) : g.Alike (g.modify a f) :=
  ⟨shape_modify, propagation_modify, graph_modify, text_modify_of_eq htext,
    value_modify_of_eq hvalue⟩

theorem alike_map (g : Grid) {f : Cell → Cell} (htext : ∀ c, (f c).text = c.text)
    (hvalue : ∀ c, (f c).value = c.value) : g.Alike { g with cells := g.cells.map f } :=
  ⟨rfl, rfl, rfl, text_map_of_eq htext, value_map_of_eq hvalue⟩

theorem alike_markSaved (g : Grid) : g.Alike g.markSaved :=
  alike_map g (fun _ => rfl) fun _ => rfl

theorem Move.assign_or_alike {g g' : Grid} (h : g.Move g') :
    (∃ a text, g' = (g.assign a text).grid) ∨ g.Alike g' := by
  cases h with
  | stay => exact Or.inr (.refl g)
  | assign a text => exact Or.inl ⟨a, text, rfl⟩
  | paint a color =>
    rw [grid_paint]
    exact Or.inr (alike_modify g a (fun _ => rfl) fun _ => rfl)
  | listen a => exact Or.inr (alike_modify g a (fun _ => rfl) fun _ => rfl)
  | unlisten a id => exact Or.inr (alike_modify g a (fun _ => rfl) fun _ => rfl)
  | save => exact Or.inr (alike_markSaved g)

theorem shape_run (g : Grid) (ops : List Operation) : (g.run ops).shape = g.shape :=
  run_invariant (P := fun g' => g'.shape = g.shape) (fun _ _ h hmove => hmove.shape_eq.trans h) g
    ops rfl

theorem propagation_run (g : Grid) (ops : List Operation) :
    (g.run ops).propagation = g.propagation :=
  run_invariant (P := fun g' => g'.propagation = g.propagation)
    (fun _ _ h hmove => hmove.propagation_eq.trans h) g ops rfl

/-! ### Entering a text -/

section

variable {g : Grid} {a : Address} {text : String}

theorem apply_setText (ha : g.shape.Contains a) :
    g.apply (.setText a text) = .ofUpdate (g.assign a text) := by
  rw [apply, applyAt_of_contains ha]

theorem grid_setText (ha : g.shape.Contains a) :
    (g.apply (.setText a text)).grid = (g.assign a text).grid := by
  rw [apply_setText ha, Transition.grid_ofUpdate]

theorem exists_refusal_of_not_contains (ha : ¬ g.shape.Contains a) (text : String) :
    ∃ cause, g.apply (.setText a text) = .refused g cause := by
  obtain ⟨cause, hexcludes⟩ := Shape.exists_excludes_of_not_contains ha
  refine ⟨cause, ?_⟩
  rw [apply, applyAt_of_excludes hexcludes]

theorem grid_setText_of_not_contains (ha : ¬ g.shape.Contains a) :
    (g.apply (.setText a text)).grid = g := by
  obtain ⟨cause, hrefused⟩ := exists_refusal_of_not_contains ha text
  rw [hrefused, Transition.refused]

theorem text_setText (ha : g.shape.Contains a) :
    (g.apply (.setText a text)).grid.text a = text := by
  rw [grid_setText ha, text_assign_self ha]

theorem text_setText_of_ne {c : Address} (hc : c ≠ a) :
    (g.apply (.setText a text)).grid.text c = g.text c := by
  by_cases ha : g.shape.Contains a
  · rw [grid_setText ha, text_assign_of_ne hc]
  · rw [grid_setText_of_not_contains ha]

end

end Grid

end ReactiveGrid
