import ReactiveGrid.Binding
import ReactiveGrid.Proofs.Expr.Substitution
import ReactiveGrid.Proofs.Grid.Links

/-!
# What a formula takes from a grid

Of the names of a formula just those take a number that name a cell inside the grid whose value reads
as a number. How the name is spelled decides which cell is asked, but the table is kept by spelling. A
grid is only read, so taking the numbers once more changes nothing; and a text is worth what its
expression is worth with the numbers of the cells in the place of their names, and zero in the place
of the others.
-/

namespace ReactiveGrid.Grid

variable {g : Grid} {f : Formula} {name x y : String} {v : Float}

/-- The name is that of a cell inside the grid, and the value of the cell reads as the number. -/
def Shows (g : Grid) (name : String) (v : Float) : Prop :=
  ∃ a, Address.parse name = .ok a ∧ g.shape.Contains a ∧
    Decimal.read? (Text.trim (g.value a).toList) = some v

theorem number?_eq_some_iff : g.number? name = some v ↔ g.Shows name v := by
  unfold number? cellByName? Shows
  simp only [Option.bind_eq_some_iff, Shape.resolve?_eq_some_iff]
  constructor
  · rintro ⟨c, ⟨a, ⟨hparse, hin⟩, hc⟩, hread⟩
    rw [← value_of_cell? hc] at hread
    exact ⟨a, hparse, hin, hread⟩
  · rintro ⟨a, hparse, hin, hread⟩
    rw [value_of_cell? (cell?_of_contains hin)] at hread
    exact ⟨_, ⟨a, ⟨hparse, hin⟩, cell?_of_contains hin⟩, hread⟩

theorem number?_eq_none_iff : g.number? name = none ↔ ¬ ∃ v, g.Shows name v := by
  rw [Option.eq_none_iff_forall_ne_some, not_exists]
  exact forall_congr' fun v => not_congr number?_eq_some_iff

/-- What the name counts for: the number that it shows, or zero. -/
def shown (g : Grid) (name : String) : Float :=
  (g.number? name).getD 0

theorem shown_of_shows (h : g.Shows name v) : g.shown name = v := by
  rw [shown, number?_eq_some_iff.2 h, Option.getD_some]

theorem shown_of_not (h : ¬ ∃ v, g.Shows name v) : g.shown name = 0 := by
  rw [shown, number?_eq_none_iff.2 h, Option.getD_none]

theorem Shows.congr (hxy : Address.parse x = Address.parse y) (h : g.Shows x v) : g.Shows y v := by
  unfold Shows at h ⊢
  rwa [← hxy]

example : Address.parse "A01" = Address.parse "A1" := by
  decide +kernel

theorem lookup_filterMap (number? : String → Option Float) (names : List String) (name : String) :
    (names.filterMap fun x => (number? x).map (x, ·)).lookup name =
      if name ∈ names then number? name else none := by
  induction names with
  | nil => rfl
  | cons x xs ih =>
    by_cases hname : name = x
    · subst hname
      rw [if_pos List.mem_cons_self]
      cases hx : number? name with
      | none =>
        rw [List.filterMap_cons_none (by rw [hx, Option.map_none]), ih, hx]
        exact ite_self none
      | some v =>
        rw [List.filterMap_cons_some (by rw [hx, Option.map_some]), List.lookup_cons_self]
    · have hmem : name ∈ x :: xs ↔ name ∈ xs := by
        rw [List.mem_cons, or_iff_right hname]
      rw [if_congr hmem rfl rfl, ← ih]
      cases hx : number? x with
      | none => rw [List.filterMap_cons_none (by rw [hx, Option.map_none])]
      | some v =>
        rw [List.filterMap_cons_some (by rw [hx, Option.map_some]), List.lookup_cons,
          beq_false_of_ne hname]

theorem value?_bind : (g.bind f).value? name =
    (if name ∈ f.names then g.number? name else none).or (f.value? name) := by
  unfold bind bindings
  -- the bindings of one name agree, so it does not matter that the last one counts
  rw [Formula.value?_foldl_set, ← List.filterMap_reverse, lookup_filterMap,
    if_congr List.mem_reverse rfl rfl]

theorem root_bind : (g.bind f).root = f.root :=
  Formula.root_foldl_set _ _

theorem value?_bind_of_shows (hname : name ∈ f.names) (h : g.Shows name v) :
    (g.bind f).value? name = some v := by
  rw [value?_bind, if_pos hname, number?_eq_some_iff.2 h, Option.some_or]

theorem value?_bind_of_not (h : ¬ (name ∈ f.names ∧ ∃ v, g.Shows name v)) :
    (g.bind f).value? name = f.value? name := by
  rw [value?_bind]
  split
  · next hname =>
    rw [number?_eq_none_iff.2 fun hv => h ⟨hname, hv⟩, Option.none_or]
  · rw [Option.none_or]

theorem bind_bind : g.bind (g.bind f) = g.bind f := by
  refine Formula.ext_value? root_bind fun name => ?_
  by_cases h : name ∈ f.names ∧ ∃ v, g.Shows name v
  · obtain ⟨hname, v, hv⟩ := h
    rw [value?_bind_of_shows hname hv]
    rw [← Formula.names_congr (root_bind (g := g) (f := f))] at hname
    exact value?_bind_of_shows hname hv
  · rw [← Formula.names_congr (root_bind (g := g) (f := f))] at h
    exact value?_bind_of_not h

theorem map_fst_bindings (g : Grid) (f : Formula) :
    (g.bindings f).map (·.1) = f.names.filter fun name => (g.number? name).isSome := by
  unfold bindings
  induction f.names with
  | nil => rfl
  | cons x xs ih =>
    cases hx : g.number? x with
    | none =>
      rw [List.filterMap_cons_none (by rw [hx, Option.map_none]), ih,
        List.filter_cons_of_neg (by rw [hx]; decide)]
    | some v =>
      rw [List.filterMap_cons_some (by rw [hx, Option.map_some]), List.map_cons, ih,
        List.filter_cons_of_pos (by rw [hx]; rfl)]

theorem mem_map_fst_bindings :
    name ∈ (g.bindings f).map (·.1) ↔ name ∈ f.names ∧ ∃ v, g.Shows name v := by
  rw [map_fst_bindings, List.mem_filter, Option.isSome_iff_exists]
  simp only [number?_eq_some_iff]

theorem eval_bind (g : Grid) (e : Expr) :
    (g.bind { root := some e }).eval = .ok ((e.substitute g.shown).eval fun _ => none) := by
  rw [Expr.eval_substitute]
  unfold Formula.eval
  rw [root_bind]
  refine congrArg Except.ok (Expr.eval_congr fun name hname => ?_)
  have hmem : name ∈ Formula.names { root := some e } := Expr.mem_names.2 hname
  rw [value?_bind, if_pos hmem, Formula.value?_of_root, Option.or_none]
  rfl

theorem evaluateText_of_parse {text : String} {e : Expr} (h : Expr.parse text = .ok e) :
    g.evaluateText text = .ok ((e.substitute g.shown).eval fun _ => none) := by
  unfold evaluateText
  rw [Formula.parse_eq_ok_iff.2 ⟨e, h, rfl⟩]
  exact eval_bind g e

theorem evaluateText_eq_error_iff {text : String} {fault : Expr.Fault} :
    g.evaluateText text = .error fault ↔ Expr.parse text = .error fault := by
  cases h : Expr.parse text with
  | ok e =>
    rw [evaluateText_of_parse h]
    exact ⟨nofun, nofun⟩
  | error cause =>
    unfold evaluateText
    rw [Formula.parse_eq_error_iff.2 h]
    constructor
    · exact fun h => congrArg Except.error (Except.error.inj h)
    · exact fun h => congrArg Except.error (Except.error.inj h)

/-- Taking numbers from a grid keeps the expression of a formula, sets just its names that show a
number, two spellings of one address each on its own but to the same number, and leaves the rest of the
table. The bindings list the names that were set, each once. To take the numbers again changes nothing.
A text that is no expression is refused with its fault; any other is worth its expression with, in the
place of each name, the number that the name shows, or zero. -/
theorem names_take_shown_numbers (g : Grid) :
    (∀ f : Formula,
      (g.bind f).root = f.root ∧
      (∀ name v, name ∈ f.names → g.Shows name v → (g.bind f).value? name = some v) ∧
      (∀ name, ¬ (name ∈ f.names ∧ ∃ v, g.Shows name v) →
        (g.bind f).value? name = f.value? name) ∧
      (∀ x y v, Address.parse x = Address.parse y → x ∈ f.names → y ∈ f.names → g.Shows x v →
        (g.bind f).value? x = some v ∧ (g.bind f).value? y = some v) ∧
      (∃ bound : List String, bound.Nodup ∧
        (∀ name, name ∈ bound ↔ name ∈ f.names ∧ ∃ v, g.Shows name v) ∧
        (g.bindings f).length = bound.length) ∧
      g.bind (g.bind f) = g.bind f) ∧
    ∃ number : String → Float,
      (∀ name v, g.Shows name v → number name = v) ∧
      (∀ name, (¬ ∃ v, g.Shows name v) → number name = 0) ∧
      ∀ text,
        (∀ fault, g.evaluateText text = .error fault ↔ Expr.parse text = .error fault) ∧
        ∀ e, Expr.parse text = .ok e →
          g.evaluateText text = .ok ((e.substitute number).eval fun _ => none) := by
  constructor
  · intro f
    refine ⟨root_bind, fun name v => value?_bind_of_shows, fun name => value?_bind_of_not, ?_, ?_,
      bind_bind⟩
    · intro x y v hxy hx hy hv
      exact ⟨value?_bind_of_shows hx hv, value?_bind_of_shows hy (hv.congr hxy)⟩
    · refine ⟨(g.bindings f).map (·.1), ?_, fun name => mem_map_fst_bindings, ?_⟩
      · rw [map_fst_bindings]
        exact f.nodup_names.filter _
      · rw [List.length_map]
  · refine ⟨g.shown, fun name v => shown_of_shows, fun name => shown_of_not, fun text => ?_⟩
    exact ⟨fun fault => evaluateText_eq_error_iff, fun e => evaluateText_of_parse⟩

end ReactiveGrid.Grid
