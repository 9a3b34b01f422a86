import Mathlib.Logic.Relation
import ReactiveGrid.Proofs.Expr.Substitution
import ReactiveGrid.Proofs.Latest

/-!
# What assignments make of an expression

Of some assignments only the last one to each name counts, and only if the expression has that name. So
the value of the expression is the value of a constant one, which has the last number that was assigned
to each name in the place of the name, and zero in the place of a name to which none was assigned.
-/

namespace ReactiveGrid

theorem Expr.occurrences_substitute (number : String → Float) (e : Expr) :
    (e.substitute number).occurrences = [] := by
  induction e with
  | number => rfl
  | name => rfl
  | binary op l r ihl ihr => rw [substitute, occurrences, ihl, ihr, List.append_nil]

theorem Expr.substitute_congr {number number' : String → Float} {e : Expr}
    (h : ∀ s ∈ e.occurrences, number s = number' s) : e.substitute number = e.substitute number' := by
  induction e with
  | number => rfl
  | name s => rw [substitute, substitute, h s (List.mem_singleton_self s)]
  | binary op l r ihl ihr =>
    rw [substitute, substitute, ihl fun s hs => h s (List.mem_append_left _ hs),
      ihr fun s hs => h s (List.mem_append_right _ hs)]

namespace Formula

/-- The number that was assigned to the name last, or zero. -/
def lastNumber (assignments : List (String × Float)) (name : String) : Float :=
  (assignments.reverse.lookup name).getD 0

section

variable {assignments assignments' front back : List (String × Float)} {p q : String × Float}
  {name : String} {v : Float} {e : Expr}

theorem lookup_reverse_append : (front ++ back).reverse.lookup name =
    (back.reverse.lookup name).or (front.reverse.lookup name) := by
  rw [List.reverse_append, List.lookup_append]

theorem lastNumber_concat : lastNumber (assignments ++ [p]) name =
    if p.1 = name then p.2 else lastNumber assignments name := by
  unfold lastNumber
  rw [lookup_reverse_append, List.reverse_singleton, lookup_singleton]
  split
  · rfl
  · rfl

theorem latest_iff_eq_lastNumber :
    Latest (fun p v => p = (name, v)) 0 assignments v ↔ v = lastNumber assignments name := by
  induction assignments using List.reverseRecOn with
  | nil => exact latest_nil
  | append_singleton assignments p ih =>
    rw [lastNumber_concat]
    split
    · next hp =>
      refine latest_concat_of_tells fun w => ?_
      rw [Prod.ext_iff, and_iff_right hp, eq_comm]
    · next hp =>
      rw [latest_concat_of_silent, ih]
      rintro ⟨w, rfl⟩
      exact hp rfl

theorem eval_foldl_set (assignments : List (String × Float)) (e : Expr) :
    eval (assignments.foldl (fun f p => f.set p.1 p.2) { root := some e }) =
      .ok ((e.substitute (lastNumber assignments)).eval fun _ => none) := by
  have heval : e.eval (value? (assignments.foldl (fun f p => f.set p.1 p.2) { root := some e })) =
      (e.substitute (lastNumber assignments)).eval fun _ => none := by
    rw [Expr.eval_substitute]
    refine Expr.eval_congr fun s _ => ?_
    rw [value?_foldl_set, value?_of_root, Option.or_none]
    rfl
  rw [eval, root_foldl_set]
  exact congrArg Except.ok heval

/-! ### Assignments that do not count -/

/-- One list of assignments comes from the other by one to a foreign name or one that is overwritten
later, or by another order of two assignments to different names. -/
inductive Immaterial (names : List String) :
    List (String × Float) → List (String × Float) → Prop where
  | foreign (front back : List (String × Float)) (p : String × Float) (h : p.1 ∉ names) :
      Immaterial names (front ++ back) (front ++ p :: back)
  | overwritten (front back : List (String × Float)) (p later : String × Float)
      (hmem : later ∈ back) (h : later.1 = p.1) :
      Immaterial names (front ++ back) (front ++ p :: back)
  | swap (front back : List (String × Float)) (p q : String × Float) (h : p.1 ≠ q.1) :
      Immaterial names (front ++ p :: q :: back) (front ++ q :: p :: back)

theorem lookup_reverse_cons (p : String × Float) : (p :: back).reverse.lookup name =
    (back.reverse.lookup name).or (if p.1 = name then some p.2 else none) := by
  rw [List.reverse_cons, List.lookup_append, lookup_singleton]

theorem lookup_reverse_insert (front : List (String × Float))
    (h : p.1 = name → back.reverse.lookup name ≠ none) :
    (front ++ p :: back).reverse.lookup name = (front ++ back).reverse.lookup name := by
  rw [lookup_reverse_append, lookup_reverse_append, lookup_reverse_cons]
  by_cases hp : p.1 = name
  · obtain ⟨w, hw⟩ := Option.ne_none_iff_exists'.1 (h hp)
    rw [hw, Option.some_or]
  · rw [if_neg hp, Option.or_none]

theorem lookup_reverse_ne_none (hmem : p ∈ back) (hp : p.1 = name) :
    back.reverse.lookup name ≠ none := by
  intro hnone
  have hne := List.lookup_eq_none_iff.1 hnone p (List.mem_reverse.2 hmem)
  rw [hp, bne_self_eq_false] at hne
  cases hne

theorem Immaterial.lastNumber_eq {names : List String}
    (h : Immaterial names assignments assignments') (hname : name ∈ names) :
    lastNumber assignments name = lastNumber assignments' name := by
  unfold lastNumber
  cases h with
  | foreign front back p hp =>
    rw [lookup_reverse_insert]
    rintro rfl
    exact absurd hname hp
  | overwritten front back p later hmem hlater =>
    rw [lookup_reverse_insert]
    intro hp
    exact lookup_reverse_ne_none hmem (hlater.trans hp)
  | swap front back p q hne =>
    rw [lookup_reverse_append, lookup_reverse_append, lookup_reverse_cons, lookup_reverse_cons,
      lookup_reverse_cons, lookup_reverse_cons]
    by_cases hp : p.1 = name
    · rw [if_neg fun hq => hne (hp.trans hq.symm), Option.or_none, Option.or_none]
    · rw [if_neg hp, Option.or_none, Option.or_none]

theorem lastNumber_eq_of_eqvGen {names : List String}
    (h : Relation.EqvGen (Immaterial names) assignments assignments') (hname : name ∈ names) :
    lastNumber assignments name = lastNumber assignments' name := by
  induction h with
  | rel _ _ h => exact h.lastNumber_eq hname
  | refl => rfl
  | symm _ _ _ ih => exact ih.symm
  | trans _ _ _ _ _ ih ih' => exact ih.trans ih'

end

end Formula

end ReactiveGrid
