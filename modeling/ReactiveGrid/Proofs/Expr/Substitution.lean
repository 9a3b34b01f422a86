import ReactiveGrid.Proofs.Expr.InOrder

/-!
# Numbers in the place of names

What an expression is worth depends on the table only through its own names, and is what the
expression is worth once the number of each name stands in its place. The table of a formula gives a
name the last value that was set for exactly that name.
-/

namespace ReactiveGrid

namespace Expr

variable {e : Expr} {value? value?' : String → Option Float}

def substitute (number : String → Float) : Expr → Expr
  | .number v => .number v
  | .name s => .number (number s)
  | .binary op l r => .binary op (l.substitute number) (r.substitute number)

/-- A name that the table lacks counts like one for which the table has zero. -/
theorem eval_congr (h : ∀ s ∈ e.occurrences, (value? s).getD 0 = (value?' s).getD 0) :
    e.eval value? = e.eval value?' := by
  induction e with
  | number => rfl
  | name s => exact h s (List.mem_singleton_self s)
  | binary op l r ihl ihr =>
    rw [eval, eval, ihl fun s hs => h s (List.mem_append_left _ hs),
      ihr fun s hs => h s (List.mem_append_right _ hs)]

theorem eval_substitute (number : String → Float) :
    (e.substitute number).eval value? = e.eval fun s => some (number s) := by
  induction e with
  | number => rfl
  | name => rfl
  | binary op l r ihl ihr => rw [substitute, eval, eval, ihl, ihr]

end Expr

namespace Formula

variable {f f' : Formula} {name s : String} {v : Float} {e : Expr}

theorem parse_eq_error_iff {fault : Expr.Fault} :
    Formula.parse s = .error fault ↔ Expr.parse s = .error fault := by
  unfold Formula.parse
  cases Expr.parse s with
  | error cause =>
    constructor
    · exact fun h => congrArg Except.error (Except.error.inj h)
    · exact fun h => congrArg Except.error (Except.error.inj h)
  | ok e => exact ⟨nofun, nofun⟩

theorem nodup_names (f : Formula) : f.names.Nodup := by
  unfold names
  cases f.root with
  | none => exact List.nodup_nil
  | some e => exact e.nodup_names

theorem names_congr (h : f.root = f'.root) : f.names = f'.names := by
  unfold names
  rw [h]

theorem ext_value? (hroot : f.root = f'.root) (hvalue : ∀ name, f.value? name = f'.value? name) :
    f = f' := by
  have htable : f.table = f'.table := Std.ExtTreeMap.ext_getElem? fun {name} => hvalue name
  cases f
  cases f'
  cases hroot
  cases htable
  rfl

theorem value?_of_root (root : Option Expr) (name : String) :
    value? { root := root } name = none :=
  Std.ExtTreeMap.getElem?_empty

theorem value?_set : (f.set s v).value? name = if s = name then some v else f.value? name := by
  unfold value? set
  rw [Std.ExtTreeMap.getElem?_insert]
  simp only [Std.compare_eq_iff_eq]

theorem root_foldl_set (ps : List (String × Float)) (f : Formula) :
    (ps.foldl (fun f p => f.set p.1 p.2) f).root = f.root := by
  induction ps generalizing f with
  | nil => rfl
  | cons p ps ih => exact ih (f.set p.1 p.2)

theorem lookup_singleton (p : String × Float) (name : String) :
    [p].lookup name = if p.1 = name then some p.2 else none := by
  rw [List.lookup_cons, List.lookup_nil]
  by_cases h : p.1 = name
  · rw [if_pos h, h, beq_self_eq_true]
  · rw [if_neg h, beq_false_of_ne (Ne.symm h)]

/-- After some assignments a name has the last value that was set for it, or else what it had before. -/
theorem value?_foldl_set (ps : List (String × Float)) (f : Formula) (name : String) :
    (ps.foldl (fun f p => f.set p.1 p.2) f).value? name =
      (ps.reverse.lookup name).or (f.value? name) := by
  induction ps generalizing f with
  | nil => rfl
  | cons p ps ih =>
    rw [List.foldl_cons, ih, List.reverse_cons, List.lookup_append, Option.or_assoc, value?_set,
      lookup_singleton]
    split
    · rfl
    · rfl

end Formula

end ReactiveGrid
