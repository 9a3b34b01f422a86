import ReactiveGrid.Expr.Parser
import ReactiveGrid.Proofs.Folds

/-!
# What taking a token does

A token is taken in one of five ways; every other one is refused.
-/

namespace ReactiveGrid.Expr

theorem Level.push_sum {l : Level} {e : Expr} {op : Operator}
    (hop : op = .add ∨ op = .subtract) : l.push e op = { sum := some (l.total e, op) } := by
  rcases hop with rfl | rfl <;> rfl

theorem Level.push_product {l : Level} {e : Expr} {op : Operator}
    (hop : op = .multiply ∨ op = .divide) :
    l.push e op = { l with product := some (l.term e, op) } := by
  rcases hop with rfl | rfl <;> rfl

namespace Parse

/-- The ways in which a token is taken, and what it leads to. -/
inductive Takes (p : Parse) : Token → Parse → Prop where
  | number (hp : p.operand = none) (v : Float) :
      Takes p (.number v) { p with operand := some (.number v) }
  | name (hp : p.operand = none) (s : String) :
      Takes p (.name s) { p with operand := some (.name s) }
  | opening (hp : p.operand = none) (hne : p.outer.length ≠ maxNesting) :
      Takes p .opening { p with level := {}, outer := p.level :: p.outer }
  | operator (e : Expr) (hp : p.operand = some e) (op : Operator)
      (hne : p.operators ≠ maxOperators) :
      Takes p (.operator op) { p with
        level := p.level.push e op, operand := none, operators := p.operators + 1 }
  | closing (e : Expr) (hp : p.operand = some e) (l : Level) (ls : List Level)
      (hout : p.outer = l :: ls) :
      Takes p .closing { p with level := l, outer := ls, operand := some (p.level.total e) }

variable {p q : Parse} {t : Token}

theorem Takes.step_eq (h : Takes p t q) : p.step t = .ok q := by
  unfold step
  cases h with
  | number hp v =>
    simp only [hp, takeOperand]
  | name hp s =>
    simp only [hp, takeOperand]
  | opening hp hne =>
    simp only [hp, takeOperand, if_neg hne]
  | operator e hp op hne =>
    simp only [hp, takeAfter, if_neg hne]
  | closing e hp l ls hout =>
    simp only [hp, takeAfter, hout, if_true]

theorem takes_of_takeOperand (hp : p.operand = none) (h : p.takeOperand t = .ok q) :
    Takes p t q := by
  cases t with
  | number v =>
    cases h
    exact .number hp v
  | name s =>
    cases h
    exact .name hp s
  | opening =>
    by_cases hne : p.outer.length = maxNesting
    · simp only [takeOperand, if_pos hne] at h
      cases h
    · simp only [takeOperand, if_neg hne] at h
      cases h
      exact .opening hp hne
  | operator op => cases h
  | closing => cases h

theorem takes_of_takeAfter {e : Expr} (hp : p.operand = some e) (h : p.takeAfter e t = .ok q) :
    Takes p t q := by
  cases t with
  | operator op =>
    by_cases hne : p.operators = maxOperators
    · simp only [takeAfter, if_pos hne] at h
      cases h
    · simp only [takeAfter, if_neg hne] at h
      cases h
      exact .operator e hp op hne
  | closing =>
    cases hout : p.outer with
    | nil =>
      simp only [takeAfter, hout] at h
      cases h
    | cons l ls =>
      simp only [takeAfter, hout, if_true] at h
      cases h
      exact .closing e hp l ls hout
  | number v | name s | opening =>
    cases hout : p.outer <;> simp [takeAfter, hout] at h

theorem step_eq_ok_iff : p.step t = .ok q ↔ Takes p t q := by
  refine ⟨fun h => ?_, Takes.step_eq⟩
  unfold step at h
  cases hp : p.operand with
  | none =>
    rw [hp] at h
    exact takes_of_takeOperand hp h
  | some e =>
    rw [hp] at h
    exact takes_of_takeAfter hp h

theorem foldlM_cons_of_takes (h : Takes p t q) (ts : List Token) :
    (t :: ts).foldlM step p = ts.foldlM step q :=
  foldlM_cons_of_ok h.step_eq ts

theorem finish_eq_ok_iff {e : Expr} :
    p.finish = .ok e ↔ ∃ f, p.operand = some f ∧ p.outer = [] ∧ p.level.total f = e := by
  obtain ⟨level, outer, operand, operators⟩ := p
  cases operand <;> cases outer <;> simp [finish]

end Parse

theorem ofTokens_eq_ok {ts : List Token} {e : Expr} (h : ofTokens ts = .ok e) :
    ∃ p, ts.foldlM Parse.step {} = .ok p ∧ p.finish = .ok e := by
  unfold ofTokens at h
  split at h
  · cases h
  · exact bind_eq_ok_iff.1 h

end ReactiveGrid.Expr
