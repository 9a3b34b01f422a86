import ReactiveGrid.Proofs.Expr.Grammar
import ReactiveGrid.Proofs.Expr.Steps

/-!
# Every word of the grammar within the limits is accepted

The parser takes a word of a category from any point where such a word may start, as long as the
operators counted and the parentheses open there leave room for those of the word. It then stands
behind a complete operand, which the pending left sides turn into the expression of the word.
-/

namespace ReactiveGrid.Expr

/-- From so many operators and open parentheses on, the tokens keep within the limits. -/
structure Fits (operators depth : Nat) (ts : List Token) : Prop where
  operators_le : operators + ts.countP Token.isOperator ≤ maxOperators
  nested : ∀ front, front <+: ts →
    depth + front.countP Token.isOpening ≤ front.countP Token.isClosing + maxNesting

namespace Fits

variable {n depth : Nat} {ls rs ts : List Token}

theorem left (h : Fits n depth (ls ++ rs)) : Fits n depth ls where
  operators_le := by
    have hle := h.operators_le
    rw [List.countP_append] at hle
    omega
  nested := fun front hfront => h.nested front (hfront.trans (List.prefix_append ..))

theorem right (h : Fits n depth (ls ++ rs))
    (hbal : ls.countP Token.isOpening = ls.countP Token.isClosing) :
    Fits (n + ls.countP Token.isOperator) depth rs where
  operators_le := by
    have hle := h.operators_le
    rw [List.countP_append] at hle
    omega
  nested := by
    intro front hfront
    have hle := h.nested (ls ++ front) ((List.prefix_append_right_inj ls).2 hfront)
    rw [List.countP_append, List.countP_append] at hle
    omega

theorem lt_maxOperators {op : Operator} (h : Fits n depth (.operator op :: ts)) :
    n < maxOperators := by
  have hle := h.operators_le
  have hcount : List.countP Token.isOperator (.operator op :: ts) =
      ts.countP Token.isOperator + 1 := List.countP_cons_of_pos rfl
  omega

theorem operator {op : Operator} (h : Fits n depth (.operator op :: ts)) :
    Fits (n + 1) depth ts :=
  Fits.right (show Fits n depth ([.operator op] ++ ts) from h) rfl

theorem lt_maxNesting (h : Fits n depth (.opening :: ts)) : depth < maxNesting := by
  have hle : depth + 1 ≤ 0 + maxNesting := h.nested [.opening] ⟨ts, rfl⟩
  omega

theorem inside (h : Fits n depth (.opening :: ts ++ [.closing])) : Fits n (depth + 1) ts where
  operators_le := by
    have hle := h.left.operators_le
    rwa [List.countP_cons_of_neg (by decide)] at hle
  nested := by
    intro front hfront
    have hle := h.left.nested (.opening :: front) (List.cons_prefix_cons.2 ⟨rfl, hfront⟩)
    rw [List.countP_cons_of_pos (by decide), List.countP_cons_of_neg (by decide)] at hle
    omega

end Fits

/-- Where a word of a category may start: no left side waits that is of its own level or a tighter
one. -/
def Category.Ready : Category → Level → Prop
  | operand, _ => True
  | product, l => l.product = none
  | sum, l => l = {}

/-- What is pending behind a word of a category, and the operand there, make up its expression. -/
def Category.Done : Category → Level → Level → Expr → Expr → Prop
  | operand, before, after, f, e => after = before ∧ f = e
  | product, before, after, f, e => after.sum = before.sum ∧ after.term f = e
  | sum, _, after, f, e => after.total f = e

theorem countP_operation (ls rs : List Token) (op : Operator) :
    (ls ++ .operator op :: rs).countP Token.isOperator =
      ls.countP Token.isOperator + 1 + rs.countP Token.isOperator := by
  rw [List.countP_append, List.countP_cons_of_pos rfl]
  omega

theorem foldlM_step_operation {p : Parse} {ls rs : List Token} {op : Operator} {l l' : Level}
    {f f' : Expr}
    (hleft : ls.foldlM Parse.step p = .ok { p with
      level := l, operand := some f
      operators := p.operators + ls.countP Token.isOperator })
    (hlt : p.operators + ls.countP Token.isOperator < maxOperators)
    (hright : rs.foldlM Parse.step { p with
        level := l.push f op, operand := none
        operators := p.operators + ls.countP Token.isOperator + 1 } = .ok { p with
      level := l', operand := some f'
      operators := p.operators + ls.countP Token.isOperator + 1 + rs.countP Token.isOperator }) :
    (ls ++ .operator op :: rs).foldlM Parse.step p = .ok { p with
      level := l', operand := some f'
      operators := p.operators + (ls ++ .operator op :: rs).countP Token.isOperator } := by
  rw [foldlM_append_of_ok hleft,
    Parse.foldlM_cons_of_takes (.operator f rfl op (Nat.ne_of_lt hlt)), hright, countP_operation]
  simp only [Nat.add_assoc]

/-- The parser takes a word of a category from any point where it may start and has room. -/
theorem foldlM_step_of_derives {c : Category} {ts : List Token} {e : Expr} (h : Derives c ts e) :
    ∀ p : Parse, p.operand = none → c.Ready p.level → Fits p.operators p.outer.length ts →
      ∃ l f, ts.foldlM Parse.step p = .ok { p with
          level := l, operand := some f
          operators := p.operators + ts.countP Token.isOperator } ∧
        c.Done p.level l f e := by
  induction h with
  | sum_product ts e _ ih =>
    intro p hp hready hfits
    have hl : p.level = {} := hready
    obtain ⟨l, f, hrun, hsum, hterm⟩ := ih p hp (by rw [hl]; rfl) hfits
    refine ⟨l, f, hrun, ?_⟩
    rw [hl] at hsum
    show l.total f = e
    unfold Level.total
    rw [hsum, hterm]
  | sum_binary ls rs op left right hl hop hr ihl ihr =>
    intro p hp hready hfits
    obtain ⟨l, f, hrun, htotal⟩ := ihl p hp hready hfits.left
    have hroom := hfits.right hl.balanced
    obtain ⟨l', f', hrun', hsum, hterm⟩ := ihr { p with
      level := l.push f op, operand := none
      operators := p.operators + ls.countP Token.isOperator + 1 } rfl
      (by rw [Level.push_sum hop]; rfl) hroom.operator
    refine ⟨l', f', foldlM_step_operation hrun hroom.lt_maxOperators hrun', ?_⟩
    rw [Level.push_sum hop] at hsum
    have htotal' : l.total f = left := htotal
    show l'.total f' = .binary op left right
    unfold Level.total
    rw [hsum, hterm, ← htotal']
  | product_operand ts e _ ih =>
    intro p hp hready hfits
    have hnone : p.level.product = none := hready
    obtain ⟨l, f, hrun, rfl, rfl⟩ := ih p hp trivial hfits
    refine ⟨p.level, f, hrun, rfl, ?_⟩
    unfold Level.term
    rw [hnone]
  | product_binary ls rs op left right hl hop hr ihl ihr =>
    intro p hp hready hfits
    obtain ⟨l, f, hrun, hsum, hterm⟩ := ihl p hp hready hfits.left
    have hroom := hfits.right hl.balanced
    obtain ⟨l', f', hrun', hl', hf'⟩ := ihr { p with
      level := l.push f op, operand := none
      operators := p.operators + ls.countP Token.isOperator + 1 } rfl trivial hroom.operator
    refine ⟨l', f', foldlM_step_operation hrun hroom.lt_maxOperators hrun', ?_, ?_⟩
    · rw [hl', Level.push_product hop]
      exact hsum
    · rw [hl', hf', Level.push_product hop, ← hterm]
      rfl
  | number v =>
    intro p hp _ _
    refine ⟨p.level, .number v, ?_, rfl, rfl⟩
    exact Parse.foldlM_cons_of_takes (.number hp v) []
  | name s =>
    intro p hp _ _
    refine ⟨p.level, .name s, ?_, rfl, rfl⟩
    exact Parse.foldlM_cons_of_takes (.name hp s) []
  | parentheses ts e _ ih =>
    intro p hp _ hfits
    have hlt := hfits.left.lt_maxNesting
    obtain ⟨l, f, hrun, htotal⟩ := ih { p with level := {}, outer := p.level :: p.outer } hp rfl
      hfits.inside
    refine ⟨p.level, e, ?_, rfl, rfl⟩
    have htotal' : l.total f = e := htotal
    have hcount : (.opening :: (ts ++ [.closing])).countP Token.isOperator =
        ts.countP Token.isOperator := by
      rw [List.countP_cons_of_neg (by decide), List.countP_append]
      rfl
    rw [List.cons_append, Parse.foldlM_cons_of_takes (.opening hp (Nat.ne_of_lt hlt)),
      foldlM_append_of_ok hrun,
      Parse.foldlM_cons_of_takes (.closing f rfl p.level p.outer rfl), htotal', hcount]
    rfl

theorem ofTokens_of_writes {ts : List Token} {e : Expr} (h : Writes ts e) :
    ofTokens ts = .ok e := by
  have hfits : Fits 0 0 ts :=
    ⟨by have := h.operators_le; omega, fun front hfront => by
      have hle := h.nested front hfront
      omega⟩
  obtain ⟨l, f, hrun, htotal⟩ := foldlM_step_of_derives h.derives {} rfl rfl hfits
  have htotal' : l.total f = e := htotal
  have hne : ts.isEmpty = false := by
    cases ts with
    | nil => exact absurd rfl h.derives.ne_nil
    | cons t rest => rfl
  unfold ofTokens
  rw [hne, hrun, ← htotal']
  rfl

end ReactiveGrid.Expr
