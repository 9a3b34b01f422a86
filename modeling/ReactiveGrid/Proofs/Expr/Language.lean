import ReactiveGrid.Proofs.Expr.Complete
import ReactiveGrid.Proofs.Expr.Sound

/-!
# The accepted language

The parser accepts what the grammar derives within the two limits, and nothing else. As a parser
gives one expression at most, the words within the limits have one derived expression each.
-/

namespace ReactiveGrid.Expr

variable {ts : List Token} {e e' : Expr}

theorem ofTokens_eq_ok_iff : ofTokens ts = .ok e ↔ Writes ts e :=
  ⟨writes_of_ofTokens, ofTokens_of_writes⟩

theorem Writes.eq_of_derives (h : Writes ts e) (h' : Derives .sum ts e') : e' = e := by
  have hread := ofTokens_of_writes h
  have hread' := ofTokens_of_writes ⟨h', h.operators_le, h.nested⟩
  rw [hread] at hread'
  exact (Except.ok.inj hread').symm

theorem parse_eq_ok_iff {s : String} :
    parse s = .ok e ↔ ∃ ts, Token.scan s = .ok ts ∧ Writes ts e := by
  unfold parse
  cases hscan : Token.scan s with
  | error fault =>
    refine ⟨fun h => (by cases h), ?_⟩
    rintro ⟨ts, hts, -⟩
    cases hts
  | ok ts =>
    refine ⟨fun h => ⟨ts, rfl, ofTokens_eq_ok_iff.1 h⟩, ?_⟩
    rintro ⟨ts', hts, hwrites⟩
    cases hts
    exact ofTokens_eq_ok_iff.2 hwrites

/-- A text is read as an expression just when its tokens derive the expression with at most 1024
operators and at most 64 parentheses open at once. Any other text is refused, and no second
expression is derived from the tokens of a text that is accepted. -/
theorem parse_accepts_grammar_within_limits (s : String) :
    (∀ e, parse s = .ok e ↔ ∃ ts, Token.scan s = .ok ts ∧ Derives .sum ts e ∧
      ts.countP Token.isOperator ≤ 1024 ∧ NestedWithin 64 ts) ∧
    ((¬ ∃ e ts, Token.scan s = .ok ts ∧ Derives .sum ts e ∧
      ts.countP Token.isOperator ≤ 1024 ∧ NestedWithin 64 ts) →
        ∃ fault, parse s = .error fault) ∧
    (∀ e ts e', parse s = .ok e → Token.scan s = .ok ts → Derives .sum ts e' → e' = e) := by
  have haccepted : ∀ e, parse s = .ok e ↔ ∃ ts, Token.scan s = .ok ts ∧ Derives .sum ts e ∧
      ts.countP Token.isOperator ≤ 1024 ∧ NestedWithin 64 ts := by
    intro e
    rw [parse_eq_ok_iff]
    constructor
    · rintro ⟨ts, hscan, h⟩
      exact ⟨ts, hscan, h.derives, h.operators_le, h.nested⟩
    · rintro ⟨ts, hscan, hderives, hoperators, hnested⟩
      exact ⟨ts, hscan, hderives, hoperators, hnested⟩
  refine ⟨haccepted, ?_, ?_⟩
  · intro hnone
    cases hparse : parse s with
    | error fault => exact ⟨fault, rfl⟩
    | ok e => exact absurd ⟨e, (haccepted e).1 hparse⟩ hnone
  · intro e ts e' hparse hscan hderives
    obtain ⟨ts', hscan', h⟩ := parse_eq_ok_iff.1 hparse
    rw [hscan] at hscan'
    cases hscan'
    exact h.eq_of_derives hderives

end ReactiveGrid.Expr
