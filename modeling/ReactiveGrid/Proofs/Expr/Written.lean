import ReactiveGrid.Proofs.Expr.Steps
import ReactiveGrid.Proofs.Token.Reading

/-!
# The written form of an expression as tokens

Every operation is written in parentheses of its own, so the written form is as deeply nested as the
expression, however the operators bind. It is cut into the tokens that it was put together from, and
these build the expression again, unless they are nested too deep.
-/

namespace ReactiveGrid.Expr
open Token (Scan IsIdentifier)

def numbers : Expr → List Float
  | number v => [v]
  | name _ => []
  | binary _ l r => l.numbers ++ r.numbers

def operators : Expr → Nat
  | number _ => 0
  | name _ => 0
  | binary _ l r => l.operators + r.operators + 1

/-- The most operators on a path from the root to a leaf. -/
def depth : Expr → Nat
  | number _ => 0
  | name _ => 0
  | binary _ l r => max l.depth r.depth + 1

def written : Expr → List Token
  | number v => [.number v]
  | name s => [.name s]
  | binary op l r => .opening :: (l.written ++ .operator op :: (r.written ++ [.closing]))

/-- An expression whose constants and names are written as such. -/
structure Legible (e : Expr) : Prop where
  numbers : ∀ v ∈ e.numbers, Decimal.Plain v
  names : ∀ s ∈ e.occurrences, IsIdentifier s

variable {e l r : Expr} {op : Operator}

theorem Legible.left (h : (binary op l r).Legible) : l.Legible where
  numbers := fun v hv => h.numbers v (List.mem_append_left _ hv)
  names := fun s hs => h.names s (List.mem_append_left _ hs)

theorem Legible.right (h : (binary op l r).Legible) : r.Legible where
  numbers := fun v hv => h.numbers v (List.mem_append_right _ hv)
  names := fun s hs => h.names s (List.mem_append_right _ hs)

theorem Legible.binary (op : Operator) (hl : l.Legible) (hr : r.Legible) :
    (binary op l r).Legible where
  numbers := fun v hv => (List.mem_append.1 hv).elim (hl.numbers v) (hr.numbers v)
  names := fun s hs => (List.mem_append.1 hs).elim (hl.names s) (hr.names s)

theorem toList_text_number (v : Float) : (number v).text.toList = Decimal.renderChars v :=
  String.toList_ofList

theorem toList_text_binary : (binary op l r).text.toList =
    '(' :: (l.text.toList ++ ' ' :: op.symbol :: ' ' :: (r.text.toList ++ [')'])) := by
  simp [text]

/-! ### Cutting -/

/-- The text of an expression is read as its tokens. -/
theorem foldlM_scan_text (h : e.Legible) {s : Scan} {ts : List Token} (hs : s.Clear ts) :
    ∃ s', e.text.toList.foldlM Scan.step s = .ok s' ∧ s'.Settles (e.written.reverse ++ ts) := by
  induction e generalizing s ts with
  | number v =>
    obtain ⟨hnumeral, hread⟩ := Decimal.read?_renderChars (h.numbers v (List.mem_singleton_self v))
    rw [toList_text_number]
    exact hs.numeral hnumeral hread
  | name text => exact hs.word (h.names text (List.mem_singleton_self text))
  | binary op l r ihl ihr =>
    obtain ⟨s₁, hopening, hs₁⟩ := hs.settles.step_symbol (show Token.ofSymbol? '(' = _ from rfl)
    obtain ⟨s₂, hleft, hs₂⟩ := ihl h.left hs₁
    obtain ⟨s₃, hspace, hs₃⟩ := hs₂.step_space
    obtain ⟨s₄, hoperator, hs₄⟩ := hs₃.settles.step_symbol (Token.ofSymbol?_operator op)
    obtain ⟨s₅, hspace', hs₅⟩ := hs₄.settles.step_space
    obtain ⟨s₆, hright, hs₆⟩ := ihr h.right hs₅
    obtain ⟨s₇, hclosing, hs₇⟩ := hs₆.step_symbol (show Token.ofSymbol? ')' = _ from rfl)
    refine ⟨s₇, ?_, ?_⟩
    · rw [toList_text_binary, foldlM_cons_of_ok hopening, foldlM_append_of_ok hleft,
        foldlM_cons_of_ok hspace, foldlM_cons_of_ok hoperator,
        foldlM_cons_of_ok hspace', foldlM_append_of_ok hright,
        foldlM_cons_of_ok hclosing]
      rfl
    · have htokens : (binary op l r).written.reverse ++ ts =
          .closing :: (r.written.reverse ++ .operator op :: (l.written.reverse ++ .opening :: ts)) := by
        simp [written]
      rw [htokens]
      exact hs₇.settles

theorem scan_text (h : e.Legible) : Token.scan e.text = .ok e.written := by
  have hclear : Scan.Clear {} [] := ⟨rfl, rfl⟩
  obtain ⟨s, hrun, hsettles⟩ := foldlM_scan_text h hclear
  have htokens := hsettles.scanChars_eq hrun
  rwa [List.append_nil, List.reverse_reverse] at htokens

/-! ### Building -/

theorem total_push (op : Operator) (e f : Expr) : (({} : Level).push e op).total f = binary op e f := by
  cases op <;> rfl

theorem foldlM_opening_of_full {p : Parse} (hp : p.operand = none)
    (hfull : p.outer.length = maxNesting) (ts : List Token) :
    (.opening :: ts).foldlM Parse.step p = .error (.malformed .nestedTooDeep) := by
  have hstep : p.step .opening = .error (.malformed .nestedTooDeep) := by
    unfold Parse.step
    rw [hp]
    exact if_pos hfull
  rw [List.foldlM_cons, hstep]
  rfl

/-- Behind an opening parenthesis and a left side that fits, its operator is taken as well. -/
theorem foldlM_left {p : Parse} (hp : p.operand = none) (hne : p.outer.length ≠ maxNesting)
    (hops : p.operators + l.operators < maxOperators)
    (hleft : l.written.foldlM Parse.step { p with level := {}, outer := p.level :: p.outer } =
      .ok { p with
        level := {}, outer := p.level :: p.outer, operand := some l
        operators := p.operators + l.operators }) (ts : List Token) :
    (.opening :: (l.written ++ .operator op :: ts)).foldlM Parse.step p =
      ts.foldlM Parse.step { p with
        level := ({} : Level).push l op, outer := p.level :: p.outer
        operators := p.operators + l.operators + 1 } := by
  rw [Parse.foldlM_cons_of_takes (.opening hp hne), foldlM_append_of_ok hleft,
    Parse.foldlM_cons_of_takes (.operator l rfl op (Nat.ne_of_lt hops)), ← hp]

/-- Where there is room for its depth, the tokens of an expression build it. -/
theorem foldlM_written (e : Expr) (p : Parse) (hp : p.operand = none)
    (hdepth : p.outer.length + e.depth ≤ maxNesting)
    (hops : p.operators + e.operators ≤ maxOperators) :
    e.written.foldlM Parse.step p =
      .ok { p with operand := some e, operators := p.operators + e.operators } := by
  induction e generalizing p with
  | number v => exact Parse.foldlM_cons_of_takes (.number hp v) []
  | name s => exact Parse.foldlM_cons_of_takes (.name hp s) []
  | binary op l r ihl ihr =>
    have hdepth : p.outer.length + (max l.depth r.depth + 1) ≤ maxNesting := hdepth
    have hops : p.operators + (l.operators + r.operators + 1) ≤ maxOperators := hops
    have hleft := ihl { p with level := {}, outer := p.level :: p.outer } hp
      (show p.outer.length + 1 + l.depth ≤ maxNesting by omega)
      (show p.operators + l.operators ≤ maxOperators by omega)
    have hright := ihr { p with
        level := ({} : Level).push l op, outer := p.level :: p.outer
        operators := p.operators + l.operators + 1 } hp
      (show p.outer.length + 1 + r.depth ≤ maxNesting by omega)
      (show p.operators + l.operators + 1 + r.operators ≤ maxOperators by omega)
    have hne : p.outer.length ≠ maxNesting := by omega
    have hcount : p.operators + l.operators + 1 + r.operators =
        p.operators + (binary op l r).operators := by
      show _ = p.operators + (l.operators + r.operators + 1)
      omega
    rw [written, foldlM_left hp hne (by omega) hleft, foldlM_append_of_ok hright,
      Parse.foldlM_cons_of_takes (.closing r rfl p.level p.outer rfl), total_push, hcount]
    rfl

/-- Where there is no room for its depth, an expression is refused for that and nothing else. -/
theorem foldlM_written_of_deep (e : Expr) (p : Parse) (hp : p.operand = none)
    (hout : p.outer.length ≤ maxNesting) (hdepth : maxNesting < p.outer.length + e.depth)
    (hops : p.operators + e.operators ≤ maxOperators) :
    e.written.foldlM Parse.step p = .error (.malformed .nestedTooDeep) := by
  induction e generalizing p with
  | number v => exact absurd hdepth (Nat.not_lt.2 hout)
  | name s => exact absurd hdepth (Nat.not_lt.2 hout)
  | binary op l r ihl ihr =>
    have hdepth : maxNesting < p.outer.length + (max l.depth r.depth + 1) := hdepth
    have hops : p.operators + (l.operators + r.operators + 1) ≤ maxOperators := hops
    by_cases hfull : p.outer.length = maxNesting
    · exact foldlM_opening_of_full hp hfull _
    · by_cases hleft : p.outer.length + 1 + l.depth ≤ maxNesting
      · have hleft := foldlM_written l { p with level := {}, outer := p.level :: p.outer } hp hleft
          (show p.operators + l.operators ≤ maxOperators by omega)
        have hright := ihr { p with
            level := ({} : Level).push l op, outer := p.level :: p.outer
            operators := p.operators + l.operators + 1 } hp
          (show p.outer.length + 1 ≤ maxNesting by omega)
          (show maxNesting < p.outer.length + 1 + r.depth by omega)
          (show p.operators + l.operators + 1 + r.operators ≤ maxOperators by omega)
        rw [written, foldlM_left hp hfull (by omega) hleft]
        exact foldlM_append_of_error hright _
      · have hleft := ihl { p with level := {}, outer := p.level :: p.outer } hp
          (show p.outer.length + 1 ≤ maxNesting by omega)
          (show maxNesting < p.outer.length + 1 + l.depth by omega)
          (show p.operators + l.operators ≤ maxOperators by omega)
        rw [written, Parse.foldlM_cons_of_takes (.opening hp hfull)]
        exact foldlM_append_of_error hleft _

end ReactiveGrid.Expr
