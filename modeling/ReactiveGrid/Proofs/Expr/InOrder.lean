import ReactiveGrid.Formula
import ReactiveGrid.Proofs.Expr.RoundTrip

/-!
# Operands and operators keep their order

Parsing decides how operators group, and nothing else: the numbers, names and operators of an
expression, read from left to right, are the tokens that it was read from without the parentheses. So
its names, each at its first occurrence, are the names among the tokens, each at its first occurrence.
-/

namespace ReactiveGrid

section

variable {α : Type} [DecidableEq α] {a x y : α}

/-- Elements that are kept stay in their order. -/
theorem idxOf_lt_of_filter {l : List α} (hx : x ≠ a) (hy : y ≠ a)
    (h : (l.filter (fun b => !b == a)).idxOf x < (l.filter (fun b => !b == a)).idxOf y) :
    l.idxOf x < l.idxOf y := by
  induction l with
  | nil => exact h
  | cons b bs ih =>
    by_cases hb : b = a
    · subst hb
      rw [List.filter_cons_of_neg (by simp)] at h
      rw [List.idxOf_cons_ne _ hx.symm, List.idxOf_cons_ne _ hy.symm]
      exact Nat.succ_lt_succ (ih h)
    · rw [List.filter_cons_of_pos (by simpa using hb)] at h
      by_cases hbx : b = x
      · by_cases hby : b = y
        · rw [← hbx, ← hby] at h
          exact absurd h (Nat.lt_irrefl _)
        · rw [List.idxOf_cons_eq _ hbx, List.idxOf_cons_ne _ hby]
          exact Nat.succ_pos _
      · by_cases hby : b = y
        · rw [List.idxOf_cons_eq _ hby] at h
          exact absurd h (Nat.not_lt_zero _)
        · rw [List.idxOf_cons_ne _ hbx, List.idxOf_cons_ne _ hby] at h ⊢
          exact Nat.succ_lt_succ (ih (Nat.lt_of_succ_lt_succ h))

/-- Without repetitions, the elements stand in the order in which they occur first. -/
theorem pairwise_eraseDups (l : List α) :
    l.eraseDups.Pairwise fun x y => l.idxOf x < l.idxOf y := by
  match l with
  | [] =>
    rw [List.eraseDups_nil]
    exact List.Pairwise.nil
  | a :: as =>
    have hne : ∀ x ∈ (as.filter fun b => !b == a).eraseDups, x ≠ a := by
      intro x hx
      have hkept := (List.mem_filter.1 (List.mem_eraseDups.1 hx)).2
      simpa using hkept
    rw [List.eraseDups_cons, List.pairwise_cons]
    constructor
    · intro x hx
      rw [List.idxOf_cons_self, List.idxOf_cons_ne _ (hne x hx).symm]
      exact Nat.succ_pos _
    · refine (pairwise_eraseDups (as.filter fun b => !b == a)).imp_of_mem fun {x y} hx hy h => ?_
      rw [List.idxOf_cons_ne _ (hne x hx).symm, List.idxOf_cons_ne _ (hne y hy).symm]
      exact Nat.succ_lt_succ (idxOf_lt_of_filter (hne x hx) (hne y hy) h)
termination_by l.length
decreasing_by
  have hle := List.length_filter_le (fun b => !b == a) as
  rw [List.length_cons]
  omega

theorem nodup_eraseDups (l : List α) : l.eraseDups.Nodup := by
  refine (pairwise_eraseDups l).imp fun {x y} h => ?_
  rintro rfl
  exact Nat.lt_irrefl _ h

end

namespace Token

def isParenthesis (t : Token) : Bool :=
  t.isOpening || t.isClosing

def name? : Token → Option String
  | name s => some s
  | _ => none

theorem mem_filterMap_name? {s : String} {ts : List Token} :
    s ∈ ts.filterMap name? ↔ .name s ∈ ts := by
  rw [List.mem_filterMap]
  constructor
  · rintro ⟨t, ht, hname⟩
    cases t with
    | name s' => rwa [← Option.some.inj hname]
    | number => cases hname
    | operator => cases hname
    | opening => cases hname
    | closing => cases hname
  · exact fun hs => ⟨.name s, hs, rfl⟩

theorem filterMap_name?_filter (ts : List Token) :
    (ts.filter fun t => !t.isParenthesis).filterMap name? = ts.filterMap name? := by
  induction ts with
  | nil => rfl
  | cons t ts ih =>
    cases t with
    | number => exact ih
    | name s => exact congrArg (s :: ·) ih
    | operator => exact ih
    | opening => exact ih
    | closing => exact ih

end Token

namespace Expr

variable {c : Category} {ts : List Token} {e : Expr} {s : String}

/-- The numbers, names and operators of an expression, from left to right. -/
def inOrder : Expr → List Token
  | number v => [.number v]
  | name s => [.name s]
  | binary op l r => l.inOrder ++ .operator op :: r.inOrder

def leaves : Expr → Nat
  | number _ => 1
  | name _ => 1
  | binary _ l r => l.leaves + r.leaves

theorem leaves_eq (e : Expr) : e.leaves = e.operators + 1 := by
  induction e with
  | number => rfl
  | name => rfl
  | binary op l r ihl ihr =>
    rw [leaves, operators, ihl, ihr]
    omega

theorem depth_le_operators (e : Expr) : e.depth ≤ e.operators := by
  induction e with
  | number => exact Nat.le_refl _
  | name => exact Nat.le_refl _
  | binary op l r ihl ihr =>
    rw [depth, operators]
    omega

theorem filterMap_name?_inOrder (e : Expr) : e.inOrder.filterMap Token.name? = e.occurrences := by
  induction e with
  | number => rfl
  | name => rfl
  | binary op l r ihl ihr =>
    rw [inOrder, List.filterMap_append, List.filterMap_cons_none (f := Token.name?) rfl, ihl, ihr,
      occurrences]

/-- However the operators group, no token but a parenthesis is lost, doubled or moved. -/
theorem Derives.inOrder_eq (h : Derives c ts e) :
    e.inOrder = ts.filter fun t => !t.isParenthesis := by
  induction h with
  | sum_product _ _ _ ih => exact ih
  | sum_binary ls rs op l r _ _ _ ihl ihr =>
    rw [inOrder, ihl, ihr, List.filter_append, List.filter_cons_of_pos rfl]
  | product_operand _ _ _ ih => exact ih
  | product_binary ls rs op l r _ _ _ ihl ihr =>
    rw [inOrder, ihl, ihr, List.filter_append, List.filter_cons_of_pos rfl]
  | number => rfl
  | name => rfl
  | parentheses ts e _ ih =>
    rw [ih, List.cons_append, List.filter_cons_of_neg (by decide), List.filter_append,
      List.filter_singleton]
    exact (List.append_nil _).symm

/-- A list goes on by the names that it does not have, each at its first occurrence. -/
theorem collectNames_eq (e : Expr) (found : List String) : e.collectNames found =
    found ++ (e.occurrences.filter fun s => !found.contains s).eraseDups := by
  induction e generalizing found with
  | number => exact (List.append_nil found).symm
  | name s =>
    rw [collectNames, occurrences, List.filter_singleton]
    by_cases hs : found.contains s = true
    · rw [if_pos hs, hs]
      exact (List.append_nil found).symm
    · rw [if_neg hs, eq_false_of_ne_true hs]
      rfl
  | binary op l r ihl ihr =>
    -- A name from the right is new if it was not in the list and does not come from the left.
    have hright : ∀ names : List String,
        (r.occurrences.filter fun s => !(found ++ names.eraseDups).contains s) =
          (r.occurrences.filter fun s => !found.contains s).removeAll names := by
      intro names
      rw [List.removeAll, List.filter_filter]
      refine List.filter_congr fun s _ => ?_
      simp [Bool.and_comm]
    rw [collectNames, ihl, ihr, hright, occurrences, List.filter_append, List.eraseDups_append,
      List.append_assoc]

theorem names_eq_eraseDups (e : Expr) : e.names = e.occurrences.eraseDups := by
  rw [names, collectNames_eq, List.nil_append]
  exact congrArg List.eraseDups (List.filter_eq_self.2 fun s _ => rfl)

theorem mem_names : s ∈ e.names ↔ s ∈ e.occurrences := by
  rw [names_eq_eraseDups, List.mem_eraseDups]

theorem nodup_names (e : Expr) : e.names.Nodup := by
  rw [names_eq_eraseDups]
  exact nodup_eraseDups _

theorem Derives.occurrences_eq (h : Derives c ts e) : e.occurrences = ts.filterMap Token.name? := by
  rw [← filterMap_name?_inOrder, h.inOrder_eq, Token.filterMap_name?_filter]

end Expr

theorem Formula.parse_eq_ok_iff {s : String} {f : Formula} :
    Formula.parse s = .ok f ↔ ∃ e, Expr.parse s = .ok e ∧ f = { root := some e } := by
  unfold Formula.parse
  cases Expr.parse s with
  | error fault =>
    constructor
    · intro h
      cases h
    · rintro ⟨e, h, -⟩
      cases h
  | ok e =>
    constructor
    · intro h
      exact ⟨e, rfl, (Except.ok.inj h).symm⟩
    · rintro ⟨e', he, rfl⟩
      rw [Except.ok.inj he]
      rfl

/-- The names of a formula that was read from a text are the names among its tokens, without those that
occurred before: so they have no repetitions, and stand in the order in which they occur first. From
left to right, the numbers, names and operators of its expression are the tokens of the text without the
parentheses. It has one leaf more than operators, and at most 1024 levels of them. -/
theorem Formula.parse_keeps_order (s : String) (f : Formula) (h : Formula.parse s = .ok f) :
    ∃ ts e, Token.scan s = .ok ts ∧ f.root = some e ∧
      (e.inOrder = ts.filter fun t => !t.isParenthesis) ∧
      f.names = (ts.filterMap Token.name?).eraseDups ∧
      (∀ name, name ∈ f.names ↔ .name name ∈ ts) ∧
      (f.names.Pairwise fun x y =>
        (ts.filterMap Token.name?).idxOf x < (ts.filterMap Token.name?).idxOf y) ∧
      e.leaves = e.operators + 1 ∧ e.operators = ts.countP Token.isOperator ∧ e.depth ≤ 1024 := by
  obtain ⟨e, hparse, rfl⟩ := Formula.parse_eq_ok_iff.1 h
  obtain ⟨ts, hscan, hwrites⟩ := Expr.parse_eq_ok_iff.1 hparse
  have hoccurrences := hwrites.derives.occurrences_eq
  have hoperators := hwrites.derives.operators_eq
  have hnames : Formula.names { root := some e } = (ts.filterMap Token.name?).eraseDups :=
    e.names_eq_eraseDups.trans (congrArg List.eraseDups hoccurrences)
  refine ⟨ts, e, hscan, rfl, hwrites.derives.inOrder_eq, hnames, ?_, ?_, e.leaves_eq, hoperators, ?_⟩
  · intro name
    rw [hnames, List.mem_eraseDups, Token.mem_filterMap_name?]
  · rw [hnames]
    exact pairwise_eraseDups _
  · have hle := hwrites.operators_le
    rw [← hoperators] at hle
    exact Nat.le_trans e.depth_le_operators hle

/-- Repeated names count once, and parentheses nothing. -/
theorem Formula.parse_keeps_order_of_repeated :
    ∃ f, Formula.parse "A1+x*(x-y)" = .ok f ∧ f.names = ["A1", "x", "y"] ∧
      ∃ ts e, Token.scan "A1+x*(x-y)" = .ok ts ∧ f.root = some e ∧
        e.inOrder = ts.filter fun t => !t.isParenthesis := by
  obtain ⟨f, hf⟩ : ∃ f, Formula.parse "A1+x*(x-y)" = .ok f := ⟨_, rfl⟩
  obtain ⟨ts, e, hscan, hroot, horder, hnames, -⟩ := Formula.parse_keeps_order _ f hf
  refine ⟨f, hf, ?_, ts, e, hscan, hroot, horder⟩
  have htokens : Token.scan "A1+x*(x-y)" = .ok [.name "A1", .operator .add, .name "x",
      .operator .multiply, .opening, .name "x", .operator .subtract, .name "y", .closing] := by
    rfl
  rw [htokens] at hscan
  rw [hnames, ← Except.ok.inj hscan]
  decide

end ReactiveGrid
