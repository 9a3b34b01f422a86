import ReactiveGrid.Proofs.Expr.Grammar
import ReactiveGrid.Proofs.Expr.Steps

/-!
# Every accepted list of tokens is a word of the grammar within the limits

The tokens taken so far fall into parts. Each open parenthesis closes off the part of a level, a
level holds the words of the left sides that wait there, each with its operator, and the complete
operand, if there is one, is the word at the end.
-/

namespace ReactiveGrid.Expr

/-- The tokens of a left side that waits, together with its operator. -/
inductive Waits (c : Category) (allowed : Operator → Prop) :
    Option (Expr × Operator) → List Token → Prop where
  | nothing : Waits c allowed none []
  | left (ts : List Token) (e : Expr) (op : Operator) (h : Derives c ts e) (hop : allowed op) :
      Waits c allowed (some (e, op)) (ts ++ [.operator op])

/-- The tokens of a level: those of the sum that waits, then those of the product. -/
def Level.Holds (l : Level) (ts : List Token) : Prop :=
  ∃ us vs, ts = us ++ vs ∧
    Waits .sum (fun op => op = .add ∨ op = .subtract) l.sum us ∧
    Waits .product (fun op => op = .multiply ∨ op = .divide) l.product vs

namespace Level

variable {l : Level} {ts us vs fs : List Token} {f : Expr}

theorem derives_term
    (h : Waits .product (fun op => op = .multiply ∨ op = .divide) l.product vs)
    (hf : Derives .operand fs f) : Derives .product (vs ++ fs) (l.term f) := by
  obtain ⟨sum, product⟩ := l
  cases h with
  | nothing => exact .product_operand fs f hf
  | left ls left op hl hop =>
    rw [List.append_assoc]
    exact .product_binary ls fs op left f hl hop hf

theorem derives_total (h : l.Holds ts) (hf : Derives .operand fs f) :
    Derives .sum (ts ++ fs) (l.total f) := by
  obtain ⟨us, vs, rfl, hsum, hproduct⟩ := h
  have hterm := derives_term hproduct hf
  rw [List.append_assoc]
  obtain ⟨sum, product⟩ := l
  cases hsum with
  | nothing => exact .sum_product _ _ hterm
  | left ls left op hl hop =>
    rw [List.append_assoc]
    exact .sum_binary ls _ op left _ hl hop hterm

theorem holds_empty : Holds {} [] :=
  ⟨[], [], rfl, .nothing, .nothing⟩

theorem Holds.push (h : l.Holds ts) (hf : Derives .operand fs f) (op : Operator) :
    (l.push f op).Holds (ts ++ fs ++ [.operator op]) := by
  have hkind : (op = .add ∨ op = .subtract) ∨ (op = .multiply ∨ op = .divide) := by
    cases op <;> simp
  rcases hkind with hop | hop
  · rw [push_sum hop]
    exact ⟨_, [], (List.append_nil _).symm, .left _ _ op (derives_total h hf) hop, .nothing⟩
  · rw [push_product hop]
    obtain ⟨us, vs, rfl, hsum, hproduct⟩ := h
    refine ⟨us, vs ++ fs ++ [.operator op], by simp only [List.append_assoc], hsum, ?_⟩
    exact .left _ _ op (derives_term hproduct hf) hop

end Level

/-- The tokens of the levels around the innermost one, each up to the parenthesis behind it. -/
inductive Surrounds : List Level → List Token → Prop where
  | nothing : Surrounds [] []
  | level (l : Level) (ls : List Level) (os us : List Token) (h : Surrounds ls os)
      (hl : l.Holds us) : Surrounds (l :: ls) (os ++ us ++ [.opening])

inductive Completed : Option Expr → List Token → Prop where
  | nothing : Completed none []
  | operand (fs : List Token) (f : Expr) (h : Derives .operand fs f) : Completed (some f) fs

namespace Parse

def Parted (p : Parse) (ts : List Token) : Prop :=
  ∃ os us fs, ts = os ++ us ++ fs ∧ Surrounds p.outer os ∧ p.level.Holds us ∧
    Completed p.operand fs

structure Counted (p : Parse) (ts : List Token) : Prop where
  operators_eq : p.operators = ts.countP Token.isOperator
  operators_le : p.operators ≤ maxOperators
  depth_eq : ts.countP Token.isOpening = ts.countP Token.isClosing + p.outer.length
  depth_le : p.outer.length ≤ maxNesting
  nested : NestedWithin maxNesting ts

variable {p q : Parse} {t : Token} {ts : List Token}

theorem parted_start : Parted {} [] :=
  ⟨[], [], [], rfl, .nothing, Level.holds_empty, .nothing⟩

theorem Parted.take (h : p.Parted ts) (ht : Takes p t q) : q.Parted (ts ++ [t]) := by
  obtain ⟨os, us, fs, rfl, hos, hus, hfs⟩ := h
  cases ht with
  | number hp v =>
    rw [hp] at hfs
    cases hfs
    exact ⟨os, us, [.number v], by simp, hos, hus, .operand _ _ (.number v)⟩
  | name hp s =>
    rw [hp] at hfs
    cases hfs
    exact ⟨os, us, [.name s], by simp, hos, hus, .operand _ _ (.name s)⟩
  | opening hp _ =>
    have hnone := hfs
    rw [hp] at hnone
    cases hnone
    exact ⟨os ++ us ++ [.opening], [], [], by simp, .level p.level p.outer os us hos hus,
      Level.holds_empty, hfs⟩
  | operator e hp op _ =>
    rw [hp] at hfs
    cases hfs with
    | operand _ _ hf =>
      exact ⟨os, us ++ fs ++ [.operator op], [], by simp, hos, hus.push hf op, .nothing⟩
  | closing e hp l ls hout =>
    rw [hp] at hfs
    rw [hout] at hos
    cases hfs with
    | operand _ _ hf =>
      cases hos with
      | level _ _ os' us' hos' hl =>
        have hinside := Level.derives_total hus hf
        exact ⟨os', us', .opening :: (us ++ fs) ++ [.closing], by simp, hos', hl,
          .operand _ _ (.parentheses _ _ hinside)⟩

theorem counted_start : Counted {} [] where
  operators_eq := rfl
  operators_le := Nat.zero_le _
  depth_eq := rfl
  depth_le := Nat.zero_le _
  nested := by
    intro front hfront
    rw [List.prefix_nil.1 hfront]
    exact Nat.zero_le _

/-- One more token keeps the nesting within the limit if it does so at its end. -/
theorem nestedWithin_concat {n : Nat} (h : NestedWithin n ts)
    (hle : (ts ++ [t]).countP Token.isOpening ≤ (ts ++ [t]).countP Token.isClosing + n) :
    NestedWithin n (ts ++ [t]) := by
  intro front hfront
  rcases List.prefix_concat_iff.1 hfront with rfl | hfront
  · exact hle
  · exact h front hfront

theorem Counted.take (h : p.Counted ts) (ht : Takes p t q) : q.Counted (ts ++ [t]) := by
  have hoperators := h.operators_eq
  have hdepth := h.depth_eq
  have hle := h.operators_le
  have hdle := h.depth_le
  have hcounted : q.operators = (ts ++ [t]).countP Token.isOperator ∧
      q.operators ≤ maxOperators ∧
      (ts ++ [t]).countP Token.isOpening = (ts ++ [t]).countP Token.isClosing + q.outer.length ∧
      q.outer.length ≤ maxNesting := by
    simp only [List.countP_append, List.countP_singleton]
    cases ht with
    | number hp v => exact ⟨hoperators, hle, hdepth, hdle⟩
    | name hp s => exact ⟨hoperators, hle, hdepth, hdle⟩
    | opening hp hne =>
      show p.operators = ts.countP Token.isOperator + 0 ∧ p.operators ≤ maxOperators ∧
        ts.countP Token.isOpening + 1 = ts.countP Token.isClosing + 0 + (p.outer.length + 1) ∧
        p.outer.length + 1 ≤ maxNesting
      omega
    | operator e hp op hne =>
      show p.operators + 1 = ts.countP Token.isOperator + 1 ∧ p.operators + 1 ≤ maxOperators ∧
        ts.countP Token.isOpening + 0 = ts.countP Token.isClosing + 0 + p.outer.length ∧
        p.outer.length ≤ maxNesting
      omega
    | closing e hp l ls hout =>
      rw [hout, List.length_cons] at hdepth hdle
      show p.operators = ts.countP Token.isOperator + 0 ∧ p.operators ≤ maxOperators ∧
        ts.countP Token.isOpening + 0 = ts.countP Token.isClosing + 1 + ls.length ∧
        ls.length ≤ maxNesting
      omega
  obtain ⟨hops, hopsLe, hopen, hopenLe⟩ := hcounted
  exact ⟨hops, hopsLe, hopen, hopenLe, nestedWithin_concat h.nested (by omega)⟩

theorem parted_counted_of_run {us : List Token} (hrun : ts.foldlM step p = .ok q)
    (hparted : p.Parted us) (hcounted : p.Counted us) :
    q.Parted (us ++ ts) ∧ q.Counted (us ++ ts) := by
  refine foldlM_invariant (P := fun us p => p.Parted us ∧ p.Counted us) ?_ us
    ⟨hparted, hcounted⟩ hrun
  intro front p t q hp hstep
  have ht := step_eq_ok_iff.1 hstep
  exact ⟨hp.1.take ht, hp.2.take ht⟩

theorem writes_of_finish {e : Expr} (hparted : p.Parted ts) (hcounted : p.Counted ts)
    (hfinish : p.finish = .ok e) : Writes ts e := by
  obtain ⟨f, hp, hout, rfl⟩ := finish_eq_ok_iff.1 hfinish
  refine ⟨?_, ?_, hcounted.nested⟩
  · obtain ⟨os, us, fs, rfl, hos, hus, hfs⟩ := hparted
    rw [hout] at hos
    rw [hp] at hfs
    cases hos
    cases hfs with
    | operand _ _ hf => exact Level.derives_total hus hf
  · rw [← hcounted.operators_eq]
    exact hcounted.operators_le

end Parse

theorem writes_of_ofTokens {ts : List Token} {e : Expr} (h : ofTokens ts = .ok e) :
    Writes ts e := by
  obtain ⟨p, hrun, hfinish⟩ := ofTokens_eq_ok h
  have hreads := Parse.parted_counted_of_run hrun Parse.parted_start Parse.counted_start
  exact Parse.writes_of_finish hreads.1 hreads.2 hfinish

end ReactiveGrid.Expr
