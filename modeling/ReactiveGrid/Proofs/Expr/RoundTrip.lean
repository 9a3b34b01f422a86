import ReactiveGrid.Proofs.Expr.Language
import ReactiveGrid.Proofs.Expr.Written

/-!
# Reading back what is written

An expression whose constants are not negative and whose names are identifiers is read back from its
written form, unless it is too deep: each operation costs one level of parentheses, also where the
text that it was first read from had none. What is read from any text is of this kind, except that a
constant can be too large for a finite double. Its infinity is written as a word, and so it comes back
as a name.
-/

namespace ReactiveGrid.Expr
open Token (IsIdentifier)

/-- The expression with every infinite constant turned into the name that it is written as. -/
def spellInfinite : Expr → Expr
  | number v => if v.isInf then name "inf" else number v
  | name s => name s
  | binary op l r => binary op l.spellInfinite r.spellInfinite

variable {e : Expr} {c : Category} {ts : List Token}

/-! ### Written forms are read back -/

theorem written_ne_nil (e : Expr) : e.written.isEmpty = false := by
  cases e <;> rfl

theorem parse_text (h : e.Legible) :
    parse e.text = (e.written.foldlM Parse.step {}).bind Parse.finish := by
  have hsome : ofTokens e.written = (e.written.foldlM Parse.step {}).bind Parse.finish := by
    unfold ofTokens
    rw [written_ne_nil]
    rfl
  unfold parse
  rw [scan_text h, ← hsome]
  rfl

theorem parse_text_of_depth_le (h : e.Legible) (hops : e.operators ≤ maxOperators)
    (hdepth : e.depth ≤ maxNesting) : parse e.text = .ok e := by
  have hrun := foldlM_written e {} rfl (by rwa [List.length_nil, Nat.zero_add])
    (by rwa [Nat.zero_add])
  rw [parse_text h, hrun]
  rfl

theorem parse_text_of_deep (h : e.Legible) (hops : e.operators ≤ maxOperators)
    (hdepth : maxNesting < e.depth) : parse e.text = .error (.malformed .nestedTooDeep) := by
  have hrun := foldlM_written_of_deep e {} rfl (Nat.zero_le _)
    (by rwa [List.length_nil, Nat.zero_add]) (by rwa [Nat.zero_add])
  rw [parse_text h, hrun]
  rfl

/-! ### What is read from a text -/

theorem operators_binary {ls rs : List Token} {op : Operator} {l r : Expr}
    (hl : l.operators = ls.countP Token.isOperator)
    (hr : r.operators = rs.countP Token.isOperator) :
    (binary op l r).operators = (ls ++ .operator op :: rs).countP Token.isOperator := by
  rw [countP_operation, ← hl, ← hr]
  show l.operators + r.operators + 1 = _
  omega

theorem Derives.operators_eq (h : Derives c ts e) : e.operators = ts.countP Token.isOperator := by
  induction h with
  | sum_product _ _ _ ih => exact ih
  | sum_binary ls rs op l r _ _ _ ihl ihr => exact operators_binary ihl ihr
  | product_operand _ _ _ ih => exact ih
  | product_binary ls rs op l r _ _ _ ihl ihr => exact operators_binary ihl ihr
  | number => rfl
  | name => rfl
  | parentheses ts e _ ih =>
    rw [List.cons_append, List.countP_cons_of_neg (by decide), List.countP_append, ← ih]
    rfl

/-- The constants and names of an expression are among the tokens. -/
structure Within (e : Expr) (ts : List Token) : Prop where
  numbers : ∀ v ∈ e.numbers, .number v ∈ ts
  names : ∀ s ∈ e.occurrences, .name s ∈ ts

theorem Within.mono {us : List Token} (h : e.Within ts) (hsub : ∀ t ∈ ts, t ∈ us) : e.Within us where
  numbers := fun v hv => hsub _ (h.numbers v hv)
  names := fun s hs => hsub _ (h.names s hs)

theorem Within.binary {ls rs : List Token} {l r : Expr} (op : Operator) (hl : l.Within ls)
    (hr : r.Within rs) : (binary op l r).Within (ls ++ .operator op :: rs) where
  numbers := by
    intro v hv
    rcases List.mem_append.1 hv with hv | hv
    · exact List.mem_append_left _ (hl.numbers v hv)
    · exact List.mem_append_right _ (List.mem_cons_of_mem _ (hr.numbers v hv))
  names := by
    intro s hs
    rcases List.mem_append.1 hs with hs | hs
    · exact List.mem_append_left _ (hl.names s hs)
    · exact List.mem_append_right _ (List.mem_cons_of_mem _ (hr.names s hs))

theorem Derives.within (h : Derives c ts e) : e.Within ts := by
  induction h with
  | sum_product _ _ _ ih => exact ih
  | sum_binary ls rs op l r _ _ _ ihl ihr => exact ihl.binary op ihr
  | product_operand _ _ _ ih => exact ih
  | product_binary ls rs op l r _ _ _ ihl ihr => exact ihl.binary op ihr
  | number v => exact ⟨fun w hw => List.mem_singleton.2 (by rw [List.mem_singleton.1 hw]), nofun⟩
  | name s => exact ⟨nofun, fun t ht => List.mem_singleton.2 (by rw [List.mem_singleton.1 ht])⟩
  | parentheses ts e _ ih =>
    exact ih.mono fun t ht => List.mem_cons_of_mem _ (List.mem_append_left _ ht)

/-- Whatever is read has no negative constants, and its names are identifiers. -/
theorem proper_of_parse {s : String} (h : parse s = .ok e) :
    (∀ v ∈ e.numbers, v.toBits.toNat ≤ Decimal.infinityBits) ∧
      (∀ name ∈ e.occurrences, IsIdentifier name) ∧ e.operators ≤ maxOperators := by
  obtain ⟨ts, hscan, hwrites⟩ := parse_eq_ok_iff.1 h
  have hproper := Token.proper_of_scan hscan
  have hwithin := hwrites.derives.within
  refine ⟨fun v hv => hproper _ (hwithin.numbers v hv),
    fun s hs => hproper _ (hwithin.names s hs), ?_⟩
  rw [hwrites.derives.operators_eq]
  exact hwrites.operators_le

/-! ### Infinite constants -/

theorem operators_spellInfinite (e : Expr) : e.spellInfinite.operators = e.operators := by
  induction e with
  | number v =>
    unfold spellInfinite
    split <;> rfl
  | name => rfl
  | binary op l r ihl ihr => rw [spellInfinite, operators, operators, ihl, ihr]

theorem depth_spellInfinite (e : Expr) : e.spellInfinite.depth = e.depth := by
  induction e with
  | number v =>
    unfold spellInfinite
    split <;> rfl
  | name => rfl
  | binary op l r ihl ihr => rw [spellInfinite, depth, depth, ihl, ihr]

/-- Infinity is written as a name, and any other constant as itself. -/
theorem spellInfinite_eq {v : Float} (h : v.toBits.toNat ≤ Decimal.infinityBits) :
    v = Decimal.infinity ∧ (number v).spellInfinite = name "inf" ∨
      Decimal.Plain v ∧ (number v).spellInfinite = number v := by
  unfold spellInfinite
  rcases Decimal.plain_or_infinity h with hplain | rfl
  · rw [hplain.isInf]
    exact .inr ⟨hplain, rfl⟩
  · exact .inl ⟨rfl, if_pos Decimal.isInf_infinity⟩

section

variable (hnumbers : ∀ v ∈ e.numbers, v.toBits.toNat ≤ Decimal.infinityBits)
include hnumbers

theorem text_spellInfinite : e.spellInfinite.text = e.text := by
  induction e with
  | number v =>
    rcases spellInfinite_eq (hnumbers v (List.mem_singleton_self v)) with ⟨rfl, h⟩ | ⟨-, h⟩
    · rw [h]
      exact Decimal.render_infinity.symm
    · rw [h]
  | name => rfl
  | binary op l r ihl ihr =>
    have hleft := ihl fun v hv => hnumbers v (List.mem_append_left _ hv)
    have hright := ihr fun v hv => hnumbers v (List.mem_append_right _ hv)
    unfold spellInfinite text
    rw [hleft, hright]

theorem legible_spellInfinite (hnames : ∀ s ∈ e.occurrences, IsIdentifier s) :
    e.spellInfinite.Legible := by
  induction e with
  | number v =>
    rcases spellInfinite_eq (hnumbers v (List.mem_singleton_self v)) with ⟨-, h⟩ | ⟨hplain, h⟩
    · rw [h]
      exact ⟨nofun, fun s hs => by rw [List.mem_singleton.1 hs]; exact Token.isIdentifier_inf⟩
    · rw [h]
      exact ⟨fun w hw => by rw [List.mem_singleton.1 hw]; exact hplain, nofun⟩
  | name s => exact ⟨nofun, hnames⟩
  | binary op l r ihl ihr =>
    have hleft := ihl (fun v hv => hnumbers v (List.mem_append_left _ hv))
      fun s hs => hnames s (List.mem_append_left _ hs)
    have hright := ihr (fun v hv => hnumbers v (List.mem_append_right _ hv))
      fun s hs => hnames s (List.mem_append_right _ hs)
    exact hleft.binary op hright

end

/-- An expression of finite constants that are not negative, of identifiers and of at most 1024
operators is read back from its text if at most 64 operators are on each of its paths, and is refused
as too deep if not. Each expression that is read from any text is such an expression, except that its
constants can be infinite, and where it is read back, these have become the name `inf`. -/
theorem parse_inverts_text :
    (∀ e : Expr, e.Legible → e.operators ≤ 1024 →
      (e.depth ≤ 64 → parse e.text = .ok e) ∧
      (64 < e.depth → parse e.text = .error (.malformed .nestedTooDeep) ∧
        Malformed.message .nestedTooDeep = "Parentheses nested deeper than 64")) ∧
    ∀ (s : String) (e : Expr), parse s = .ok e →
      (∀ v ∈ e.numbers, Decimal.Plain v ∨ v = Decimal.infinity) ∧
      (∀ name ∈ e.occurrences, IsIdentifier name) ∧ e.operators ≤ 1024 ∧
      (e.depth ≤ 64 → parse e.text = .ok e.spellInfinite) := by
  refine ⟨fun e h hops => ⟨parse_text_of_depth_le h hops, fun hdepth => ?_⟩, fun s e h => ?_⟩
  · exact ⟨parse_text_of_deep h hops hdepth, rfl⟩
  · obtain ⟨hnumbers, hnames, hops⟩ := proper_of_parse h
    refine ⟨fun v hv => Decimal.plain_or_infinity (hnumbers v hv), hnames, hops, fun hdepth => ?_⟩
    rw [← text_spellInfinite hnumbers]
    refine parse_text_of_depth_le (legible_spellInfinite hnumbers hnames) ?_ ?_
    · rwa [operators_spellInfinite]
    · rwa [depth_spellInfinite]

/-- An expression with a fraction and a name is such an expression. -/
theorem parse_inverts_text_of_product :
    let e : Expr := binary .multiply
      (binary .add (name "a1") (number (Decimal.toFloat ⟨25, -1⟩))) (number (Decimal.toFloat ⟨3, 0⟩))
    e.Legible ∧ e.operators = 2 ∧ e.depth = 2 ∧ e.text = "((a1 + 2.5) * 3)" ∧
      parse e.text = .ok e := by
  intro e
  have hname : (name "a1").Legible :=
    ⟨nofun, fun s hs => by
      rw [List.mem_singleton.1 hs]
      exact ⟨'a', ['1'], rfl, by decide +kernel, by decide +kernel⟩⟩
  have hnumber : ∀ d : Decimal, d.toFloat.toBits.toNat < Decimal.infinityBits →
      (number d.toFloat).Legible := fun d hd =>
    ⟨fun v hv => by
      rw [List.mem_singleton.1 hv]
      exact Decimal.plain_iff.2 hd, nofun⟩
  have hlegible : e.Legible :=
    (hname.binary .add (hnumber _ (by decide +kernel))).binary .multiply
      (hnumber _ (by decide +kernel))
  exact ⟨hlegible, rfl, rfl, by decide +kernel,
    (parse_inverts_text.1 e hlegible (by decide)).1 (by decide)⟩

end ReactiveGrid.Expr
