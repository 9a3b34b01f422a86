import Mathlib.Data.List.Forall2
import ReactiveGrid.CommandLine
import ReactiveGrid.CommandLine.Options
import ReactiveGrid.Proofs.Expr.Assigned
import ReactiveGrid.Proofs.Folds
import ReactiveGrid.Proofs.Text.Lines

/-!
# Evaluating on the command line

A request to evaluate has an expression and the assignments that were read from texts among the
arguments. Main statement: what is printed is the value of the expression with the last number that was
assigned to each name in the place of the name.

How arguments are taken apart into options and their values is not decided here. All that counts of a
reader of arguments is which expression and which texts it takes from them, and that it has these texts
read as assignments.
-/

namespace ReactiveGrid.CommandLine

/-! ### Assignments -/

namespace Assignment

/-- The text gives a name a number: it is cut at its first equals sign, and both are trimmed. -/
inductive Gives (text : String) : Assignment → Prop where
  | gives (before after : List Char) (value : Float) (h : text.toList = before ++ '=' :: after)
      (hbefore : '=' ∉ before) (hvalue : Decimal.read? (Text.trim after) = some value) :
      Gives text (String.ofList (Text.trim before), value)

theorem numberOf_eq_ok_iff {name : String} {number : List Char} {value : Float} :
    numberOf name number = .ok value ↔ Decimal.read? number = some value := by
  unfold numberOf
  split
  · next hempty =>
    rw [List.isEmpty_iff.1 hempty]
    exact iff_of_false nofun nofun
  · split
    · next hread =>
      rw [hread, Except.ok.injEq, Option.some.injEq]
    · next hread =>
      rw [hread]
      exact iff_of_false nofun nofun

theorem parse_eq_ok_iff {text : String} {a : Assignment} : parse text = .ok a ↔ Gives text a := by
  unfold parse
  constructor
  · intro h
    split at h
    · cases h
    · next before after hsplit =>
      obtain ⟨htext, hbefore⟩ := Text.splitAtFirst?_eq_some_iff.1 hsplit
      dsimp only at h
      cases hnumber : numberOf (String.ofList (Text.trim before)) (Text.trim after) with
      | error cause =>
        rw [hnumber] at h
        cases h
      | ok value =>
        rw [hnumber] at h
        obtain rfl := Except.ok.inj h
        exact .gives before after value htext hbefore (numberOf_eq_ok_iff.1 hnumber)
  · rintro ⟨before, after, value, htext, hbefore, hvalue⟩
    rw [Text.splitAtFirst?_eq_some_iff.2 ⟨htext, hbefore⟩]
    simp only [numberOf_eq_ok_iff.2 hvalue, Except.map]

/-- Texts are all read as assignments where each of them gives one. -/
theorem mapM_parse_eq_ok_iff {texts : List String} {assignments : List Assignment} :
    texts.mapM parse = .ok assignments ↔ List.Forall₂ Gives texts assignments := by
  induction texts generalizing assignments with
  | nil =>
    rw [List.mapM_nil, List.forall₂_nil_left_iff]
    exact ⟨fun h => (Except.ok.inj h).symm, fun h => congrArg Except.ok h.symm⟩
  | cons text texts ih =>
    rw [List.mapM_cons, List.forall₂_cons_left_iff]
    constructor
    · intro h
      obtain ⟨a, ha, hbehind⟩ := bind_eq_ok_iff.1 h
      obtain ⟨rest, hrest, heq⟩ := bind_eq_ok_iff.1 hbehind
      exact ⟨a, rest, parse_eq_ok_iff.1 ha, ih.1 hrest, (Except.ok.inj heq).symm⟩
    · rintro ⟨a, rest, ha, hrest, rfl⟩
      rw [parse_eq_ok_iff.2 ha, ih.2 hrest]
      rfl

end Assignment

/-! ### Evaluating -/

/-- From the arguments a reader takes an expression and some texts: it asks for the expression to be
evaluated after the assignments that are read from the texts, in the same order. -/
def TakesEval (read : List String → Except UsageError Request) (args : List String)
    (expression : String) (texts : List String) : Prop :=
  ∀ assignments, texts.mapM Assignment.parse = .ok assignments →
    read args = .ok (.eval expression assignments)

theorem runEval_of_parse {source : String} {e : Expr} (h : Expr.parse source = .ok e)
    (assignments : List Assignment) :
    let value := (e.substitute (Formula.lastNumber assignments)).eval fun _ => none
    runEval source assignments = { output := Decimal.render value ++ "\n" } := by
  have hparse : Formula.parse source = .ok { root := some e } := Formula.parse_eq_ok_iff.2 ⟨e, h, rfl⟩
  unfold runEval
  simp only [hparse, Formula.eval_foldl_set]

/-- After any assignments, a formula that was read from a text is worth what a constant expression is
worth: its expression with the last number that was assigned to exactly that name in the place of each
name, and zero where there is none. Assignments to names that the formula does not have, assignments
that are overwritten later, and the order of assignments to different names do not count. Texts are read
as assignments by cutting them at their first equals sign and trimming both sides, and whatever reader
takes the expression and such texts from the arguments, the program prints that value. -/
theorem formula_reads_last_assignments (source : String) (f : Formula)
    (h : Formula.parse source = .ok f) :
    ∃ e, f.root = some e ∧
    (∀ assignments : List (String × Float), ∃ number : String → Float,
      let constant := e.substitute number
      (∀ name v, Latest (fun p v => p = (name, v)) 0 assignments v ↔ v = number name) ∧
      constant.names = [] ∧
      (assignments.foldl (fun f p => f.set p.1 p.2) f).eval = .ok (constant.eval fun _ => none) ∧
      (∀ texts, texts.mapM Assignment.parse = .ok assignments ↔
        List.Forall₂ Assignment.Gives texts assignments) ∧
      ∀ read args texts, TakesEval read args source texts →
        List.Forall₂ Assignment.Gives texts assignments →
        ∃ request, read args = .ok request ∧ ∀ script,
          (request.run script).code = 0 ∧
          (request.run script).output = Decimal.render (constant.eval fun _ => none) ++ "\n") ∧
    ∀ assignments assignments',
      Relation.EqvGen (Formula.Immaterial f.names) assignments assignments' →
        (assignments.foldl (fun f p => f.set p.1 p.2) f).eval =
          (assignments'.foldl (fun f p => f.set p.1 p.2) f).eval := by
  obtain ⟨e, hparse, rfl⟩ := Formula.parse_eq_ok_iff.1 h
  refine ⟨e, rfl, ?_, ?_⟩
  · intro assignments
    refine ⟨Formula.lastNumber assignments, fun name v => Formula.latest_iff_eq_lastNumber, ?_,
      Formula.eval_foldl_set assignments e, fun texts => Assignment.mapM_parse_eq_ok_iff, ?_⟩
    · rw [Expr.names_eq_eraseDups, e.occurrences_substitute]
      rfl
    · intro read args texts hread htexts
      refine ⟨_, hread _ (Assignment.mapM_parse_eq_ok_iff.2 htexts), fun script => ?_⟩
      rw [Request.run, runEval_of_parse hparse]
      exact ⟨rfl, rfl⟩
  · intro assignments assignments' hsame
    have hnumbers : e.substitute (Formula.lastNumber assignments) =
        e.substitute (Formula.lastNumber assignments') :=
      Expr.substitute_congr fun s hs =>
        Formula.lastNumber_eq_of_eqvGen hsame (Expr.mem_names.2 hs)
    rw [Formula.eval_foldl_set, Formula.eval_foldl_set, hnumbers]

/-- The name of the second assignment is that of the first without blanks, and no number is assigned to
the other name. -/
theorem formula_reads_last_assignments_of_trimmed :
    ∃ e two, Expr.parse "x+y" = .ok e ∧ Decimal.read? ['2'] = some two ∧
      ∃ number : String → Float, number "x" = two ∧ number "y" = 0 ∧
      ∃ request, Request.ofArguments ["eval", "--var", " x = 1", "x+y", "-vx=2"] = .ok request ∧
        ∀ script, (request.run script).output =
          Decimal.render ((e.substitute number).eval fun _ => none) ++ "\n" := by
  obtain ⟨one, two, hone, htwo, hrequest⟩ : ∃ one two, Decimal.read? ['1'] = some one ∧
      Decimal.read? ['2'] = some two ∧
      Request.ofArguments ["eval", "--var", " x = 1", "x+y", "-vx=2"] =
        .ok (.eval "x+y" [("x", one), ("x", two)]) := ⟨_, _, rfl, rfl, rfl⟩
  obtain ⟨e, he⟩ : ∃ e, Expr.parse "x+y" = .ok e := ⟨_, rfl⟩
  have hparse : Formula.parse "x+y" = .ok { root := some e } := Formula.parse_eq_ok_iff.2 ⟨e, he, rfl⟩
  have hgives : List.Forall₂ Assignment.Gives [" x = 1", "x=2"] [("x", one), ("x", two)] :=
    .cons (.gives [' ', 'x', ' '] [' ', '1'] one rfl (by decide) hone)
      (.cons (.gives ['x'] ['2'] two rfl (by decide) htwo) .nil)
  have hread : TakesEval Request.ofArguments ["eval", "--var", " x = 1", "x+y", "-vx=2"] "x+y"
      [" x = 1", "x=2"] := by
    intro assignments hassignments
    rw [Assignment.mapM_parse_eq_ok_iff.2 hgives] at hassignments
    rw [← Except.ok.inj hassignments]
    exact hrequest
  obtain ⟨e', hroot, hvalues, -⟩ := formula_reads_last_assignments "x+y" _ hparse
  obtain ⟨number, hnumber, -, -, -, hargs⟩ := hvalues [("x", one), ("x", two)]
  obtain ⟨request, hrequest, hrun⟩ := hargs _ _ _ hread hgives
  obtain rfl := Option.some.inj hroot
  refine ⟨e, two, he, htwo, number, ?_, ?_, request, hrequest, fun script => (hrun script).2⟩
  · refine ((hnumber "x" two).1 (Or.inl ⟨[("x", one)], _, [], rfl, rfl, ?_⟩)).symm
    exact List.forall_mem_nil _
  · refine ((hnumber "y" 0).1 (Or.inr ⟨rfl, ?_⟩)).symm
    simp

end ReactiveGrid.CommandLine
