import ReactiveGrid.Proofs.CommandLine.Sheet
import ReactiveGrid.Proofs.Script.Refusals

/-!
# Scripts that fail

A request for a script fails at the first line that is refused, and at no other place. Main statement:
what is reported then names that line by its number among all lines, and is decided by the line itself;
nothing is printed, although the lines before it were entered.
-/

namespace ReactiveGrid

namespace CommandLine
open Script

theorem runScript_of_refuses {g : Grid} {source : String} {front back : List (List Char)}
    {line : List Char} {name text : String} {cause : Refusal}
    (hlines : linesOf source = front ++ line :: back) (hfront : Legal g.shape front)
    (hline : Refuses g.shape line name text cause) :
    runScript g source =
      { records := (play g #[] (numbered 1 front)).events.toList.flatMap recordsOf
        failure := some (.assign ⟨front.length + 1, name, text⟩ cause) } := by
  unfold runScript
  rw [entries_eq_numbered, hlines, play_of_refuses hfront hline]

theorem code_ne_zero_iff {g : Grid} (h : g.Sound) (source : String) :
    (runScript g source).code ≠ 0 ↔ ¬ Legal g.shape (linesOf source) := by
  rw [not_iff_not]
  constructor
  · intro hcode
    by_contra hillegal
    obtain ⟨front, line, back, name, text, cause, hlines, hfront, hline⟩ :=
      exists_first_refused hillegal
    rw [runScript_of_refuses hlines hfront hline] at hcode
    cases hcode
  · intro hlegal
    rw [Report.code, (runScript_of_legal h hlegal).1]
    rfl

/-- A request for a script on a grid of any size fails just when some line that is not skipped has a
name part that is not the name of a cell of the grid. Then the exit code is one and nothing is printed.
The failure names the first such line by its number, counted from one with all lines before it, and the
name part; its cause is what is wrong with the name, or else that the row is outside, or else that the
column is. The report is the same whatever lines follow, and of the lines before only their count is
left in the failure. -/
theorem sheet_fails_at_first_refused_line (settings : SheetSettings)
    (hcolumns : settings.columns ≤ Address.columnLimit) (source : String) :
    let s : Shape := ⟨settings.rows, settings.columns, hcolumns⟩
    let report := (Request.sheet settings).run (decode source.toUTF8)
    (report.code ≠ 0 ↔ ∃ line ∈ linesOf source, ¬ Skipped line ∧ ∃ name text,
      Assigns line name text ∧ ∀ a, Address.parse name = .ok a → ¬ s.Contains a) ∧
    (report.code ≠ 0 → ∃ front line back name text cause,
      linesOf source = front ++ line :: back ∧ Legal s front ∧ Refuses s line name text cause) ∧
    ∀ front line back name text cause, linesOf source = front ++ line :: back → Legal s front →
      Refuses s line name text cause →
      report.code = 1 ∧ report.output = "" ∧
      report.failure.map Failure.context =
        some s!"line {front.length + 1}: cannot assign '{name}'" ∧
      report.failure.map Failure.cause = some cause.message ∧
      ∀ source' front' back', linesOf source' = front' ++ line :: back' → Legal s front' →
        let report' := (Request.sheet settings).run (decode source'.toUTF8)
        report'.failure = some (.assign ⟨front'.length + 1, name, text⟩ cause) ∧
        (front' = front → report' = report) := by
  intro s report
  obtain ⟨g, hstart, hsame, hsound⟩ := exists_startGrid settings hcolumns
  have hshape : g.shape = s := hsame.shape_eq
  have hrun : ∀ source, (Request.sheet settings).run (decode source.toUTF8) = runScript g source := by
    intro source
    simp only [Request.run, runSheet, decode_toUTF8, hstart]
  have hcode : report.code ≠ 0 ↔ ¬ Legal s (linesOf source) := by
    rw [← hshape, ← code_ne_zero_iff hsound, ← hrun]
  refine ⟨hcode.trans not_legal_iff, fun hfails => exists_first_refused (hcode.1 hfails), ?_⟩
  intro front line back name text cause hlines hfront hline
  rw [← hshape] at hfront hline
  have hreport : report = _ := (hrun source).trans (runScript_of_refuses hlines hfront hline)
  rw [hreport]
  refine ⟨rfl, rfl, rfl, rfl, ?_⟩
  intro source' front' back' hlines' hfront' report'
  rw [← hshape] at hfront'
  have hreport' : report' = _ := (hrun source').trans (runScript_of_refuses hlines' hfront' hline)
  rw [hreport']
  refine ⟨rfl, ?_⟩
  rintro rfl
  rfl

/-- In a grid of one row, the fourth line of a script is the first that names a cell outside. -/
theorem sheet_fails_at_first_refused_line_of_row :
    let settings : SheetSettings := { rows := 1, columns := 2, trace := true }
    let source := "A1 = 1\n\n# two\n B2 = =A1\nC1\n"
    let report := (Request.sheet settings).run (decode source.toUTF8)
    settings.columns ≤ Address.columnLimit ∧
    report.code = 1 ∧ report.output = "" ∧
    report.failure.map Failure.context = some "line 4: cannot assign 'B2'" ∧
    report.failure.map Failure.cause = some "Row index 1 out of bounds (max: 0)" := by
  intro settings source report
  have hcolumns : settings.columns ≤ Address.columnLimit := by decide
  have hlines : linesOf "A1 = 1\n\n# two\n B2 = =A1\nC1\n" =
      ["A1 = 1".toList, [], "# two".toList] ++ " B2 = =A1".toList :: ["C1".toList, []] := rfl
  have hA1 : Enters ⟨1, 2, by decide⟩ "A1 = 1".toList ⟨0, 0⟩ "1" :=
    (enters_iff 0).2 ⟨"A1", rfl, rfl, by decide⟩
  have hcomment : Skipped "# two".toList := Or.inr ⟨_, rfl⟩
  have hblank : Skipped [] := Or.inl rfl
  have hfront : Legal ⟨1, 2, by decide⟩ ["A1 = 1".toList, [], "# two".toList] := by
    rw [hA1.legal_cons_iff, legal_cons_of_skipped hblank, legal_cons_of_skipped hcomment]
    exact List.forall_mem_nil _
  have hB2 : Refuses ⟨1, 2, by decide⟩ " B2 = =A1".toList "B2" "=A1" (.rowOutside 1 0) := by
    obtain ⟨hskip, -, hassigns⟩ := entry?_eq_some_iff.1
      (show entry? 0 " B2 = =A1".toList = some ⟨0, "B2", "=A1"⟩ from rfl)
    exact ⟨hskip, hassigns, .outside _ ⟨1, 1⟩ _ rfl (.row (by decide))⟩
  obtain ⟨-, -, hfails⟩ := sheet_fails_at_first_refused_line settings hcolumns source
  obtain ⟨hcode, houtput, hcontext, hcause, -⟩ := hfails _ _ _ _ _ _ hlines hfront hB2
  exact ⟨hcolumns, hcode, houtput, hcontext, hcause⟩

end CommandLine

end ReactiveGrid
