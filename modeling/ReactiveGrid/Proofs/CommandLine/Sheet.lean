import ReactiveGrid.CommandLine
import ReactiveGrid.Proofs.Grid.Current
import ReactiveGrid.Proofs.Grid.Table
import ReactiveGrid.Proofs.Script.Play

/-!
# What playing a script prints

A request for a script plays it on a new grid and prints a line for each cell that has a text, row by
row. Main statement: on a grid with all hops, a script in which no line is refused prints the texts
that it entered last and what these texts stand for, and so nothing else of the script counts, and
neither does the trace.
-/

namespace ReactiveGrid

namespace CommandLine
open Relation Script

/-! ### Listing -/

/-- A line for each cell that has a text: its name, its text and its value. -/
def table (s : Shape) (text value : Address → String) : String :=
  String.join ((s.addresses.filter (text · ≠ "")).map fun a =>
    a.name ++ "\t" ++ text a ++ "\t" ++ value a ++ "\n")

theorem table_congr {s : Shape} {text value value' : Address → String}
    (h : ∀ a, s.Contains a → value a = value' a) : table s text value = table s text value' := by
  unfold table
  refine congrArg _ (List.map_congr_left fun a ha => ?_)
  rw [h a (Shape.mem_addresses.1 (List.mem_filter.1 ha).1)]

theorem listing_eq_table {g : Grid} (h : g.Sound) : listing g = table g.shape g.text g.value := by
  have hcell : ∀ c ∈ g.cells.toList, g.text c.address = c.text ∧ g.value c.address = c.value :=
    fun c hc => ⟨Grid.text_of_cell? (h.cell?_of_mem hc), Grid.value_of_cell? (h.cell?_of_mem hc)⟩
  have hfilter : g.cells.toList.filter (!·.text.isEmpty) =
      g.cells.toList.filter (g.text ·.address ≠ "") := by
    refine List.filter_congr fun c hc => ?_
    rw [(hcell c hc).1, Bool.eq_iff_iff]
    simp
  unfold listing table
  rw [← h.map_address_cells, List.filter_map, List.map_map, String.join, List.foldl_map, hfilter]
  refine List.foldl_ext _ _ _ fun out c hc => ?_
  obtain ⟨htext, hvalue⟩ := hcell c (List.mem_filter.1 hc).1
  simp only [Function.comp_apply, cellLine, htext, hvalue, Cell.name]

/-! ### Playing -/

theorem decode_toUTF8 (source : String) : decode source.toUTF8 = .ok source := by
  have hvalid : source.toUTF8.IsValidUTF8 := source.isValidUTF8
  unfold decode String.fromUTF8?
  rw [dif_pos hvalid]
  rfl

/-- Settings for a grid of a shape on which what is entered reaches all readers, wherever the script
is read from and whether or not there is a trace. -/
def SheetSettings.transitive (s : Shape) (script : Option String) (trace : Bool) :
    SheetSettings where
  script := script
  rows := s.rows
  columns := s.columns
  propagation := .transitive
  trace := trace

theorem exists_startGrid (settings : SheetSettings)
    (hcolumns : settings.columns ≤ Address.columnLimit) :
    ∃ g, startGrid settings = .ok g ∧
      (Grid.blank ⟨settings.rows, settings.columns, hcolumns⟩ settings.propagation).Alike g ∧
      g.Sound := by
  have hcreate : Grid.create settings.rows settings.columns settings.propagation =
      .ok (Grid.blank ⟨settings.rows, settings.columns, hcolumns⟩ settings.propagation) :=
    dif_pos hcolumns
  unfold startGrid
  rw [hcreate, Except.map]
  split
  · exact ⟨_, rfl, Grid.alike_map _ (fun _ => rfl) fun _ => rfl,
      (Grid.Sound.blank _ _).map (fun _ => rfl) fun _ _ hc => hc.listen⟩
  · exact ⟨_, rfl, .refl _, .blank _ _⟩

theorem runScript_of_legal {g : Grid} (h : g.Sound) {source : String}
    (hlegal : Legal g.shape (linesOf source)) :
    (runScript g source).failure = none ∧
      (runScript g source).output = table g.shape
        (g.run ((linesOf source).filterMap operation?)).text
        (g.run ((linesOf source).filterMap operation?)).value := by
  obtain ⟨hrefused, hgrid⟩ := play_of_admitted #[] (admitted_of_legal hlegal 1)
  rw [← entries_eq_numbered] at hrefused hgrid
  have hlisting := listing_eq_table (h.run ((linesOf source).filterMap operation?))
  rw [Grid.shape_run] at hlisting
  unfold runScript
  simp only [hrefused, hgrid, map_operation_entries, hlisting, and_self]

theorem run_sheet_of_legal {s : Shape} {source : String} (script : Option String) (trace : Bool)
    (hlegal : Legal s (linesOf source)) :
    let report := (Request.sheet (.transitive s script trace)).run (decode source.toUTF8)
    report.code = 0 ∧ ∃ text, (∀ a, LastText s (linesOf source) a (text a)) ∧
      ∀ ending, (∀ a, s.Contains a → s.EndsAt text a (ending a)) →
        report.output = table s text (text ∘ ending) := by
  intro report
  obtain ⟨g, hstart, hsame, hsound⟩ := exists_startGrid (.transitive s script trace) s.columns_le
  have hshape : g.shape = s := hsame.shape_eq
  rw [← hshape] at hlegal
  have hreport : report = runScript g source := by
    simp only [report, Request.run, runSheet, decode_toUTF8, hstart]
  have hempty : ∀ a, g.text a = "" := fun a => (hsame.text_eq a).trans (Grid.text_blank ..)
  have hcurrent : (g.run ((linesOf source).filterMap operation?)).Current :=
    ((Grid.current_blank s .transitive).of_alike hsame).run hsame.propagation_eq _
  obtain ⟨hfailure, houtput⟩ := runScript_of_legal hsound hlegal
  rw [hreport]
  constructor
  · rw [Report.code, hfailure]
    rfl
  · refine ⟨_, fun a => hshape ▸ lastText_run hempty hlegal a, fun ending hending => ?_⟩
    rw [houtput, hshape]
    refine table_congr fun a ha => hcurrent.value_eq_text ?_
    rw [Grid.shape_run, hshape]
    exact hending a ha

/-- A script in which no line is refused is played to its end. What is printed is a line for each
cell for which the text that was entered last is not empty, row by row: its name, that text, and the
text of the cell where its chain of references ends in the texts that were entered last. So scripts
that enter the same texts last print the same, with a trace or without, and so do all variants of a
script. -/
theorem sheet_prints_last_texts (s : Shape) (script : Option String) (trace : Bool)
    (source : String) (hlegal : Legal s (linesOf source)) :
    let report := (Request.sheet (.transitive s script trace)).run (decode source.toUTF8)
    report.code = 0 ∧
    (∃ text ending, (∀ a, LastText s (linesOf source) a (text a)) ∧
      (∀ a, s.Contains a → s.EndsAt text a (ending a)) ∧
      report.output = table s text (text ∘ ending)) ∧
    ∀ (script' : Option String) (trace' : Bool) (source' : String),
      (Legal s (linesOf source') ∧ ∀ a text,
        LastText s (linesOf source) a text ↔ LastText s (linesOf source') a text) ∨
        EqvGen (Variant s) (linesOf source) (linesOf source') →
      let report' := (Request.sheet (.transitive s script' trace')).run (decode source'.toUTF8)
      report'.code = 0 ∧ report'.output = report.output := by
  intro report
  obtain ⟨hcode, text, htext, houtput⟩ := run_sheet_of_legal script trace hlegal
  have hends : ∀ a, ∃ e, s.Contains a → s.EndsAt text a e := by
    intro a
    by_cases ha : s.Contains a
    · obtain ⟨e, he⟩ : ∃ e, s.EndsAt text a e := Shape.exists_endsAt_of_contains ha
      exact ⟨e, fun _ => he⟩
    · exact ⟨a, fun h => absurd h ha⟩
  choose ending hending using hends
  refine ⟨hcode, ⟨text, ending, htext, hending, houtput ending hending⟩, ?_⟩
  intro script' trace' source' hsame report'
  obtain ⟨hlegal', hlast⟩ : Legal s (linesOf source') ∧ ∀ a text,
      LastText s (linesOf source) a text ↔ LastText s (linesOf source') a text := by
    rcases hsame with hsame | hvariant
    · exact hsame
    · obtain ⟨hiff, hagree⟩ := agree_of_eqvGen_variant hvariant
      exact ⟨hiff.1 hlegal, fun a => (hagree a).lastText_iff⟩
  obtain ⟨hcode', text', htext', houtput'⟩ := run_sheet_of_legal script' trace' hlegal'
  have heq : text' = text := funext fun a => (htext' a).unique ((hlast a _).1 (htext a))
  rw [heq] at houtput'
  exact ⟨hcode', (houtput' ending hending).trans (houtput ending hending).symm⟩

/-- The name of A1 is spelled with a zero, and its text is entered after B1 has referred to it. -/
theorem sheet_prints_last_texts_of_reference :
    let report := (Request.sheet (.transitive ⟨1, 2, by decide⟩ none true)).run
      (decode "B1 = =A01\n# seven\nA01=7\n".toUTF8)
    report.code = 0 ∧ report.output = "A1\t7\t7\nB1\t=A01\t7\n" := by
  intro report
  have hlines : linesOf "B1 = =A01\n# seven\nA01=7\n" =
      ["B1 = =A01".toList, "# seven".toList, "A01=7".toList, []] := rfl
  have hB1 : Enters ⟨1, 2, by decide⟩ "B1 = =A01".toList ⟨0, 1⟩ "=A01" :=
    (enters_iff 0).2 ⟨"B1", rfl, rfl, by decide⟩
  have hA1 : Enters ⟨1, 2, by decide⟩ "A01=7".toList ⟨0, 0⟩ "7" :=
    (enters_iff 0).2 ⟨"A01", rfl, rfl, by decide⟩
  have hcomment : Skipped "# seven".toList := Or.inr ⟨_, rfl⟩
  have hblank : Skipped [] := Or.inl rfl
  have hlegal : Legal ⟨1, 2, by decide⟩ (linesOf "B1 = =A01\n# seven\nA01=7\n") := by
    rw [hlines, hB1.legal_cons_iff, legal_cons_of_skipped hcomment, hA1.legal_cons_iff,
      legal_cons_of_skipped hblank]
    exact List.forall_mem_nil _
  obtain ⟨hcode, ⟨text, ending, htext, hending, houtput⟩, -⟩ :=
    sheet_prints_last_texts ⟨1, 2, by decide⟩ none true "B1 = =A01\n# seven\nA01=7\n" hlegal
  rw [hlines] at htext
  have htextA : text ⟨0, 0⟩ = "7" :=
    (htext ⟨0, 0⟩).unique (.entered ["B1 = =A01".toList, "# seven".toList] _ [[]] _ rfl hA1
      (untouched_of_skipped hblank))
  have htextB : text ⟨0, 1⟩ = "=A01" := by
    refine (htext ⟨0, 1⟩).unique (.entered [] _ _ _ rfl hB1 ?_)
    exact untouched_append.2 ⟨untouched_of_skipped hcomment,
      untouched_append.2 ⟨hA1.untouched_of_ne (by decide), untouched_of_skipped hblank⟩⟩
  have hfree : ∀ t, ¬ Shape.Refers ⟨1, 2, by decide⟩ text ⟨0, 0⟩ t := by
    intro t ht
    rw [Shape.Refers, htextA] at ht
    cases ht
  have hBA : Shape.Refers ⟨1, 2, by decide⟩ text ⟨0, 1⟩ ⟨0, 0⟩ := by
    rw [Shape.Refers, htextB]
    rfl
  have hacyclic : ¬ Shape.RefersInCycle ⟨1, 2, by decide⟩ text ⟨0, 1⟩ :=
    fun hcycle => Shape.not_refersInCycle_of_no_reference hfree (hcycle.of_refers hBA)
  have hendA : ending ⟨0, 0⟩ = ⟨0, 0⟩ :=
    (hending ⟨0, 0⟩ (by decide)).unique (.noReference _ hfree)
  have hendB : ending ⟨0, 1⟩ = ⟨0, 0⟩ :=
    (hending ⟨0, 1⟩ (by decide)).unique (.follow _ _ _ hBA hacyclic (.noReference _ hfree))
  refine ⟨hcode, houtput.trans ?_⟩
  have haddresses : Shape.addresses ⟨1, 2, by decide⟩ = [⟨0, 0⟩, ⟨0, 1⟩] := rfl
  unfold table
  rw [haddresses]
  have hfilter : [(⟨0, 0⟩ : Address), ⟨0, 1⟩].filter (text · ≠ "") = [⟨0, 0⟩, ⟨0, 1⟩] := by
    simp [htextA, htextB]
  rw [hfilter, List.map_cons, List.map_singleton, Function.comp_apply, Function.comp_apply, hendA,
    hendB, htextA, htextB]
  rfl

end CommandLine

end ReactiveGrid
