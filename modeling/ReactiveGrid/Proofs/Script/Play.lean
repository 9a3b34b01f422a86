import ReactiveGrid.Proofs.Grid.Run
import ReactiveGrid.Proofs.Script.Entries

/-!
# Playing a script

A script in which no line is refused is a run of operations on the grid, and leaves in each cell the
text that was entered for it last.
-/

namespace ReactiveGrid

theorem Grid.apply_setTextByName {g : Grid} {a : Address} {name text : String}
    (hname : Address.parse name = .ok a) (ha : g.shape.Contains a) :
    g.apply (.setTextByName name text) = .ofUpdate (g.assign a text) := by
  have hof : Address.ofName name = .ok a := Address.ofName_of_parse_eq_ok hname
  simp only [apply, hof, applyAt_of_contains ha]

namespace Script

theorem play_cons (g : Grid) (events : Array Event) (e : Entry) (es : List Entry) :
    play g events (e :: es) =
      match (g.apply e.operation).outcome with
      | .ok _ => play (g.apply e.operation).grid (events ++ (g.apply e.operation).events) es
      | .error cause =>
        { grid := (g.apply e.operation).grid, events := events, refused := some (e, cause) } := by
  rw [play]
  split
  · next heq =>
    rw [heq]
  · next heq =>
    rw [heq]

theorem play_invariant {P : Grid → Prop} (hmove : ∀ g g', P g → g.Move g' → P g') (g : Grid)
    (events : Array Event) (es : List Entry) (hg : P g) : P (play g events es).grid := by
  induction es generalizing g events with
  | nil => exact hg
  | cons e es ih =>
    have happly := hmove g _ hg (Grid.move_apply g e.operation)
    rw [play_cons]
    split
    · exact ih _ _ happly
    · exact happly

theorem play_of_admitted {g : Grid} {es : List Entry} (events : Array Event)
    (h : ∀ e ∈ es, ∃ a, Address.parse e.name = .ok a ∧ g.shape.Contains a) :
    (play g events es).refused = none ∧
      (play g events es).grid = g.run (es.map Entry.operation) := by
  induction es generalizing g events with
  | nil => exact ⟨rfl, rfl⟩
  | cons e es ih =>
    obtain ⟨⟨a, hname, ha⟩, hes⟩ := List.forall_mem_cons.1 h
    have happly : g.apply e.operation = .ofUpdate (g.assign a e.text) :=
      Grid.apply_setTextByName hname ha
    have hplay : play g events (e :: es) =
        play (g.assign a e.text).grid (events ++ (g.assign a e.text).events.toList) es := by
      simp only [play, happly, Transition.ofUpdate]
    have hrun : g.run ((e :: es).map Entry.operation) =
        (g.assign a e.text).grid.run (es.map Entry.operation) := by
      rw [List.map_cons, Grid.run, List.foldl_cons, happly, Transition.grid_ofUpdate, ← Grid.run]
    rw [hplay, hrun]
    refine ih _ fun e' he' => ?_
    rw [Grid.shape_assign]
    exact hes e' he'

theorem admitted_of_legal {s : Shape} {lines : List (List Char)} (h : Legal s lines) (number : Nat) :
    ∀ e ∈ numbered number lines, ∃ a, Address.parse e.name = .ok a ∧ s.Contains a := by
  intro e he
  obtain ⟨n, line, hmem, hentry⟩ := exists_entry?_of_mem_numbered he
  rcases h line hmem with hskip | ⟨a, text, henters⟩
  · rw [entry?_eq_none_iff.2 hskip] at hentry
    cases hentry
  · obtain ⟨name, hentered, hname, ha⟩ := (enters_iff n).1 henters
    rw [hentry] at hentered
    rw [Option.some.inj hentered]
    exact ⟨a, hname, ha⟩

/-- By induction on the last line: it is skipped, or it enters a text for one cell. -/
theorem lastText_run {g : Grid} (hempty : ∀ a, g.text a = "") {lines : List (List Char)}
    (h : Legal g.shape lines) (a : Address) :
    LastText g.shape lines a ((g.run (lines.filterMap operation?)).text a) := by
  induction lines using List.reverseRecOn with
  | nil =>
    rw [lastText_of_untouched untouched_nil]
    exact hempty a
  | append_singleton lines line ih =>
    obtain ⟨hlines, hline⟩ := legal_append.1 h
    rw [List.filterMap_append]
    rcases hline line (List.mem_singleton_self _) with hskip | ⟨b, text, henters⟩
    · rw [List.filterMap_cons_none (operation?_of_skipped hskip), List.filterMap_nil,
        List.append_nil, lastText_append_of_untouched (untouched_of_skipped hskip)]
      exact ih hlines
    · obtain ⟨name, hoperation, hname⟩ := henters.operation?_eq
      have hb : (g.run (lines.filterMap operation?)).shape.Contains b := by
        rw [Grid.shape_run]
        exact henters.contains
      rw [List.filterMap_cons_some hoperation, List.filterMap_nil, Grid.run_concat,
        Grid.apply_setTextByName hname hb, Transition.grid_ofUpdate]
      by_cases hab : b = a
      · subst hab
        rw [Grid.text_assign_self hb,
          lastText_append_of_touched (henters.not_untouched (List.mem_singleton_self _)),
          henters.lastText_iff]
      · rw [Grid.text_assign_of_ne (Ne.symm hab),
          lastText_append_of_untouched (henters.untouched_of_ne hab)]
        exact ih hlines

end Script

end ReactiveGrid
