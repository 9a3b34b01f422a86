import ReactiveGrid.Proofs.CommandLine.Sheet
import ReactiveGrid.Proofs.Grid.Listeners

/-!
# Traces

For a trace, each cell of the grid on which a script is played has a listener. The same lines are
refused as without a trace, and the same is printed. Main statement: calls that register or remove
listeners can be left out of any run, and a trace out of any request for a script, and nothing changes
but what is answered about these listeners.
-/

namespace ReactiveGrid

/-! ### Playing -/

namespace Script

/-- By induction on the entries: each is refused for both grids or for none. -/
theorem play_sameButListeners {cells : Address → Prop} {g g' : Grid}
    (h : g.SameButListeners cells g') (events events' : Array Event) (es : List Entry) :
    (play g' events' es).refused = (play g events es).refused ∧
      (play g events es).grid.SameButListeners cells (play g' events' es).grid := by
  induction es generalizing g g' events events' with
  | nil => exact ⟨rfl, h⟩
  | cons e es ih =>
    have happly := (h.apply e.operation).grid
    have houtcome : (g'.apply e.operation).outcome = (g.apply e.operation).outcome := by
      refine h.outcome_apply fun a ha => ?_
      cases ha
    rw [play_cons, play_cons, houtcome]
    cases (g.apply e.operation).outcome with
    | ok => exact ih happly _ _
    | error cause => exact ⟨rfl, happly⟩

end Script

namespace CommandLine
open Script

/-! ### Sheets -/

theorem startGrid_traced (settings : SheetSettings) :
    startGrid { settings with trace := true } =
      (Grid.create settings.rows settings.columns settings.propagation).map fun g =>
        { g with cells := g.cells.map Cell.listen } :=
  rfl

theorem startGrid_untraced (settings : SheetSettings) :
    startGrid { settings with trace := false } =
      Grid.create settings.rows settings.columns settings.propagation := by
  unfold startGrid
  cases Grid.create settings.rows settings.columns settings.propagation with
  | error cause => rfl
  | ok g => rfl

theorem sound_create {rows columns : Nat} {m : Propagation} {g : Grid}
    (h : Grid.create rows columns m = .ok g) : g.Sound := by
  unfold Grid.create at h
  split at h
  · obtain rfl := Except.ok.inj h
    exact .blank _ _
  · cases h

theorem listing_sameButListeners {cells : Address → Prop} {g g' : Grid} (hg : g.Sound)
    (hg' : g'.Sound) (h : g.SameButListeners cells g') : listing g' = listing g := by
  have htext : g'.text = g.text := funext h.alike.text_eq
  have hvalue : g'.value = g.value := funext h.alike.value_eq
  rw [listing_eq_table hg, listing_eq_table hg', h.shape_eq, htext, hvalue]

theorem runScript_sameButListeners {cells : Address → Prop} {g g' : Grid} (hg : g.Sound)
    (hg' : g'.Sound) (h : g.SameButListeners cells g') (source : String) :
    (runScript g' source).failure = (runScript g source).failure ∧
      (runScript g' source).output = (runScript g source).output := by
  have hsound : ∀ g : Grid, g.Sound → (play g #[] (entries source)).grid.Sound := fun g hg =>
    play_invariant (fun _ _ h hmove => h.move hmove) g #[] (entries source) hg
  obtain ⟨hrefused, hplayed⟩ := play_sameButListeners h #[] #[] (entries source)
  have hlisting := listing_sameButListeners (hsound g hg) (hsound g' hg') hplayed
  unfold runScript
  simp only [hrefused]
  cases (play g #[] (entries source)).refused with
  | none => exact ⟨rfl, hlisting⟩
  | some refusal => exact ⟨rfl, rfl⟩

theorem runSheet_traced (settings : SheetSettings) (source : Except ReadFault String) :
    (runSheet { settings with trace := true } source).failure =
        (runSheet { settings with trace := false } source).failure ∧
      (runSheet { settings with trace := true } source).output =
        (runSheet { settings with trace := false } source).output := by
  unfold runSheet
  cases source with
  | error cause => exact ⟨rfl, rfl⟩
  | ok source =>
    simp only [startGrid_traced, startGrid_untraced]
    cases hcreate : Grid.create settings.rows settings.columns settings.propagation with
    | error cause => exact ⟨rfl, rfl⟩
    | ok g =>
      have hg : g.Sound := sound_create hcreate
      have hlisten : Grid.Sound { g with cells := g.cells.map Cell.listen } :=
        hg.map (fun _ => rfl) fun _ _ hc => hc.listen
      have hsame : g.SameButListeners (fun _ => True)
          { g with cells := g.cells.map Cell.listen } :=
        .map _ (fun _ => trivial) g fun _ => rfl
      exact runScript_sameButListeners hg hlisten hsame source

/-- Listeners only observe. Calls that register or remove listeners can be left out of a run on any
grid. Then each further operation leaves the same links and, apart from their listeners, the same
cells, and the same is logged. It is refused for the same cause or not at all, and its answer is the
same unless it concerns the listeners of a cell of which such a call was left out. A script gives the
same exit code and the same output with a trace and without. -/
theorem listeners_only_observe :
    (∀ (cells : Address → Prop) (g : Grid) (ops ops' : List Operation) (op : Operation),
      LeavesOutListening cells ops ops' →
      let t := (g.run ops).apply op
      let t' := (g.run ops').apply op
      t'.grid.shape = t.grid.shape ∧ t'.grid.propagation = t.grid.propagation ∧
      t'.grid.graph = t.grid.graph ∧
      (∀ a, (t'.grid.cell? a).map Cell.muted = (t.grid.cell? a).map Cell.muted) ∧
      t'.events.map Event.record = t.events.map Event.record ∧
      (∀ cause, t'.outcome = .error cause ↔ t.outcome = .error cause) ∧
      ((∀ a, op.listenedCell? = some a → ¬ cells a) → t'.outcome = t.outcome)) ∧
    ∀ (settings : SheetSettings) (source : Except ReadFault String),
      let traced := (Request.sheet { settings with trace := true }).run source
      let untraced := (Request.sheet { settings with trace := false }).run source
      traced.code = untraced.code ∧ traced.output = untraced.output := by
  constructor
  · intro cells g ops ops' op hops t t'
    have hrun := (Grid.SameButListeners.refl cells g).run hops
    have happly := hrun.apply op
    exact ⟨happly.grid.shape_eq, happly.grid.propagation_eq, happly.grid.graph_eq,
      happly.grid.muted_eq, happly.records_eq, happly.refused_iff, hrun.outcome_apply⟩
  · intro settings source traced untraced
    obtain ⟨hfailure, houtput⟩ := runSheet_traced settings source
    refine ⟨?_, houtput⟩
    unfold Report.code
    rw [show traced.failure = untraced.failure from hfailure]

/-- A listener is removed only once, so a removal tells whether one before it was left out. -/
theorem answers_differ_without_listening :
    let g := Grid.blank ⟨1, 1, by decide⟩ .transitive
    let ops := [Operation.listen ⟨0, 0⟩, .unlisten ⟨0, 0⟩ 0]
    let ops' := [Operation.listen ⟨0, 0⟩]
    LeavesOutListening (· = ⟨0, 0⟩) ops ops' ∧
      ((g.run ops).apply (.unlisten ⟨0, 0⟩ 0)).outcome = .ok (.removed false) ∧
      ((g.run ops').apply (.unlisten ⟨0, 0⟩ 0)).outcome = .ok (.removed true) := by
  refine ⟨?_, rfl, rfl⟩
  exact .keep _ _ _ (.leaveOut _ ⟨0, 0⟩ _ _ rfl rfl .nil)

end CommandLine

end ReactiveGrid
