import ReactiveGrid.Proofs.Grid.Notifications

/-!
# What is logged when a text is entered

Each renewed cell leaves the same lines in the log: that its text is told, a remark if it shows its raw
text for a reason, its value, and that this is told. There are two reasons. A cell on a cycle is warned
of; this is found out once, before any renewal, and no renewal changes it. A formula that refers to no
cell of the grid is remarked on, and this can only be the text that is entered: a reader has a text that
refers to a cell.
-/

namespace ReactiveGrid
open Dependency

namespace Log.Record

def cellChanged (a : Address) (p : Property) : Record where
  level := .trace
  target := "gridcalc_core::cell"
  message := "cell changed"
  fields := [("cell", .plain a.name), ("property", .plain p.name)]

def circular (a : Address) (text : String) : Record where
  level := .warn
  target := "gridcalc_core::grid"
  message := "circular reference, showing raw text"
  fields := [("cell", .plain a.name), ("formula", .quoted text)]

def unresolved (a : Address) (text : String) : Record where
  level := .debug
  target := "gridcalc_core::grid"
  message := "unresolved reference, showing raw text"
  fields := [("cell", .plain a.name), ("formula", .quoted text)]

def recomputed (a : Address) (value : String) : Record where
  level := .debug
  target := "gridcalc_core::grid"
  message := "recomputed"
  fields := [("cell", .plain a.name), ("value", .plain value)]

end Log.Record

/-- Notices are traced, and nothing else is. -/
theorem Event.filter_trace (events : List Event) :
    (events.map record).filter (·.level = .trace) =
      (events.filterMap notice?).map fun n => .cellChanged n.1.address n.2 := by
  induction events with
  | nil => rfl
  | cons e es ih =>
    cases e with
    | notified c p =>
      rw [List.map_cons, List.filter_cons_of_pos rfl, ih]
      rfl
    | circular => exact ih
    | unresolved => exact ih
    | recomputed => exact ih
    | bound => exact ih

namespace Grid

variable {g : Grid} {a d : Address} {text : String}

/-- Why the cell shows its raw text, where there is something to say about it. -/
def remarks (g : Grid) (a : Address) : List Log.Record :=
  (if g.graph.OnCycle a then [.circular a (g.text a)] else []) ++
    if g.shape.Dangles (g.text a) then [.unresolved a (g.text a)] else []

/-- What is logged of a cell that is renewed. -/
def renewalLog (g : Grid) (a : Address) : List Log.Record :=
  .cellChanged a .text ::
    (g.remarks a ++ [.recomputed a (g.value a), .cellChanged a .value])

theorem Linked.not_onCycle (h : g.Linked) (hnone : g.shape.target? (g.text a) = none) :
    ¬ g.graph.OnCycle a := by
  intro ha
  obtain ⟨t, -, hta⟩ := Relation.TransGen.tail'_iff.1 ha
  have hrefers : g.shape.target? (g.text a) = some t := (h t a).1 hta
  rw [hnone] at hrefers
  cases hrefers

theorem records_evaluate {cyclic : Std.ExtTreeSet Address} (h : g.Linked)
    (hcyclic : a ∈ cyclic ↔ g.graph.OnCycle a) :
    (g.evaluate cyclic a).2.map Event.record = g.remarks a := by
  unfold evaluate remarks
  cases hf : formula? (g.text a) with
  | none =>
    have hoff : ¬ g.graph.OnCycle a := h.not_onCycle (by rw [Shape.target?, hf, Option.bind_none])
    have hdangles : ¬ g.shape.Dangles (g.text a) := by
      rw [Shape.dangles_iff, hf]
      simp
    simp only [hf, if_neg hoff, if_neg hdangles]
    rfl
  | some name =>
    have htarget : g.shape.target? (g.text a) = g.shape.resolve? name := by
      rw [Shape.target?, hf, Option.bind_some]
    cases ht : g.shape.resolve? name with
    | none =>
      have hoff : ¬ g.graph.OnCycle a := h.not_onCycle (htarget.trans ht)
      have hdangles : g.shape.Dangles (g.text a) := Shape.dangles_iff.2 ⟨name, hf, ht⟩
      simp only [hf, ht, if_neg hoff, if_pos hdangles]
      rfl
    | some t =>
      have hdangles : ¬ g.shape.Dangles (g.text a) := by
        intro hdangles
        have hnone := hdangles.target?_eq_none
        rw [htarget, ht] at hnone
        cases hnone
      simp only [hf, ht, hcyclic, if_neg hdangles]
      split <;> rfl

theorem records_told (h : g.Placed a) (p : Property) :
    (g.told p a).map Event.record = [.cellChanged a p] := by
  obtain ⟨c, hc, rfl⟩ := h
  rw [told, hc]
  rfl

theorem records_block {before after : Grid} {cyclic : Std.ExtTreeSet Address}
    (hbefore : before.Placed a) (hafter : after.Placed a) (h : after.Linked)
    (hcyclic : a ∈ cyclic ↔ after.graph.OnCycle a) :
    (block before after cyclic a).map Event.record = after.renewalLog a := by
  rw [block, List.map_append, List.map_append, List.map_cons, records_told hbefore,
    records_told hafter, records_evaluate h hcyclic]
  rfl

theorem records_assign (h : g.Sound) (ha : g.shape.Contains a) :
    (g.assign a text).events.toList.map Event.record =
      (g.renewed a text).flatMap (g.assign a text).grid.renewalLog := by
  rw [events_assign, List.map_flatMap]
  refine List.flatMap_congr fun d hd => ?_
  obtain ⟨hentered, hassigned⟩ := placed_of_mem_renewed h ha hd
  refine records_block hentered hassigned (linked_assign h.linked a text) ?_
  rw [graph_assign, Graph.mem_cyclicCells]
  exact and_iff_right (reaches_of_mem_renewed hd)

/-! ### The lines of one kind -/

theorem filter_warn_renewalLog (g : Grid) (a : Address) :
    (g.renewalLog a).filter (·.level = .warn) =
      if g.graph.OnCycle a then [.circular a (g.text a)] else [] := by
  unfold renewalLog remarks
  split <;> split <;> rfl

theorem filter_unresolved_renewalLog (g : Grid) (a : Address) :
    (g.renewalLog a).filter (·.message = "unresolved reference, showing raw text") =
      if g.shape.Dangles (g.text a) then [.unresolved a (g.text a)] else [] := by
  unfold renewalLog remarks
  split <;> split <;> rfl

theorem filter_recomputed_renewalLog (g : Grid) (a : Address) :
    (g.renewalLog a).filter (·.message = "recomputed") = [.recomputed a (g.value a)] := by
  unfold renewalLog remarks
  split <;> split <;> rfl

theorem flatMap_ite_singleton {α β : Type} (p : α → Prop) [DecidablePred p] (f : α → β)
    (l : List α) : (l.flatMap fun x => if p x then [f x] else []) = (l.filter (p ·)).map f := by
  induction l with
  | nil => rfl
  | cons x xs ih =>
    rw [List.flatMap_cons, ih]
    by_cases hx : p x
    · rw [if_pos hx, List.filter_cons_of_pos (by simpa using hx)]
      rfl
    · rw [if_neg hx, List.filter_cons_of_neg (by simpa using hx)]
      rfl

theorem Linked.not_dangles_of_feeds (h : g.Linked) {p : Address} (hp : g.graph.Feeds p d) :
    ¬ g.shape.Dangles (g.text d) := by
  intro hdangles
  have hrefers : g.shape.target? (g.text d) = some p := (h p d).1 hp
  rw [hdangles.target?_eq_none] at hrefers
  cases hrefers

theorem not_dangles_of_mem_readers (h : g.Linked) (hd : d ∈ (g.rebound a text).readers a) :
    ¬ (g.assign a text).grid.shape.Dangles ((g.assign a text).grid.text d) := by
  rcases Relation.ReflTransGen.cases_tail (reaches_of_mem_readers hd) with heq | ⟨p, -, hpd⟩
  · exact absurd heq (ne_of_mem_readers hd)
  · rw [← graph_assign] at hpd
    exact (linked_assign h a text).not_dangles_of_feeds hpd

/-- The log of a text that is entered after any run. For the written cell and then for each of its
readers, in the order of recalculation: its text is told, a remark is made if there is one to make, its
last value is logged, and this is told. So each of these cells on a cycle is warned of once, and no
other; an unresolved reference is remarked on once, if the entered text is an equals sign and no name of
an address inside; each value is logged once; each notice is traced once; and there is nothing else. -/
theorem log_of_entered_text (s : Shape) (m : Propagation) (ops : List Operation) (a : Address)
    (text : String) (hok : (((blank s m).run ops).apply (.setText a text)).outcome = .ok .done) :
    let t := ((blank s m).run ops).apply (.setText a text)
    let renewed := a :: (if m = .transitive then t.grid.graph.recalculationOrder a
      else (t.grid.graph.dependents a).filter (· ≠ a))
    let log := t.events.map Event.record
    renewed.Nodup ∧
    log = renewed.flatMap t.grid.renewalLog ∧
    log.filter (·.level = .warn) =
      (renewed.filter (t.grid.graph.OnCycle ·)).map (fun d => .circular d (t.grid.text d)) ∧
    log.filter (·.message = "unresolved reference, showing raw text") =
      (if s.Dangles text then [.unresolved a text] else []) ∧
    log.filter (·.message = "recomputed") =
      renewed.map (fun d => .recomputed d (t.grid.value d)) ∧
    log.filter (·.level = .trace) =
      (t.events.filterMap Event.notice?).map fun n => .cellChanged n.1.address n.2 := by
  have h : ((blank s m).run ops).Sound := sound_run s m ops
  have ha : ((blank s m).run ops).shape.Contains a := contains_of_setText_done hok
  have hmode : ((blank s m).run ops).propagation = m := propagation_run (blank s m) ops
  have hshape : ((blank s m).run ops).shape = s := shape_run (blank s m) ops
  clear hok
  generalize (blank s m).run ops = g at h ha hmode hshape ⊢
  intro t renewed log
  have ht : t = .ofUpdate (g.assign a text) := apply_setText ha
  have hgrid : t.grid = (g.assign a text).grid := by rw [ht, Transition.grid_ofUpdate]
  have hevents : t.events = (g.assign a text).events.toList := by
    rw [ht, Transition.events_ofUpdate]
  have hrenewed : renewed = g.renewed a text := by
    rw [Grid.renewed, readers_rebound, hmode, ← hgrid]
  have hrecords : log = t.events.map Event.record := rfl
  have hlog : log = renewed.flatMap t.grid.renewalLog := by
    rw [hrecords, hrenewed, hgrid, ← records_assign h ha, ← hevents]
  clear_value log renewed t
  refine ⟨?_, hlog, ?_, ?_, ?_, ?_⟩
  · rw [hrenewed]
    exact nodup_renewed g a text
  · rw [hlog, List.filter_flatMap]
    simp only [filter_warn_renewalLog]
    exact flatMap_ite_singleton t.grid.graph.OnCycle
      (fun d => Log.Record.circular d (t.grid.text d)) renewed
  · have hreaders : ((g.rebound a text).readers a).flatMap (fun d =>
        if t.grid.shape.Dangles (t.grid.text d) then
          [Log.Record.unresolved d (t.grid.text d)] else []) = [] := by
      refine List.flatMap_eq_nil_iff.2 fun d hd => if_neg ?_
      rw [hgrid]
      exact not_dangles_of_mem_readers h.linked hd
    rw [hlog, List.filter_flatMap]
    simp only [filter_unresolved_renewalLog]
    rw [hrenewed, Grid.renewed, List.flatMap_cons, hreaders, List.append_nil, hgrid, shape_assign,
      text_assign_self ha, hshape]
  · rw [hlog, List.filter_flatMap]
    simp only [filter_recomputed_renewalLog]
    exact (List.map_eq_flatMap ..).symm
  · rw [hrecords]
    exact Event.filter_trace t.events

/-- Where B1 refers to A1, a text of A1 that refers to B1 closes a cycle, and both cells are warned of. -/
theorem log_of_entered_text_in_cycle :
    let t := ((blank ⟨1, 2, by decide⟩ .singleHop).run [.setText ⟨0, 1⟩ "=A1"]).apply
      (.setText ⟨0, 0⟩ "=B1")
    let log := t.events.map Event.record
    t.outcome = .ok .done ∧
    .circular ⟨0, 0⟩ "=B1" ∈ log.filter (·.level = .warn) ∧
    .circular ⟨0, 1⟩ "=A1" ∈ log.filter (·.level = .warn) := by
  have hA1 : ((blank ⟨1, 2, by decide⟩ .singleHop).run
      [.setText ⟨0, 1⟩ "=A1"]).shape.Contains ⟨0, 0⟩ := by
    rw [shape_run]
    decide
  have hok : (((blank ⟨1, 2, by decide⟩ .singleHop).run [.setText ⟨0, 1⟩ "=A1"]).apply
      (.setText ⟨0, 0⟩ "=B1")).outcome = .ok .done :=
    congrArg Transition.outcome (apply_setText hA1)
  obtain ⟨-, -, hwarned, -⟩ := log_of_entered_text ⟨1, 2, by decide⟩ .singleHop
    [.setText ⟨0, 1⟩ "=A1"] ⟨0, 0⟩ "=B1" hok
  have hsound := sound_run ⟨1, 2, by decide⟩ .singleHop [.setText ⟨0, 1⟩ "=A1"]
  have hshape := shape_run (blank ⟨1, 2, by decide⟩ .singleHop) [.setText ⟨0, 1⟩ "=A1"]
  have htext : ((blank ⟨1, 2, by decide⟩ .singleHop).run [.setText ⟨0, 1⟩ "=A1"]).text ⟨0, 1⟩ =
      "=A1" := text_setText (by decide)
  generalize (blank ⟨1, 2, by decide⟩ .singleHop).run [.setText ⟨0, 1⟩ "=A1"] = g
    at hA1 hok hwarned hsound hshape htext ⊢
  have hlinked : (g.apply (.setText ⟨0, 0⟩ "=B1")).grid.Linked := by
    rw [grid_setText hA1]
    exact linked_assign hsound.linked _ _
  have hA : (g.apply (.setText ⟨0, 0⟩ "=B1")).grid.text ⟨0, 0⟩ = "=B1" := text_setText hA1
  have hB : (g.apply (.setText ⟨0, 0⟩ "=B1")).grid.text ⟨0, 1⟩ = "=A1" :=
    (text_setText_of_ne (by decide)).trans htext
  have hs : (g.apply (.setText ⟨0, 0⟩ "=B1")).grid.shape = ⟨1, 2, by decide⟩ := by
    rw [grid_setText hA1, shape_assign, hshape]
    rfl
  generalize g.apply (.setText ⟨0, 0⟩ "=B1") = t at hok hwarned hlinked hA hB hs ⊢
  have hAB : t.grid.shape.Refers t.grid.text ⟨0, 0⟩ ⟨0, 1⟩ := by
    rw [Shape.Refers, hA, hs]
    rfl
  have hBA : t.grid.shape.Refers t.grid.text ⟨0, 1⟩ ⟨0, 0⟩ := by
    rw [Shape.Refers, hB, hs]
    rfl
  have hfeeds : t.grid.graph.Feeds ⟨0, 0⟩ ⟨0, 1⟩ := (hlinked _ _).2 hBA
  have hcycleA : t.grid.graph.OnCycle ⟨0, 0⟩ :=
    (hlinked.onCycle_iff _).2 (.tail (.single hAB) hBA)
  have hcycleB : t.grid.graph.OnCycle ⟨0, 1⟩ :=
    (hlinked.onCycle_iff _).2 (.tail (.single hBA) hAB)
  refine ⟨hok, ?_, ?_⟩
  · rw [hwarned, ← hA]
    exact List.mem_map_of_mem (List.mem_filter.2 ⟨List.mem_cons_self, decide_eq_true hcycleA⟩)
  · rw [hwarned, ← hB]
    have hreader : (⟨0, 1⟩ : Address) ∈ (t.grid.graph.dependents ⟨0, 0⟩).filter (· ≠ ⟨0, 0⟩) :=
      List.mem_filter.2 ⟨hfeeds, by decide⟩
    exact List.mem_map_of_mem
      (List.mem_filter.2 ⟨List.mem_cons_of_mem _ hreader, decide_eq_true hcycleB⟩)

end Grid

end ReactiveGrid
