import ReactiveGrid.Proofs.Grid.History
import ReactiveGrid.Proofs.Grid.Snapshots
import ReactiveGrid.Proofs.Grid.Table

/-!
# Texts, colors and marks of a change

The text, the color and the mark of a cell are written by calls that enter a text for the cell or paint
it, and the mark is taken away by saving; nothing else touches them. Main statement: after every run a
cell has the text that was entered for it last and the color that it was painted last, and it is marked
if one of the two was done since the last save.
-/

namespace ReactiveGrid

namespace Call

/-- The call entered a text for the cell or painted it, perhaps with what was there already. -/
def Marks (a : Address) (call : Call) : Prop :=
  (∃ text, call.Does a (.enter text)) ∨ ∃ color, call.Does a (.paint color)

variable {a : Address} {call : Call} {deed : Deed}

theorem Does.marks_iff (h : call.Does a deed) :
    call.Marks a ↔ (∃ text, .enter text = deed) ∨ ∃ color, .paint color = deed := by
  simp only [Marks, h.iff]

theorem Spares.not_marks (h : call.Spares a) : ¬ call.Marks a := by
  rintro (⟨text, htext⟩ | ⟨color, hcolor⟩)
  · exact h _ htext
  · exact h _ hcolor

end Call

namespace Cell

variable {s : Shape} {a : Address} {call : Call} {calls : List Call} {c c' : Cell} {text : String}
  {color : UInt32}

namespace Becomes

theorem text_eq_of_enters (h : c.Becomes s a call c') (hcall : call.Does a (.enter text)) :
    c'.text = text := by
  cases h with
  | entered _ _ hentered => exact Deed.enter.inj (hcall.unique hentered)
  | painted _ hdeed | listened hdeed | unlistened _ hdeed | saved hdeed => cases hcall.unique hdeed
  | spared _ hspares => exact absurd hcall (hspares _)

theorem color_eq_of_paints (h : c.Becomes s a call c') (hcall : call.Does a (.paint color)) :
    c'.color = color := by
  cases h with
  | painted _ hpainted => exact Deed.paint.inj (hcall.unique hpainted)
  | entered _ _ hdeed | listened hdeed | unlistened _ hdeed | saved hdeed => cases hcall.unique hdeed
  | spared _ hspares => exact absurd hcall (hspares _)

theorem text_eq (h : c.Becomes s a call c') (hcall : ¬ ∃ text, call.Does a (.enter text)) :
    c'.text = c.text := by
  cases h with
  | entered text _ hentered => exact absurd ⟨text, hentered⟩ hcall
  | painted | listened | unlistened | saved | spared => rfl

theorem color_eq (h : c.Becomes s a call c') (hcall : ¬ ∃ color, call.Does a (.paint color)) :
    c'.color = c.color := by
  cases h with
  | painted color hpaints => exact absurd ⟨color, hpaints⟩ hcall
  | entered | listened | unlistened | saved | spared => rfl

theorem changed_iff (h : c.Becomes s a call c') :
    c'.changed = true ↔ call.Marks a ∨ c.changed = true ∧ ¬ call.Does a .save := by
  cases h with
  | entered _ _ hdeed => simp [hdeed.marks_iff, enter]
  | painted _ hdeed => simp [hdeed.marks_iff]
  | listened hdeed => simp [hdeed.marks_iff, hdeed.iff, listen]
  | unlistened _ hdeed => simp [hdeed.marks_iff, hdeed.iff, unlisten]
  | saved hdeed => simp [hdeed.marks_iff, hdeed.iff]
  | spared _ hspares => simp [hspares.not_marks, hspares .save]

end Becomes

/-- The text, the color and the mark of the cell are those that the calls left. -/
structure LastWritten (a : Address) (calls : List Call) (c : Cell) : Prop where
  text_iff : ∀ text,
    Latest (fun call text => call.Does a (.enter text)) "" calls text ↔ text = c.text
  color_iff : ∀ color,
    Latest (fun call color => call.Does a (.paint color)) defaultColor calls color ↔ color = c.color
  changed_iff : c.changed = true ↔ Since (Call.Marks a) (Call.Does a · .save) calls

namespace LastWritten

theorem blank (a : Address) : LastWritten a [] { address := a } where
  text_iff := fun _ => latest_nil
  color_iff := fun _ => latest_nil
  changed_iff := iff_of_false Bool.false_ne_true not_since_nil

theorem concat (h : LastWritten a calls c) (hcall : c.Becomes s a call c') :
    LastWritten a (calls ++ [call]) c' where
  text_iff := by
    intro text
    by_cases henters : ∃ text, call.Does a (.enter text)
    · obtain ⟨entered, hentered⟩ := henters
      rw [hcall.text_eq_of_enters hentered]
      refine latest_concat_of_tells fun other => ?_
      rw [hentered.iff, Deed.enter.injEq]
    · rw [hcall.text_eq henters, latest_concat_of_silent henters, h.text_iff]
  color_iff := by
    intro color
    by_cases hpaints : ∃ color, call.Does a (.paint color)
    · obtain ⟨painted, hpainted⟩ := hpaints
      rw [hcall.color_eq_of_paints hpainted]
      refine latest_concat_of_tells fun other => ?_
      rw [hpainted.iff, Deed.paint.injEq]
    · rw [hcall.color_eq hpaints, latest_concat_of_silent hpaints, h.color_iff]
  changed_iff := by rw [hcall.changed_iff, h.changed_iff, since_concat]

end LastWritten

end Cell

namespace Grid

variable {g : Grid} {a : Address} {c : Cell}

theorem lastWritten_run (s : Shape) (m : Propagation) (ops : List Operation)
    (hc : ((blank s m).run ops).cell? a = some c) :
    c.LastWritten a ((blank s m).history ops) :=
  cell_run_blank hc (.blank a) fun _ _ _ _ h hcall => h.concat hcall

theorem mem_cells_of_cell? (hc : g.cell? a = some c) : c ∈ g.cells.toList := by
  rw [cell?_of_contains (contains_of_cell? hc)] at hc
  rw [← Option.some.inj hc]
  exact Vector.mem_toList_iff.2 (Vector.getElem_mem _)

theorem Sound.mem_changedCells (h : g.Sound) :
    c ∈ g.changedCells ↔ g.cell? c.address = some c ∧ c.changed = true := by
  unfold changedCells
  rw [List.mem_filter]
  exact and_congr_left fun _ => ⟨h.cell?_of_mem, mem_cells_of_cell?⟩

theorem Sound.pairwise_changedCells (h : g.Sound) :
    (g.changedCells.map Cell.address).Pairwise fun a b => compare a b = .lt := by
  have haddresses := g.shape.pairwise_addresses
  rw [← h.map_address_cells] at haddresses
  exact haddresses.sublist (List.filter_sublist.map _)

/-- After every run a cell has the text that was entered for it last, by its address or by a name, and
the color that it was painted last. It is marked just when it was entered or painted after the last
save, and the marked cells are listed row by row. A call touches none of the three for another cell,
whether values follow from it or not; a refused call touches nothing; and who is told of a cell during
a call finds the three as they are at its end. -/
theorem cells_keep_last_writes (s : Shape) (m : Propagation) (ops : List Operation) :
    let g := (blank s m).run ops
    let calls := (blank s m).history ops
    (∀ a, s.Contains a → ∃ c, g.cell? a = some c) ∧
    (∀ a c, g.cell? a = some c →
      (∀ text, Latest (fun call text => call.Does a (.enter text)) "" calls text ↔ text = c.text) ∧
      (∀ color, Latest (fun call color => call.Does a (.paint color)) 0xFFFFFFFF calls color ↔
        color = c.color) ∧
      (c.changed = true ↔ Since (Call.Marks a) (Call.Does a · .save) calls)) ∧
    (∀ c, c ∈ g.changedCells ↔
      g.cell? c.address = some c ∧
        Since (Call.Marks c.address) (Call.Does c.address · .save) calls) ∧
    (g.changedCells.map Cell.address).Pairwise (fun a b => compare a b = .lt) ∧
    ∀ op,
      let t := g.apply op
      let call : Call := ⟨op, t.outcome⟩
      (∀ a c, g.cell? a = some c → ∃ c', t.grid.cell? a = some c' ∧
        ((¬ ∃ text, call.Does a (.enter text)) → c'.text = c.text) ∧
        ((¬ ∃ color, call.Does a (.paint color)) → c'.color = c.color) ∧
        (¬ call.Marks a → ¬ call.Does a .save → c'.changed = c.changed)) ∧
      ∀ seen p, .notified seen p ∈ t.events → ∃ c', t.grid.cell? seen.address = some c' ∧
        seen.text = c'.text ∧ seen.color = c'.color ∧ seen.changed = c'.changed := by
  intro g calls
  have h : g.Sound := sound_run s m ops
  have hshape : g.shape = s := shape_run (blank s m) ops
  have hwritten : ∀ a c, g.cell? a = some c → c.LastWritten a calls :=
    fun a c hc => lastWritten_run s m ops hc
  refine ⟨?_, ?_, ?_, h.pairwise_changedCells, ?_⟩
  · intro a ha
    exact exists_cell (hshape ▸ ha)
  · intro a c hc
    exact ⟨(hwritten a c hc).text_iff, (hwritten a c hc).color_iff, (hwritten a c hc).changed_iff⟩
  · intro c
    rw [h.mem_changedCells]
    exact and_congr_right fun hc => (hwritten _ c hc).changed_iff
  · intro op t call
    constructor
    · intro a c hc
      obtain ⟨c', hc', hbecomes⟩ := exists_becomes hc op
      refine ⟨c', hc', hbecomes.text_eq, hbecomes.color_eq, fun hmarks hsaves => ?_⟩
      rw [Bool.eq_iff_iff, hbecomes.changed_iff, or_iff_right hmarks, and_iff_left hsaves]
    · intro seen p hseen
      have hnotice : (seen, p) ∈ t.events.filterMap Event.notice? :=
        List.mem_filterMap.2 ⟨_, hseen, rfl⟩
      obtain ⟨c', hc', hpictures⟩ := h.exists_pictures op hnotice
      exact ⟨c', hc', hpictures.text_eq, hpictures.color_eq, hpictures.changed_eq⟩

end Grid

end ReactiveGrid
