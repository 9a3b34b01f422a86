import ReactiveGrid.Proofs.Grid.Answers
import ReactiveGrid.Proofs.Grid.Notifications

/-!
# What listeners find during a call

Listeners find a cell as it is when they are told of it. During a call only values and references come
about one after the other; all else of a cell is there from the first notice on, as it is in the end.
-/

namespace ReactiveGrid

/-- The cell, seen before its value and its reference were set. -/
structure Cell.Pictures (c seen : Cell) : Prop where
  text_eq : seen.text = c.text
  color_eq : seen.color = c.color
  changed_eq : seen.changed = c.changed
  listeners_eq : seen.listeners = c.listeners

theorem Cell.Pictures.refl (c : Cell) : c.Pictures c :=
  ⟨rfl, rfl, rfl, rfl⟩

namespace Grid

variable {g : Grid} {a d : Address} {text : String} {p : Property} {n : Cell × Property}

theorem mem_notices : n ∈ g.notices p d ↔ ∃ c, g.cell? d = some c ∧ n = (c, p) := by
  unfold notices
  rw [Option.mem_toList, Option.map_eq_some_iff]
  simp only [eq_comm]

theorem exists_pictures_entered {seen : Cell} (hseen : (g.entered a text).cell? d = some seen) :
    ∃ c, (g.assign a text).grid.cell? d = some c ∧ c.Pictures seen := by
  rw [entered, cell?_modify] at hseen
  rw [cell?_assign, cell?_rebound]
  split at hseen
  · next had =>
    obtain ⟨before, hbefore, rfl⟩ := Option.map_eq_some_iff.1 hseen
    rw [if_pos had, hbefore]
    exact ⟨_, rfl, ⟨rfl, rfl, rfl, rfl⟩⟩
  · next had =>
    rw [if_neg had, hseen]
    exact ⟨_, rfl, ⟨rfl, rfl, rfl, rfl⟩⟩

theorem Sound.exists_pictures_assign (h : g.Sound) (hn : n ∈ (g.assign a text).notices) :
    ∃ c, (g.assign a text).grid.cell? n.1.address = some c ∧ c.Pictures n.1 := by
  rw [notices_assign] at hn
  obtain ⟨d, -, hn⟩ := List.mem_flatMap.1 hn
  rcases List.mem_append.1 hn with hn | hn
  · obtain ⟨seen, hseen, rfl⟩ := mem_notices.1 hn
    rw [h.address_entered hseen]
    exact exists_pictures_entered hseen
  · obtain ⟨seen, hseen, rfl⟩ := mem_notices.1 hn
    refine ⟨seen, ?_, .refl seen⟩
    rwa [((h.assign a text).cells d seen hseen).address_eq]

theorem notices_paint (g : Grid) (a : Address) (color : UInt32) :
    (g.paint a color).notices = (g.paint a color).grid.notices .backgroundColor a := by
  have hevents : (g.paint a color).events.toList = (g.paint a color).grid.told .backgroundColor a := by
    rw [grid_paint]
    exact Update.events_notify _ _ _
  rw [Update.notices, hevents, notices_told]

theorem Sound.exists_pictures (h : g.Sound) (op : Operation)
    (hn : n ∈ (g.apply op).events.filterMap Event.notice?) :
    ∃ c, (g.apply op).grid.cell? n.1.address = some c ∧ c.Pictures n.1 := by
  have hanswers := g.answers_apply op
  generalize g.apply op = t at hanswers hn ⊢
  cases hanswers with
  | refused => cases hn
  | entered _ a text =>
    rw [Transition.events_ofUpdate, ← Update.notices] at hn
    rw [Transition.grid_ofUpdate]
    exact h.exists_pictures_assign hn
  | painted a color =>
    have hsound : (g.paint a color).grid.Sound := by
      rw [grid_paint]
      exact h.modify a (fun _ => rfl) fun _ hc => hc.withColor color true
    rw [Transition.events_ofUpdate, ← Update.notices, notices_paint] at hn
    obtain ⟨seen, hseen, rfl⟩ := mem_notices.1 hn
    rw [Transition.grid_ofUpdate, (hsound.cells a seen hseen).address_eq]
    exact ⟨seen, hseen, .refl seen⟩
  | listened => cases hn
  | unlistened => cases hn
  | saved => cases hn

end Grid

end ReactiveGrid
