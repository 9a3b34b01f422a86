import ReactiveGrid.Proofs.Script.Play

/-!
# The first refused line

A line that is not skipped is refused when its name part is not the name of a cell of the grid, and this
is decided by the line and the shape of the grid alone. A script is played up to its first refused line,
so the lines behind it do not count.
-/

namespace ReactiveGrid

namespace Script

/-- The line is not skipped, and it is refused to enter the text under the name that it gives. -/
def Refuses (s : Shape) (line : List Char) (name text : String) (cause : Refusal) : Prop :=
  ¬ Skipped line ∧ Assigns line name text ∧ s.Denies (.setTextByName name text) cause

section

variable {s : Shape} {line : List Char} {lines : List (List Char)} {name text : String}
  {cause : Refusal}

theorem Refuses.entry?_eq (h : Refuses s line name text cause) (number : Nat) :
    entry? number line = some ⟨number, name, text⟩ :=
  entry?_eq_some_iff.2 ⟨h.1, rfl, h.2.1⟩

theorem exists_assigns (line : List Char) : ∃ name text, Assigns line name text := by
  by_cases hsplit : '=' ∈ Text.trim line
  · obtain ⟨before, after, htrim, hbefore⟩ := List.eq_append_cons_of_mem hsplit
    exact ⟨_, _, .text before after htrim hbefore⟩
  · exact ⟨_, _, .clear hsplit⟩

theorem exists_refuses_iff : (∃ name text cause, Refuses s line name text cause) ↔
    ¬ Skipped line ∧ ∃ name text, Assigns line name text ∧
      ∀ a, Address.parse name = .ok a → ¬ s.Contains a := by
  simp only [Refuses, exists_and_left, Shape.exists_denies_iff]

theorem legal_line_iff : (Skipped line ∨ ∃ a text, Enters s line a text) ↔
    ∀ name text cause, ¬ Refuses s line name text cause := by
  constructor
  · rintro (hskip | ⟨a, entered, henters⟩) name text cause hrefuses
    · exact hrefuses.1 hskip
    · obtain ⟨name', hentry, hname, ha⟩ := (enters_iff 0).1 henters
      rw [hrefuses.entry?_eq] at hentry
      obtain ⟨-, rfl, rfl⟩ := Entry.mk.inj (Option.some.inj hentry)
      exact Shape.exists_denies_iff.1 ⟨cause, hrefuses.2.2⟩ a hname ha
  · intro h
    by_cases hskip : Skipped line
    · exact Or.inl hskip
    · obtain ⟨name, text, hassigns⟩ := exists_assigns line
      have hname : ¬ ∃ cause, s.Denies (.setTextByName name text) cause :=
        fun ⟨cause, hdenies⟩ => h name text cause ⟨hskip, hassigns, hdenies⟩
      rw [Shape.exists_denies_iff] at hname
      push Not at hname
      obtain ⟨a, hparse, ha⟩ := hname
      exact Or.inr ⟨a, text, hskip, name, hassigns, hparse, ha⟩

theorem not_legal_iff : ¬ Legal s lines ↔ ∃ line ∈ lines, ¬ Skipped line ∧ ∃ name text,
    Assigns line name text ∧ ∀ a, Address.parse name = .ok a → ¬ s.Contains a := by
  unfold Legal
  simp only [legal_line_iff, ← exists_refuses_iff, not_forall, not_not, exists_prop]

theorem exists_first_refused (h : ¬ Legal s lines) : ∃ front line back name text cause,
    lines = front ++ line :: back ∧ Legal s front ∧ Refuses s line name text cause := by
  induction lines with
  | nil => exact absurd (List.forall_mem_nil _) h
  | cons line lines ih =>
    by_cases hline : Skipped line ∨ ∃ a text, Enters s line a text
    · rw [legal_cons, and_iff_right hline] at h
      obtain ⟨front, first, back, name, text, cause, rfl, hfront, hrefuses⟩ := ih h
      exact ⟨line :: front, first, back, name, text, cause, rfl, legal_cons.2 ⟨hline, hfront⟩, hrefuses⟩
    · rw [legal_line_iff] at hline
      push Not at hline
      obtain ⟨name, text, cause, hrefuses⟩ := hline
      exact ⟨[], line, lines, name, text, cause, rfl, List.forall_mem_nil _, hrefuses⟩

end

/-! ### Playing -/

theorem play_append {g : Grid} {events : Array Event} {front : List Entry}
    (h : (play g events front).refused = none) (back : List Entry) :
    play g events (front ++ back) =
      play (play g events front).grid (play g events front).events back := by
  induction front generalizing g events with
  | nil => rfl
  | cons e es ih =>
    rw [play_cons] at h
    rw [List.cons_append, play_cons, play_cons]
    cases houtcome : (g.apply e.operation).outcome with
    | ok =>
      rw [houtcome] at h
      exact ih h
    | error cause =>
      rw [houtcome] at h
      cases h

/-- The first refused line ends the play, with the grid and the events that were there before it. -/
theorem play_of_refuses {g : Grid} {front back : List (List Char)} {line : List Char}
    {name text : String} {cause : Refusal} (hfront : Legal g.shape front)
    (hline : Refuses g.shape line name text cause) :
    play g #[] (numbered 1 (front ++ line :: back)) =
      { play g #[] (numbered 1 front) with
        refused := some (⟨front.length + 1, name, text⟩, cause) } := by
  obtain ⟨hrefused, hgrid⟩ := play_of_admitted #[] (admitted_of_legal hfront 1)
  have hshape : (play g #[] (numbered 1 front)).grid.shape = g.shape := by
    rw [hgrid, Grid.shape_run]
  have happly : (play g #[] (numbered 1 front)).grid.apply (.setTextByName name text) =
      .refused (play g #[] (numbered 1 front)).grid cause :=
    Grid.apply_of_denies (hshape.symm ▸ hline.2.2)
  rw [numbered_append, numbered_cons_of_entry (hline.entry?_eq _), play_append hrefused, play_cons,
    Entry.operation, happly, Nat.add_comm 1]
  rfl

end Script

end ReactiveGrid
