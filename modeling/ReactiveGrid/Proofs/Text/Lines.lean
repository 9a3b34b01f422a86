import Mathlib.Data.List.TakeWhile
import ReactiveGrid.Text.Blank
import ReactiveGrid.Text.Lines

/-!
# Lines up to blank ends

A split cuts exactly at the first occurrence. The lines of a text are the pieces between its newlines,
up to carriage returns and to an empty last piece, and neither counts once lines are trimmed.
-/

namespace ReactiveGrid.Text

/-! ### Splits -/

theorem splitAtFirst?_eq_some_iff {c : Char} {cs before after : List Char} :
    splitAtFirst? c cs = some (before, after) ↔ cs = before ++ c :: after ∧ c ∉ before := by
  constructor
  · intro h
    refine ⟨eq_of_splitAtFirst? h, fun hc => ?_⟩
    unfold splitAtFirst? at h
    split at h
    · cases h
    · obtain ⟨rfl, -⟩ := Prod.mk.inj (Option.some.inj h)
      simpa using List.mem_takeWhile_imp hc
  · rintro ⟨rfl, hc⟩
    have hbefore : ∀ a ∈ before, decide (a ≠ c) = true := fun a ha =>
      decide_eq_true fun heq => hc (heq ▸ ha)
    unfold splitAtFirst?
    rw [List.dropWhile_append_of_pos hbefore, List.takeWhile_append_of_pos hbefore]
    simp

theorem splitAtFirst?_eq_none_iff {c : Char} {cs : List Char} :
    splitAtFirst? c cs = none ↔ c ∉ cs := by
  constructor
  · intro h hc
    obtain ⟨before, after, rfl, hbefore⟩ := List.eq_append_cons_of_mem hc
    rw [splitAtFirst?_eq_some_iff.2 ⟨rfl, hbefore⟩] at h
    cases h
  · intro hc
    cases h : splitAtFirst? c cs with
    | none => rfl
    | some parts =>
      obtain ⟨rfl, -⟩ := splitAtFirst?_eq_some_iff.1 (h.trans (congrArg some parts.eta.symm))
      exact absurd (List.mem_append_right _ (List.mem_cons_self ..)) hc

/-! ### Trimmed lines -/

theorem trim_append_blank {c : Char} (hc : isBlank c = true) (cs : List Char) :
    trim (cs ++ [c]) = trim cs := by
  unfold trim trimStart
  rw [List.dropWhile_append]
  split
  · next hcs =>
    rw [List.isEmpty_iff.1 hcs]
    simp [hc]
  · unfold trimEnd
    rw [List.reverse_append, List.reverse_singleton, List.singleton_append,
      List.dropWhile_cons_of_pos hc]

theorem trim_dropReturn (line : List Char) : trim (dropReturn line) = trim line := by
  unfold dropReturn
  split
  · next h =>
    obtain ⟨front, rfl⟩ := List.getLast?_eq_some_iff.1 h
    rw [List.dropLast_concat]
    exact (trim_append_blank (by decide) front).symm
  · rfl

theorem modifyHead_nil_append (pieces : List (List Char)) :
    pieces.modifyHead (([] : List Char).reverse ++ ·) = pieces :=
  congrFun List.modifyHead_id pieces

theorem map_trim_splitOn_modifyHead (line cs : List Char) :
    let pieces := (cs.splitOn '\n').modifyHead (line.reverse ++ ·)
    pieces.map trim = (linesFrom line cs).map trim ∨
      pieces.map trim = (linesFrom line cs).map trim ++ [[]] := by
  induction cs generalizing line with
  | nil =>
    cases line with
    | nil => exact Or.inr rfl
    | cons c cs => exact Or.inl (by simp [linesFrom])
  | cons c cs ih =>
    intro pieces
    by_cases hc : c = '\n'
    · have hpieces : pieces = line.reverse :: cs.splitOn '\n' := by
        simp [pieces, List.splitOn_cons_eq_if_modifyHead, hc]
      have hlines : linesFrom line (c :: cs) = dropReturn line.reverse :: linesFrom [] cs := by
        rw [linesFrom, if_pos hc]
      rw [hpieces, hlines, List.map_cons, List.map_cons, trim_dropReturn, List.cons_append,
        List.cons_inj_right, List.cons_inj_right, ← modifyHead_nil_append (cs.splitOn '\n')]
      exact ih []
    · have hpieces : pieces = (cs.splitOn '\n').modifyHead ((c :: line).reverse ++ ·) := by
        simp [pieces, List.splitOn_cons_eq_if_modifyHead, hc, List.modifyHead_modifyHead,
          Function.comp_def]
      have hlines : linesFrom line (c :: cs) = linesFrom (c :: line) cs := by
        rw [linesFrom, if_neg hc]
      rw [hpieces, hlines]
      exact ih (c :: line)

/-- Behind the last newline there may be one more piece, which is no line. -/
theorem map_trim_splitOn (cs : List Char) :
    (cs.splitOn '\n').map trim = (lines cs).map trim ∨
      (cs.splitOn '\n').map trim = (lines cs).map trim ++ [[]] := by
  rw [← modifyHead_nil_append (cs.splitOn '\n')]
  exact map_trim_splitOn_modifyHead [] cs

end ReactiveGrid.Text
