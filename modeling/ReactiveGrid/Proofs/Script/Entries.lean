import ReactiveGrid.Proofs.Script.Meaning

/-!
# From lines to entries

The entries of a script are read off its lines one by one, and each keeps the number of its line. Apart
from the number, an entry is decided by its line alone.
-/

namespace ReactiveGrid.Script

/-- The entries of the lines, of which the first has the given number. -/
def numbered (number : Nat) (lines : List (List Char)) : List Entry :=
  (lines.zipIdx number).filterMap fun p => entry? p.2 p.1

section

variable {number : Nat} {line : List Char} {lines lines' front back : List (List Char)} {e : Entry}

theorem numbered_cons_of_skipped (h : Skipped line) :
    numbered number (line :: lines) = numbered (number + 1) lines :=
  List.filterMap_cons_none (entry?_eq_none_iff.2 h)

theorem numbered_cons_of_entry (h : entry? number line = some e) :
    numbered number (line :: lines) = e :: numbered (number + 1) lines :=
  List.filterMap_cons_some h

theorem numbered_append :
    numbered number (front ++ back) =
      numbered number front ++ numbered (number + front.length) back := by
  unfold numbered
  rw [List.zipIdx_append, List.filterMap_append]

theorem exists_entry?_of_mem_numbered (h : e ∈ numbered number lines) :
    ∃ n, ∃ line ∈ lines, entry? n line = some e := by
  obtain ⟨⟨line, n⟩, hmem, hline⟩ := List.mem_filterMap.1 h
  exact ⟨n, line, List.fst_mem_of_mem_zipIdx hmem, hline⟩

theorem numbered_congr (h : lines.map Text.trim = lines'.map Text.trim) :
    numbered number lines = numbered number lines' := by
  induction lines generalizing number lines' with
  | nil =>
    rw [List.map_nil, eq_comm, List.map_eq_nil_iff] at h
    rw [h]
  | cons line lines ih =>
    obtain ⟨line', rest, rfl, hline, hlines⟩ := List.map_eq_cons_iff.1 h.symm
    have hentry : entry? number line = entry? number line' := entry?_of_trim_eq hline.symm
    unfold numbered at ih ⊢
    rw [List.zipIdx_cons, List.zipIdx_cons, List.filterMap_cons, List.filterMap_cons, hentry,
      ih hlines.symm]

end

theorem entries_eq_numbered (source : String) : entries source = numbered 1 (linesOf source) := by
  have hblank : Skipped [] := Or.inl rfl
  change numbered 1 (Text.lines source.toList) = _
  rcases Text.map_trim_splitOn source.toList with h | h
  · exact numbered_congr h.symm
  · -- The piece behind the last newline is blank, and so it has no entry.
    have hpiece : (linesOf source).map Text.trim =
        (Text.lines source.toList ++ [[]]).map Text.trim := by
      rw [List.map_append]
      exact h
    rw [numbered_congr hpiece, numbered_append, numbered_cons_of_skipped hblank]
    exact (List.append_nil _).symm

/-! ### Operations -/

def operation? (line : List Char) : Option Operation :=
  Option.map Entry.operation <| entry? 0 line

theorem map_operation_eq (number : Nat) (line : List Char) :
    (Option.map Entry.operation <| entry? number line) = operation? line := by
  unfold operation?
  by_cases hskip : Skipped line
  · rw [entry?_eq_none_iff.2 hskip, entry?_eq_none_iff.2 hskip]
  · rw [entry?_of_not_skipped hskip, entry?_of_not_skipped hskip]
    split <;> rfl

theorem map_operation_entries (source : String) :
    (entries source).map Entry.operation = (linesOf source).filterMap operation? := by
  rw [entries_eq_numbered, numbered, List.map_filterMap]
  simp only [map_operation_eq]
  change ((linesOf source).zipIdx 1).filterMap (operation? ∘ Prod.fst) = _
  rw [← List.filterMap_map, List.zipIdx_map_fst]

section

variable {s : Shape} {line : List Char} {a : Address} {text : String}

theorem operation?_of_skipped (h : Skipped line) : operation? line = none := by
  unfold operation?
  rw [entry?_eq_none_iff.2 h, Option.map_none]

theorem Enters.operation?_eq (h : Enters s line a text) :
    ∃ name, operation? line = some (.setTextByName name text) ∧ Address.parse name = .ok a := by
  obtain ⟨name, hentry, hname, -⟩ := (enters_iff 0).1 h
  refine ⟨name, ?_, hname⟩
  unfold operation?
  rw [hentry]
  rfl

end

end ReactiveGrid.Script
