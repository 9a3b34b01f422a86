/-!
# Lines and splits

A text is cut into lines at its newlines. A carriage return before a newline belongs to the line
end, and a newline at the end of the text starts no further line. A split cuts at the first
occurrence of a character only.
-/

namespace ReactiveGrid.Text

def dropReturn (line : List Char) : List Char :=
  match line.getLast? with
  | some '\r' => line.dropLast
  | _ => line

/-- The lines of a text, after the characters of the current line (latest first). -/
def linesFrom (line : List Char) : List Char → List (List Char)
  | [] => if line.isEmpty then [] else [line.reverse]
  | c :: cs => if c = '\n' then dropReturn line.reverse :: linesFrom [] cs else linesFrom (c :: line) cs

def lines (cs : List Char) : List (List Char) :=
  linesFrom [] cs

def splitAtFirst? (c : Char) (cs : List Char) : Option (List Char × List Char) :=
  match cs.dropWhile (· ≠ c) with
  | [] => none
  | _ :: rest => some (cs.takeWhile (· ≠ c), rest)

theorem eq_of_splitAtFirst? {c : Char} {cs before after : List Char}
    (h : splitAtFirst? c cs = some (before, after)) : cs = before ++ c :: after := by
  unfold splitAtFirst? at h
  split at h
  · cases h
  · next x rest hrest =>
    simp only [Option.some.injEq, Prod.mk.injEq] at h
    obtain ⟨rfl, rfl⟩ := h
    have hx := List.head?_dropWhile_not (fun a => decide (a ≠ c)) cs
    rw [hrest] at hx
    have hc : x = c := by simpa using hx
    calc
      cs = cs.takeWhile (· ≠ c) ++ cs.dropWhile (· ≠ c) := List.takeWhile_append_dropWhile.symm
      _ = cs.takeWhile (· ≠ c) ++ c :: rest := by rw [hrest, hc]

end ReactiveGrid.Text
