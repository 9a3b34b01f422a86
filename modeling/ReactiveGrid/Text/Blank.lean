/-!
# Classes of characters, and the blank ones

A class of characters is a list of closed ranges of code points, ascending and apart. Membership looks
at the first range that does not end before the code point.

The class here is the Unicode property White_Space, version 17.0: the 25 characters that separate
tokens and that are trimmed from both ends of a name, a text or a number.
-/

namespace ReactiveGrid.Text

/-- Whether a code point lies in one of the ranges, which ascend. -/
def inRanges (ranges : List (Nat × Nat)) (n : Nat) : Bool :=
  match ranges.find? (fun r => decide (n ≤ r.2)) with
  | some r => decide (r.1 ≤ n)
  | none => false

theorem exists_range_of_inRanges {ranges : List (Nat × Nat)} {n : Nat}
    (h : inRanges ranges n = true) : ∃ r ∈ ranges, r.1 ≤ n ∧ n ≤ r.2 := by
  unfold inRanges at h
  split at h
  · next r hr =>
    exact ⟨r, List.mem_of_find?_eq_some hr, of_decide_eq_true h,
      of_decide_eq_true (List.find?_some (p := fun r : Nat × Nat => decide (n ≤ r.2)) hr)⟩
  · cases h

/-! ### Blanks -/

/-- The code points with the property White_Space, ascending. -/
def blankRanges : List (Nat × Nat) :=
  [(0x9, 0xD), (0x20, 0x20), (0x85, 0x85), (0xA0, 0xA0), (0x1680, 0x1680), (0x2000, 0x200A),
   (0x2028, 0x2029), (0x202F, 0x202F), (0x205F, 0x205F), (0x3000, 0x3000)]

def isBlank (c : Char) : Bool :=
  inRanges blankRanges c.toNat

def trimStart (cs : List Char) : List Char :=
  cs.dropWhile isBlank

def trimEnd (cs : List Char) : List Char :=
  (cs.reverse.dropWhile isBlank).reverse

def trim (cs : List Char) : List Char :=
  trimEnd (trimStart cs)

end ReactiveGrid.Text
