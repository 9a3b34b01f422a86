import Std.Data.ExtTreeMap
import Std.Data.ExtTreeSet

/-!
# Cell addresses

An address is a row and a column, both counted from zero. Its written form is the letter of the
column followed by the row counted from one, such as `B5`. A column past the last letter is written
in full, as in `R5C30`; no address is read from that form.
-/

namespace ReactiveGrid

structure Address where
  row : Nat
  column : Nat
deriving DecidableEq, Repr

namespace Address

def columnLimit : Nat := 26

def maxRowNumber : Nat := UInt32.size - 1

/-! ### Order -/

instance : Ord Address :=
  ⟨compareLex (compareOn row) (compareOn column)⟩

instance : Std.TransOrd Address :=
  inferInstanceAs (Std.TransCmp (compareLex (compareOn row) (compareOn column)))

theorem eq_of_compare_eq {a b : Address} (h : compare a b = .eq) : a = b := by
  have h' : (compareOn row a b).then (compareOn column a b) = .eq := h
  rw [Ordering.then_eq_eq] at h'
  obtain ⟨hr, hc⟩ := h'
  have hr' : a.row = b.row := Nat.compare_eq_eq.1 hr
  have hc' : a.column = b.column := Nat.compare_eq_eq.1 hc
  cases a; cases b; simp_all

instance : Std.LawfulEqOrd Address :=
  ⟨eq_of_compare_eq⟩

theorem compare_eq_lt_iff {a b : Address} :
    compare a b = .lt ↔ a.row < b.row ∨ a.row = b.row ∧ a.column < b.column := by
  have h : compare a b = (compare a.row b.row).then (compare a.column b.column) := rfl
  rw [h, Ordering.then_eq_lt, Nat.compare_eq_lt, Nat.compare_eq_eq, Nat.compare_eq_lt]

/-- Cells that stand by rows, and by columns within a row, are all different. -/
theorem nodup_of_pairwise {cells : List Address}
    (h : cells.Pairwise fun a b => compare a b = .lt) : cells.Nodup := by
  refine h.imp fun {a b} hlt heq => ?_
  have hself : compare b b = .eq := Std.ReflCmp.compare_self
  rw [heq, hself] at hlt
  cases hlt

/-! ### Columns and their letters -/

def letter? (column : Nat) : Option Char :=
  if column < columnLimit then some (Char.ofNat ('A'.toNat + column)) else none

def column? (letter : Char) : Option Nat :=
  if letter.isUpper then some (letter.toNat - 'A'.toNat) else none

/-! ### Written form -/

def name (a : Address) : String :=
  match letter? a.column with
  | some letter => String.ofList (letter :: Nat.toDigits 10 (a.row + 1))
  | none => s!"R{a.row + 1}C{a.column + 1}"

inductive Malformed where
  | empty
  | noColumn (letter : Char) (text : String)
  | noRow (text : String)
  | badRow (text : String)
  | rowZero (text : String)
  | noLetter (letter : Char)
deriving DecidableEq

def Malformed.message : Malformed → String
  | .empty => "empty address"
  | .noColumn letter text => s!"invalid column letter '{letter}' in '{text}'"
  | .noRow text => s!"no row number in '{text}'"
  | .badRow text => s!"invalid row number in '{text}'"
  | .rowZero text => s!"row number must be >= 1 in '{text}'"
  | .noLetter letter => s!"invalid column letter '{letter}'"

def rowOfDigits (text : String) (digits : List Char) : Except Malformed Nat :=
  if digits.isEmpty then .error (.noRow text)
  else if digits.all Char.isDigit then
    match Nat.ofDigitChars 10 digits 0 with
    | 0 => .error (.rowZero text)
    | row + 1 => if row < maxRowNumber then .ok row else .error (.badRow text)
  else .error (.badRow text)

def parse (s : String) : Except Malformed Address :=
  match s.toList with
  | [] => .error .empty
  | letter :: digits =>
    match column? letter with
    | none => .error (.noColumn letter s)
    | some column => (rowOfDigits s digits).map fun row => ⟨row, column⟩

end Address

end ReactiveGrid
