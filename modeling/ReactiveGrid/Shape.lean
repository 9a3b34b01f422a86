import ReactiveGrid.Refusal

/-!
# The shape of a grid

A grid has some rows and at most as many columns as there are letters. Its cells are numbered row by
row. A text that starts with an equals sign is a formula; it refers to a cell if the rest of it is
the name of an address inside the grid.
-/

namespace ReactiveGrid

structure Shape where
  rows : Nat := 50
  columns : Nat := Address.columnLimit
  columns_le : columns ≤ Address.columnLimit := by decide
deriving DecidableEq

def formulaMarker : Char := '='

/-- What follows the marker of a formula; other texts are no formula. -/
def formula? (text : String) : Option String :=
  match text.toList with
  | [] => none
  | c :: rest => if c = formulaMarker then some (String.ofList rest) else none

namespace Shape

def size (s : Shape) : Nat :=
  s.rows * s.columns

def Contains (s : Shape) (a : Address) : Prop :=
  a.row < s.rows ∧ a.column < s.columns

instance (s : Shape) (a : Address) : Decidable (s.Contains a) :=
  inferInstanceAs (Decidable (_ ∧ _))

def index (s : Shape) (a : Address) : Nat :=
  a.row * s.columns + a.column

def addressAt (s : Shape) (i : Nat) : Address :=
  ⟨i / s.columns, i % s.columns⟩

theorem index_lt {s : Shape} {a : Address} (h : s.Contains a) : s.index a < s.size := by
  obtain ⟨hr, hc⟩ := h
  calc
    a.row * s.columns + a.column < a.row * s.columns + s.columns := by omega
    _ = (a.row + 1) * s.columns := (Nat.succ_mul ..).symm
    _ ≤ s.rows * s.columns := Nat.mul_le_mul_right _ hr

theorem addressAt_mul_add {s : Shape} {row column : Nat} (h : column < s.columns) :
    s.addressAt (row * s.columns + column) = ⟨row, column⟩ := by
  unfold addressAt
  rw [Nat.mul_comm, Nat.mul_add_div (by omega), Nat.div_eq_of_lt h, Nat.mul_add_mod,
    Nat.mod_eq_of_lt h]
  rfl

theorem addressAt_index {s : Shape} {a : Address} (h : s.Contains a) :
    s.addressAt (s.index a) = a :=
  addressAt_mul_add h.2

theorem index_addressAt {s : Shape} (i : Nat) : s.index (s.addressAt i) = i := by
  unfold addressAt index
  rw [Nat.mul_comm]
  exact Nat.div_add_mod i s.columns

theorem contains_addressAt {s : Shape} {i : Nat} (h : i < s.size) :
    s.Contains (s.addressAt i) := by
  unfold size at h
  have hpos : 0 < s.columns := Nat.pos_of_lt_mul_left h
  exact ⟨Nat.div_lt_of_lt_mul (by rwa [Nat.mul_comm]), Nat.mod_lt _ hpos⟩

theorem index_inj {s : Shape} {a b : Address} (ha : s.Contains a) (hb : s.Contains b) :
    s.index a = s.index b ↔ a = b := by
  constructor
  · intro h
    rw [← addressAt_index ha, h, addressAt_index hb]
  · intro h
    rw [h]

/-- Refuses an address outside, for its row first. -/
def check (s : Shape) (a : Address) : Except Refusal Unit :=
  if s.rows ≤ a.row then .error (.rowOutside a.row (s.rows - 1))
  else if s.columns ≤ a.column then .error (.columnOutside a.column (s.columns - 1))
  else .ok ()

theorem check_eq_ok_iff {s : Shape} {a : Address} : s.check a = .ok () ↔ s.Contains a := by
  unfold check Contains
  split
  · simp only [reduceCtorEq, false_iff]; omega
  · split
    · simp only [reduceCtorEq, false_iff]; omega
    · simp only [true_iff]; omega

def resolve? (s : Shape) (name : String) : Option Address :=
  match Address.parse name with
  | .ok a => if s.Contains a then some a else none
  | .error _ => none

def target? (s : Shape) (text : String) : Option Address :=
  (formula? text).bind s.resolve?

end Shape

end ReactiveGrid
