import ReactiveGrid.Address

/-!
# Refusals

The causes for which an address is no address, or for which a grid is not made or not changed, and
the wording of each.
-/

namespace ReactiveGrid

/-- The cause for which an address, a grid or an operation on it is refused. -/
inductive Refusal where
  | invalidAddress (cause : Address.Malformed)
  | rowOutside (row last : Nat)
  | columnOutside (column last : Nat)
  | tooManyColumns (columns : Nat)
deriving DecidableEq

def Refusal.message : Refusal → String
  | .invalidAddress cause => "Invalid cell address: " ++ cause.message
  | .rowOutside row last => s!"Row index {row} out of bounds (max: {last})"
  | .columnOutside column last => s!"Column index {column} out of bounds (max: {last})"
  | .tooManyColumns columns => s!"Grid cannot have {columns} columns (max: {Address.columnLimit})"

namespace Address

def letterOf (column : Nat) : Except Refusal Char :=
  match letter? column with
  | some letter => .ok letter
  | none => .error (.columnOutside column (columnLimit - 1))

def columnOf (letter : Char) : Except Refusal Nat :=
  match column? letter with
  | some column => .ok column
  | none => .error (.invalidAddress (.noLetter letter))

def ofName (name : String) : Except Refusal Address :=
  (parse name).mapError .invalidAddress

theorem ofName_of_parse_eq_ok {name : String} {a : Address} (h : parse name = .ok a) :
    ofName name = .ok a := by
  unfold ofName
  rw [h]
  rfl

theorem ofName_of_parse_eq_error {name : String} {cause : Malformed}
    (h : parse name = .error cause) : ofName name = .error (.invalidAddress cause) := by
  unfold ofName
  rw [h]
  rfl

end Address

end ReactiveGrid
