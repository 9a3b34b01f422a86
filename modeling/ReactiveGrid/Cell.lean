import ReactiveGrid.Address
import ReactiveGrid.Text.Quoted

/-!
# Cells

A cell has the text that was entered, the value that it shows, a background color, and listeners
that are told when one of these is set. It never decides itself what its text means.
-/

namespace ReactiveGrid

inductive Property where
  | text
  | value
  | backgroundColor
deriving DecidableEq, Repr

def Property.name : Property → String
  | text => "Text"
  | value => "Value"
  | backgroundColor => "BackgroundColor"

/-- The color of a new cell: opaque white, as alpha, red, green and blue in one word. -/
def defaultColor : UInt32 := 0xFFFFFFFF

structure Cell where
  address : Address
  text : String := ""
  value : String := ""
  color : UInt32 := defaultColor
  /-- Whether the text or the color was set since the grid was last saved. -/
  changed : Bool := false
  reference : Option Address := none
  /-- The numbers of the listeners, in the order of their registration. -/
  listeners : List Nat := []
  /-- How many listeners were registered so far, which is the number of the next one. A counter of 64
  bits is this number as long as they are fewer than `2 ^ 64`. -/
  nextListener : Nat := 0
deriving DecidableEq

namespace Cell

def name (c : Cell) : String :=
  c.address.name

def referencedNames (c : Cell) : List String :=
  c.reference.toList.map Address.name

def listen (c : Cell) : Cell :=
  { c with listeners := c.listeners ++ [c.nextListener], nextListener := c.nextListener + 1 }

def unlisten (c : Cell) (id : Nat) : Cell :=
  { c with listeners := c.listeners.filter (· ≠ id) }

/-- Whether fewer listeners are left when those with a number are taken away. -/
def hasListener (c : Cell) (id : Nat) : Bool :=
  (c.unlisten id).listeners.length != c.listeners.length

theorem hasListener_eq_contains (c : Cell) (id : Nat) :
    c.hasListener id = c.listeners.contains id := by
  rw [Bool.eq_iff_iff, List.contains_iff_mem]
  unfold hasListener unlisten
  rw [bne_iff_ne, ne_eq, List.length_filter_eq_length_iff]
  simp

/-! ### Description -/

def colorText (color : UInt32) : String :=
  let digits := (Nat.toDigits 16 color.toNat).map Char.toUpper
  String.ofList ('0' :: 'x' :: (List.replicate (8 - digits.length) '0' ++ digits))

def braced (parts : String) : String :=
  "\x7b" ++ parts ++ "\x7d"

def describe (c : Cell) : String :=
  "Cell " ++ braced (
    " address: CellAddress " ++ braced s!" row: {c.address.row}, col: {c.address.column} "
      ++ ", text: " ++ Text.quote c.text
      ++ ", value: " ++ Text.quote c.value
      ++ ", background_color: " ++ colorText c.color
      ++ ", has_changed: " ++ (if c.changed then "true" else "false")
      ++ ", referenced_cell_names: "
      ++ braced (", ".intercalate (c.referencedNames.map Text.quote))
      ++ s!", listeners: {c.listeners.length} ")

end Cell

end ReactiveGrid
