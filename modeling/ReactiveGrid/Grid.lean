import ReactiveGrid.Dependency.Graph
import ReactiveGrid.Event
import ReactiveGrid.Shape

/-!
# Grids

A grid is a table of cells, row by row, together with the graph of which cell reads which. This
module holds what is done to single cells: looking them up, writing them, and telling their
listeners. What follows from entering a text is in the module on recalculation.
-/

namespace ReactiveGrid

inductive Propagation where
  /-- To every cell that reads the changed one, directly or through others. -/
  | transitive
  | singleHop
deriving DecidableEq, Repr

instance : Inhabited Propagation :=
  ⟨.transitive⟩

structure Grid where
  shape : Shape
  propagation : Propagation
  cells : Vector Cell shape.size
  graph : Dependency.Graph := .empty

namespace Grid

def blank (shape : Shape) (propagation : Propagation) : Grid where
  shape := shape
  propagation := propagation
  cells := Vector.ofFn fun i => { address := shape.addressAt i }

def create (rows columns : Nat) (propagation : Propagation) : Except Refusal Grid :=
  if h : columns ≤ Address.columnLimit then .ok (blank ⟨rows, columns, h⟩ propagation)
  else .error (.tooManyColumns columns)

def cellAt (g : Grid) (a : Address) (h : g.shape.Contains a) : Cell :=
  getElem g.cells (g.shape.index a) (Shape.index_lt h)

def cell? (g : Grid) (a : Address) : Option Cell :=
  if h : g.shape.Contains a then some (g.cellAt a h) else none

def cellByName? (g : Grid) (name : String) : Option Cell :=
  (g.shape.resolve? name).bind g.cell?

/-- The cells whose text or color was set since the grid was last saved. -/
def changedCells (g : Grid) : List Cell :=
  g.cells.toList.filter (·.changed)

def text (g : Grid) (a : Address) : String :=
  ((g.cell? a).map (·.text)).getD ""

def value (g : Grid) (a : Address) : String :=
  ((g.cell? a).map (·.value)).getD ""

def modify (g : Grid) (a : Address) (f : Cell → Cell) : Grid :=
  if h : g.shape.Contains a then
    { g with cells := g.cells.set (g.shape.index a) (f (g.cellAt a h)) (Shape.index_lt h) }
  else g

def markSaved (g : Grid) : Grid :=
  { g with cells := g.cells.map fun c => { c with changed := false } }

/-! ### What each operation does to the cells -/

theorem cell?_of_contains {g : Grid} {a : Address} (h : g.shape.Contains a) :
    g.cell? a = some (g.cellAt a h) :=
  dif_pos h

theorem cell?_isSome {g : Grid} {a : Address} : (g.cell? a).isSome ↔ g.shape.Contains a := by
  unfold cell?
  split <;> simp_all

theorem cell?_blank {s : Shape} {p : Propagation} {a : Address} :
    (blank s p).cell? a = if s.Contains a then some { address := a } else none := by
  unfold cell?
  by_cases h : s.Contains a
  · rw [dif_pos (show (blank s p).shape.Contains a from h), if_pos h]
    simp [cellAt, blank, Shape.addressAt_index h]
  · rw [dif_neg (show ¬ (blank s p).shape.Contains a from h), if_neg h]

@[simp] theorem shape_modify {g : Grid} {a : Address} {f : Cell → Cell} :
    (g.modify a f).shape = g.shape := by
  unfold modify
  split <;> rfl

@[simp] theorem propagation_modify {g : Grid} {a : Address} {f : Cell → Cell} :
    (g.modify a f).propagation = g.propagation := by
  unfold modify
  split <;> rfl

@[simp] theorem graph_modify {g : Grid} {a : Address} {f : Cell → Cell} :
    (g.modify a f).graph = g.graph := by
  unfold modify
  split <;> rfl

/-- Changing a cell changes that cell and no other. -/
theorem cell?_modify {g : Grid} {a b : Address} {f : Cell → Cell} :
    (g.modify a f).cell? b = if a = b then (g.cell? b).map f else g.cell? b := by
  unfold modify
  split
  · next ha =>
    by_cases hb : g.shape.Contains b
    · rw [cell?_of_contains hb]
      unfold cell?
      rw [dif_pos hb]
      by_cases hab : a = b
      · subst hab
        simp [cellAt]
      · have hne : g.shape.index a ≠ g.shape.index b := fun h => hab ((Shape.index_inj ha hb).1 h)
        simp [cellAt, hab, Vector.getElem_set_ne _ _ hne]
    · have hg : g.cell? b = none := dif_neg hb
      rw [hg]
      unfold cell?
      rw [dif_neg hb]
      simp
  · next ha =>
    split
    · next hab =>
      subst hab
      rw [show g.cell? a = none from dif_neg ha]
      rfl
    · rfl

/-- Changing all cells in the same way. -/
theorem cell?_map {g : Grid} {f : Cell → Cell} {a : Address} :
    cell? { g with cells := g.cells.map f } a = (g.cell? a).map f := by
  unfold cell?
  by_cases h : g.shape.Contains a
  · rw [dif_pos h, dif_pos h]
    simp [cellAt]
  · rw [dif_neg h, dif_neg h, Option.map_none]

/-! ### Listeners -/

/-- The number that the next listener of a cell gets. Numbers are counted for each cell. -/
def nextListener (g : Grid) (a : Address) : Nat :=
  ((g.cell? a).map (·.nextListener)).getD 0

def hasListener (g : Grid) (a : Address) (id : Nat) : Bool :=
  (g.cell? a).any (·.hasListener id)

end Grid

structure Update where
  grid : Grid
  events : Array Event := #[]

namespace Update

def modify (u : Update) (a : Address) (f : Cell → Cell) : Update :=
  { u with grid := u.grid.modify a f }

def push (u : Update) (e : Event) : Update :=
  { u with events := u.events.push e }

def notify (u : Update) (a : Address) (p : Property) : Update :=
  match u.grid.cell? a with
  | some c => u.push (.notified c p)
  | none => u

@[simp] theorem grid_push {u : Update} {e : Event} : (u.push e).grid = u.grid := rfl

@[simp] theorem toList_events_push {u : Update} {e : Event} :
    (u.push e).events.toList = u.events.toList ++ [e] := by
  simp [push]

@[simp] theorem grid_notify {u : Update} {a : Address} {p : Property} :
    (u.notify a p).grid = u.grid := by
  unfold notify
  split <;> rfl

end Update

def Grid.paint (g : Grid) (a : Address) (color : UInt32) : Update :=
  let u : Update := { grid := g }
  (u.modify a fun c => { c with color := color, changed := true }).notify a .backgroundColor

end ReactiveGrid
