import ReactiveGrid.Cell
import ReactiveGrid.Log

/-!
# Events

Every operation on a grid tells what happened, in order. There are two views of an event: the record
that is logged, and the deliveries to the listeners of a cell, of which only a notification has any.
-/

namespace ReactiveGrid

inductive Event where
  /-- A property of a cell was set, or has to be shown again. The cell is as listeners find it. -/
  | notified (cell : Cell) (property : Property)
  | circular (cell : Address) (formula : String)
  /-- A cell whose formula refers to no cell shows its raw text. -/
  | unresolved (cell : Address) (formula : String)
  /-- The value of a cell was computed; it is about to be stored. -/
  | recomputed (cell : Address) (value : String)
  | bound (name : String) (value : Float)
deriving DecidableEq

structure Delivery where
  listener : Nat
  cell : Cell
  property : Property
deriving DecidableEq

namespace Event

def record : Event → Log.Record
  | notified cell property =>
    { level := .trace, target := "gridcalc_core::cell", message := "cell changed"
      fields := [("cell", .plain cell.name), ("property", .plain property.name)] }
  | circular cell formula =>
    { level := .warn, target := "gridcalc_core::grid"
      message := "circular reference, showing raw text"
      fields := [("cell", .plain cell.name), ("formula", .quoted formula)] }
  | unresolved cell formula =>
    { level := .debug, target := "gridcalc_core::grid"
      message := "unresolved reference, showing raw text"
      fields := [("cell", .plain cell.name), ("formula", .quoted formula)] }
  | recomputed cell value =>
    { level := .debug, target := "gridcalc_core::grid", message := "recomputed"
      fields := [("cell", .plain cell.name), ("value", .plain value)] }
  | bound name value =>
    { level := .debug, target := "gridcalc::calculation", message := "bound cell variable"
      fields := [("variable", .plain name), ("value", .number value)] }

/-- The calls of listeners, in the order of their registration. While they run, the list of
listeners is set aside. -/
def deliveries : Event → List Delivery
  | notified cell property => cell.listeners.map (⟨·, { cell with listeners := [] }, property⟩)
  | _ => []

end Event

end ReactiveGrid
