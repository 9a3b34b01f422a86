import ReactiveGrid.Grid.Recalculation

/-!
# Operations on a grid

The operations that a user of a grid can call, as values, so that a run of them is a list. An
operation that is refused leaves the grid as it is, and nothing happens.
-/

namespace ReactiveGrid

inductive Operation where
  | setText (cell : Address) (text : String)
  | setTextByName (name text : String)
  | setColor (cell : Address) (color : UInt32)
  | listen (cell : Address)
  | unlisten (cell : Address) (listener : Nat)
  | markSaved
deriving DecidableEq

inductive Outcome where
  | done
  | listening (listener : Nat)
  | removed (was : Bool)
deriving DecidableEq

structure Transition where
  outcome : Except Refusal Outcome
  grid : Grid
  events : List Event := []

namespace Transition

def refused (g : Grid) (f : Refusal) : Transition :=
  { outcome := .error f, grid := g }

def ofUpdate (u : Update) : Transition :=
  { outcome := .ok .done, grid := u.grid, events := u.events.toList }

end Transition

namespace Grid

def applyAt (g : Grid) (a : Address) (f : Grid → Transition) : Transition :=
  match g.shape.check a with
  | .error cause => .refused g cause
  | .ok () => f g

def apply (g : Grid) : Operation → Transition
  | .setText a text => g.applyAt a fun g => .ofUpdate (g.assign a text)
  | .setTextByName name text =>
    match Address.ofName name with
    | .error cause => .refused g cause
    | .ok a => g.applyAt a fun g => .ofUpdate (g.assign a text)
  | .setColor a color => g.applyAt a fun g => .ofUpdate (g.paint a color)
  | .listen a =>
    g.applyAt a fun g =>
      let id := g.nextListener a
      { outcome := .ok (.listening id), grid := g.modify a Cell.listen }
  | .unlisten a id =>
    g.applyAt a fun g =>
      let was := g.hasListener a id
      { outcome := .ok (.removed was), grid := g.modify a (·.unlisten id) }
  | .markSaved => { outcome := .ok .done, grid := g.markSaved }

def run (g : Grid) (ops : List Operation) : Grid :=
  ops.foldl (fun g op => (g.apply op).grid) g

end Grid

end ReactiveGrid
