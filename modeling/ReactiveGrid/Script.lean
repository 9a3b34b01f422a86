import ReactiveGrid.Grid.Operation
import ReactiveGrid.Text.Blank
import ReactiveGrid.Text.Lines

/-!
# Scripts

A script enters texts into a grid. Each line names a cell, and after the first equals sign gives the
text to enter; without an equals sign the cell is cleared. Blank lines and lines that start with a
number sign are skipped. Lines are counted from one, skipped ones included.
-/

namespace ReactiveGrid.Script

structure Entry where
  line : Nat
  name : String
  text : String
deriving DecidableEq

def entry? (number : Nat) (line : List Char) : Option Entry :=
  match Text.trim line with
  | [] => none
  | '#' :: _ => none
  | trimmed =>
    match Text.splitAtFirst? '=' trimmed with
    | some (name, text) =>
      some ⟨number, String.ofList (Text.trim name), String.ofList (Text.trim text)⟩
    | none => some ⟨number, String.ofList trimmed, ""⟩

def entries (source : String) : List Entry :=
  ((Text.lines source.toList).zipIdx 1).filterMap fun p => entry? p.2 p.1

structure Played where
  grid : Grid
  events : Array Event
  /-- The entry that was refused, if any; the entries after it are not played. -/
  refused : Option (Entry × Refusal) := none

def Entry.operation (e : Entry) : Operation :=
  .setTextByName e.name e.text

def play (grid : Grid) (events : Array Event) : List Entry → Played
  | [] => { grid := grid, events := events }
  | e :: es =>
    match grid.apply e.operation with
    | { outcome := .ok _, grid, events := new } => play grid (events ++ new) es
    | { outcome := .error cause, grid, .. } =>
      { grid := grid, events := events, refused := some (e, cause) }

end ReactiveGrid.Script
