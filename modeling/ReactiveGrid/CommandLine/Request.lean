import ReactiveGrid.CommandLine.Assignment
import ReactiveGrid.Grid

/-!
# Requests

What the arguments ask for: to evaluate an expression, to list its tokens, to play a script on a
grid, or to tell the version or the usage. Arguments that ask for nothing are misused, or one of them
is no assignment where there has to be one.
-/

namespace ReactiveGrid.CommandLine

structure SheetSettings where
  /-- The file that holds the script; without one it is read from standard input. -/
  script : Option String := none
  rows : Nat := 50
  columns : Nat := Address.columnLimit
  propagation : Propagation := .transitive
  trace : Bool := false
deriving DecidableEq

inductive Request where
  | eval (expression : String) (assignments : List Assignment)
  | tokens (expression : String)
  | sheet (settings : SheetSettings)
  | version
  | help
deriving DecidableEq

inductive UsageError where
  | misuse
  | assignment (cause : Assignment.Fault)
deriving DecidableEq

end ReactiveGrid.CommandLine
