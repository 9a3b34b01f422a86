import Std.Data.ExtTreeMap
import ReactiveGrid.Expr.Parser

/-!
# Formulas

A formula is an expression together with a table of the values of its names. It may also lack an
expression; then it has no value. The table is kept in the order of the names.
-/

namespace ReactiveGrid

structure Formula where
  root : Option Expr := none
  table : Std.ExtTreeMap String Float := ∅

namespace Formula

def parse (s : String) : Except Expr.Fault Formula :=
  (Expr.parse s).map fun e => { root := some e }

def value? (f : Formula) (name : String) : Option Float :=
  f.table[name]?

def set (f : Formula) (name : String) (value : Float) : Formula :=
  { f with table := f.table.insert name value }

def eval (f : Formula) : Except Expr.Fault Float :=
  match f.root with
  | some e => .ok (e.eval f.value?)
  | none => .error .notBuilt

def names (f : Formula) : List String :=
  (f.root.map Expr.names).getD []

end Formula

end ReactiveGrid
