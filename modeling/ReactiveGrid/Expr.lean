import ReactiveGrid.Operator
import ReactiveGrid.Decimal.Printer

/-!
# Expressions

An expression is a number, a name or an operation on two expressions. Its written form has a pair of
parentheses around every operation, so that it can be read back without knowing how tightly the
operators bind.
-/

namespace ReactiveGrid

inductive Expr where
  | number (value : Float)
  | name (text : String)
  | binary (op : Operator) (left right : Expr)
deriving DecidableEq

namespace Expr

/-- The value of an expression. A name without a value counts as zero. -/
def eval (value? : String → Option Float) : Expr → Float
  | number v => v
  | name s => (value? s).getD 0
  | binary op l r => op.apply (l.eval value?) (r.eval value?)

def text : Expr → String
  | number v => Decimal.render v
  | name s => s
  | binary op l r => "(" ++ l.text ++ " " ++ op.symbol.toString ++ " " ++ r.text ++ ")"

/-- The names at the leaves, from left to right. -/
def occurrences : Expr → List String
  | number _ => []
  | name s => [s]
  | binary _ l r => l.occurrences ++ r.occurrences

/-- Goes on with a list of names by those of an expression, from left to right, that it does not have
yet. -/
def collectNames : Expr → List String → List String
  | number _, found => found
  | name s, found => if found.contains s then found else found ++ [s]
  | binary _ l r, found => r.collectNames (l.collectNames found)

def names (e : Expr) : List String :=
  e.collectNames []

/-- Whether two expressions have the same shape, names and operators, and numbers that compare as
equal: zero equals negative zero, and what is no number equals nothing. -/
def agrees : Expr → Expr → Bool
  | number v, number w => v == w
  | name s, name t => s == t
  | binary o l r, binary p m q => o == p && l.agrees m && r.agrees q
  | _, _ => false

end Expr

end ReactiveGrid
