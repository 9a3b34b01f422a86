/-!
# Arithmetic operators

The four binary operators, their symbols, how tightly they bind and what they compute. Division
follows the arithmetic of doubles: dividing by zero gives an infinity or no number, never a failure.
-/

namespace ReactiveGrid

inductive Operator where
  | add
  | subtract
  | multiply
  | divide
deriving DecidableEq, Repr

namespace Operator

def symbol : Operator → Char
  | add => '+'
  | subtract => '-'
  | multiply => '*'
  | divide => '/'

def ofSymbol? : Char → Option Operator
  | '+' => some add
  | '-' => some subtract
  | '*' => some multiply
  | '/' => some divide
  | _ => none

def precedence : Operator → Nat
  | add | subtract => 1
  | multiply | divide => 2

def apply : Operator → Float → Float → Float
  | add, x, y => x + y
  | subtract, x, y => x - y
  | multiply, x, y => x * y
  | divide, x, y => x / y

end Operator

end ReactiveGrid
