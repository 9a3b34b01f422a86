import ReactiveGrid.Decimal.Printer
import ReactiveGrid.Operator

/-!
# Tokens

The words of an expression: numbers, names, operators and parentheses, each with its written form.
-/

namespace ReactiveGrid

inductive Token where
  | number (value : Float)
  | name (text : String)
  | operator (op : Operator)
  | opening
  | closing
deriving DecidableEq

namespace Token

def ofSymbol? : Char → Option Token
  | '(' => some opening
  | ')' => some closing
  | c => (Operator.ofSymbol? c).map operator

def text : Token → String
  | number v => Decimal.render v
  | name s => s
  | operator op => op.symbol.toString
  | opening => "("
  | closing => ")"

end Token

end ReactiveGrid
