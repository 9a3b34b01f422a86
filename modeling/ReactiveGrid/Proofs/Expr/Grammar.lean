import Mathlib.Data.List.Basic
import ReactiveGrid.Expr.Parser

/-!
# The grammar of expressions

A sum is a product, or a sum, a plus or minus, and a product; a product is an operand, or a product,
a times or divide, and an operand; an operand is a number, a name or a sum in parentheses. Both left
recursions group operators of equal precedence to the left. Parentheses build nothing.
-/

namespace ReactiveGrid

namespace Token

def isOperator : Token → Bool
  | operator _ => true
  | _ => false

def isOpening : Token → Bool
  | opening => true
  | _ => false

def isClosing : Token → Bool
  | closing => true
  | _ => false

end Token

namespace Expr

inductive Category where
  | sum
  | product
  | operand

/-- The tokens are a word of the category, and write the expression. -/
inductive Derives : Category → List Token → Expr → Prop where
  | sum_product (ts : List Token) (e : Expr) (h : Derives .product ts e) : Derives .sum ts e
  | sum_binary (ls rs : List Token) (op : Operator) (l r : Expr) (hl : Derives .sum ls l)
      (hop : op = .add ∨ op = .subtract) (hr : Derives .product rs r) :
      Derives .sum (ls ++ .operator op :: rs) (.binary op l r)
  | product_operand (ts : List Token) (e : Expr) (h : Derives .operand ts e) :
      Derives .product ts e
  | product_binary (ls rs : List Token) (op : Operator) (l r : Expr) (hl : Derives .product ls l)
      (hop : op = .multiply ∨ op = .divide) (hr : Derives .operand rs r) :
      Derives .product (ls ++ .operator op :: rs) (.binary op l r)
  | number (v : Float) : Derives .operand [.number v] (.number v)
  | name (s : String) : Derives .operand [.name s] (.name s)
  | parentheses (ts : List Token) (e : Expr) (h : Derives .sum ts e) :
      Derives .operand (.opening :: ts ++ [.closing]) e

/-- Nowhere are more than so many parentheses open at once. -/
def NestedWithin (n : Nat) (ts : List Token) : Prop :=
  ∀ front, front <+: ts → front.countP Token.isOpening ≤ front.countP Token.isClosing + n

/-- The tokens write the expression and keep within the two limits. -/
structure Writes (ts : List Token) (e : Expr) : Prop where
  derives : Derives .sum ts e
  operators_le : ts.countP Token.isOperator ≤ maxOperators
  nested : NestedWithin maxNesting ts

variable {c : Category} {ts : List Token} {e : Expr}

theorem Derives.ne_nil (h : Derives c ts e) : ts ≠ [] := by
  induction h with
  | sum_product _ _ _ ih => exact ih
  | sum_binary => simp
  | product_operand _ _ _ ih => exact ih
  | product_binary => simp
  | number => simp
  | name => simp
  | parentheses => simp

theorem Derives.balanced (h : Derives c ts e) :
    ts.countP Token.isOpening = ts.countP Token.isClosing := by
  induction h with
  | sum_product _ _ _ ih => exact ih
  | sum_binary ls rs op l r _ _ _ ihl ihr =>
    simp only [List.countP_append, List.countP_cons, ihl, ihr]
    rfl
  | product_operand _ _ _ ih => exact ih
  | product_binary ls rs op l r _ _ _ ihl ihr =>
    simp only [List.countP_append, List.countP_cons, ihl, ihr]
    rfl
  | number => rfl
  | name => rfl
  | parentheses ts e _ ih =>
    simp [List.countP_append, List.countP_cons, ih, Token.isOpening, Token.isClosing]

end Expr

end ReactiveGrid
