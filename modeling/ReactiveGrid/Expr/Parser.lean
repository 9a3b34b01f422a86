import ReactiveGrid.Expr
import ReactiveGrid.Token.Lexer

/-!
# Building an expression from tokens

The tokens are taken one at a time. For each open parenthesis there is a level that keeps the left
sides of operations whose right side is still to come: at most one sum and, inside it, at most one
product. A complete operand goes to the product first, and the next operator of the same level then
decides what it becomes the left side of. So products bind more tightly than sums, and operators of
equal precedence group to the left.

A token that cannot go on is refused at once; only what is missing is left to the end of the text.
-/

namespace ReactiveGrid.Expr

/-- The left sides of operations that wait for their right side, within one pair of parentheses. -/
structure Level where
  sum : Option (Expr × Operator) := none
  product : Option (Expr × Operator) := none

namespace Level

def term (l : Level) (e : Expr) : Expr :=
  match l.product with
  | none => e
  | some (left, op) => .binary op left e

def total (l : Level) (e : Expr) : Expr :=
  match l.sum with
  | none => l.term e
  | some (left, op) => .binary op left (l.term e)

def push (l : Level) (e : Expr) (op : Operator) : Level :=
  if op.precedence = 2 then { l with product := some (l.term e, op) }
  else { sum := some (l.total e, op) }

end Level

structure Parse where
  /-- The innermost open level. -/
  level : Level := {}
  /-- The levels around it, innermost first. -/
  outer : List Level := []
  operand : Option Expr := none
  operators : Nat := 0

namespace Parse

def takeOperand (p : Parse) : Token → Except Fault Parse
  | .number v => .ok { p with operand := some (.number v) }
  | .name s => .ok { p with operand := some (.name s) }
  | .opening =>
    if p.outer.length = maxNesting then .error (.malformed .nestedTooDeep)
    else .ok { p with level := {}, outer := p.level :: p.outer }
  | t => .error (.malformed (.missingOperand t))

def takeAfter (p : Parse) (e : Expr) : Token → Except Fault Parse
  | .operator op =>
    if p.operators = maxOperators then .error (.malformed .tooManyOperators)
    else .ok { p with level := p.level.push e op, operand := none, operators := p.operators + 1 }
  | t =>
    match p.outer with
    | [] => .error (.malformed (.unexpectedToken t))
    | l :: ls =>
      if t = .closing then .ok { p with level := l, outer := ls, operand := some (p.level.total e) }
      else .error (.malformed (.unclosed t))

def step (p : Parse) (t : Token) : Except Fault Parse :=
  match p.operand with
  | none => p.takeOperand t
  | some e => p.takeAfter e t

def finish (p : Parse) : Except Fault Expr :=
  match p.operand, p.outer with
  | none, _ => .error (.malformed .missingLastOperand)
  | some e, [] => .ok (p.level.total e)
  | some _, _ :: _ => .error (.malformed .unclosedAtEnd)

end Parse

def ofTokens (ts : List Token) : Except Fault Expr :=
  if ts.isEmpty then .error (.malformed .empty) else (ts.foldlM Parse.step {}).bind Parse.finish

def parse (s : String) : Except Fault Expr :=
  (Token.scan s).bind ofTokens

end ReactiveGrid.Expr
