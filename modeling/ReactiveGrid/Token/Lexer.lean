import ReactiveGrid.Decimal.Reader
import ReactiveGrid.Expr.Fault
import ReactiveGrid.Text.Blank
import ReactiveGrid.Text.Numeric

/-!
# Cutting a text into tokens

The text is read one character at a time. A numeral or a name that has been started goes on as long
as it can; the first character that does not belong to it completes it and is then read afresh. A
numeral has at most one point: a second one right behind it is refused at its byte offset.
-/

namespace ReactiveGrid.Token

open ReactiveGrid.Expr (Fault)

/-- The part of the text that has been started but may still go on, latest character first. -/
inductive Lexeme where
  | none
  | numeral (chars : List Char)
  | word (chars : List Char)
deriving DecidableEq

structure Scan where
  position : Nat := 0
  lexeme : Lexeme := .none
  /-- The complete tokens, latest first. -/
  tokens : List Token := []

namespace Scan

def flush (s : Scan) : Except Fault Scan :=
  match s.lexeme with
  | .none => .ok s
  | .numeral chars =>
    match Decimal.read? chars.reverse with
    | some v => .ok { s with lexeme := .none, tokens := .number v :: s.tokens }
    | none => .error (.malformed (.invalidNumber (String.ofList chars.reverse)))
  | .word chars =>
    .ok { s with lexeme := .none, tokens := .name (String.ofList chars.reverse) :: s.tokens }

def start (s : Scan) (c : Char) : Except Fault Scan :=
  let next := s.position + c.utf8Size
  if Text.isBlank c then .ok { s with position := next }
  else
    match ofSymbol? c with
    | some t => .ok { s with position := next, tokens := t :: s.tokens }
    | none =>
      if c.isDigit || c == '.' then .ok { s with position := next, lexeme := .numeral [c] }
      else if Text.isAlphabetic c then .ok { s with position := next, lexeme := .word [c] }
      else .error (.unexpectedCharacter c s.position)

def step (s : Scan) (c : Char) : Except Fault Scan :=
  match s.lexeme with
  | .none => s.start c
  | .numeral chars =>
    if c.isDigit || (c == '.' && !chars.contains '.') then
      .ok { s with position := s.position + c.utf8Size, lexeme := .numeral (c :: chars) }
    else if c == '.' then .error (.unexpectedCharacter c s.position)
    else s.flush.bind (·.start c)
  | .word chars =>
    if Text.isAlphanumeric c then
      .ok { s with position := s.position + c.utf8Size, lexeme := .word (c :: chars) }
    else s.flush.bind (·.start c)

end Scan

def scanChars (cs : List Char) : Except Fault (List Token) :=
  (cs.foldlM Scan.step {}).bind fun s => s.flush.map (·.tokens.reverse)

def scan (s : String) : Except Fault (List Token) :=
  scanChars s.toList

end ReactiveGrid.Token
