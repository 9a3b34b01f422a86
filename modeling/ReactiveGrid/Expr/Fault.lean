import ReactiveGrid.Token

/-!
# What can be wrong with an expression

The causes for which a text is no expression, and the wording of each. The two limits on the size of
an expression stand here as well, since their wording names them.
-/

namespace ReactiveGrid.Expr

def maxOperators : Nat := 1024

def maxNesting : Nat := 64

inductive Malformed where
  | invalidNumber (lexeme : String)
  | empty
  | tooManyOperators
  | nestedTooDeep
  | missingOperand (before : Token)
  | missingLastOperand
  | unclosed (got : Token)
  | unclosedAtEnd
  | unexpectedToken (got : Token)
deriving DecidableEq

def Malformed.message : Malformed → String
  | .invalidNumber lexeme => s!"Invalid number '{lexeme}'"
  | .empty => "Empty expression"
  | .tooManyOperators => s!"Expression has more than {maxOperators} operators"
  | .nestedTooDeep => s!"Parentheses nested deeper than {maxNesting}"
  | .missingOperand before => "Missing operand before '" ++ before.text ++ "'"
  | .missingLastOperand => "Missing operand at end of expression"
  | .unclosed got => "Expected ')', got '" ++ got.text ++ "'"
  | .unclosedAtEnd => "Expected ')', got end of input"
  | .unexpectedToken got => "Unexpected token '" ++ got.text ++ "' after expression"

/-- The cause for which a text is no expression, or a formula has no value. -/
inductive Fault where
  /-- A character that starts no token, at a byte offset. -/
  | unexpectedCharacter (c : Char) (position : Nat)
  | malformed (cause : Malformed)
  | notBuilt
deriving DecidableEq

def Fault.message : Fault → String
  | .unexpectedCharacter c position => s!"Unexpected character '{c}' at position {position}"
  | .malformed cause => "Parse error: " ++ cause.message
  | .notBuilt => "Expression tree has not been built"

end ReactiveGrid.Expr
