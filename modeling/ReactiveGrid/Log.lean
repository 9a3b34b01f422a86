import ReactiveGrid.Decimal.Printer
import ReactiveGrid.Text.Quoted

/-!
# Log records

A record has a level, the part of the program that it comes from, a message and named fields. It is
written on one line, as in `WARN part: message field=value`.
-/

namespace ReactiveGrid.Log

/-- How much a record matters, most severe first. -/
inductive Level where
  | error
  | warn
  | info
  | debug
  | trace
deriving DecidableEq, Repr

namespace Level

def name : Level → String
  | error => "ERROR"
  | warn => "WARN"
  | info => "INFO"
  | debug => "DEBUG"
  | trace => "TRACE"

def verbosity : Level → Nat
  | error => 1
  | warn => 2
  | info => 3
  | debug => 4
  | trace => 5

end Level

inductive Value where
  | plain (text : String)
  | quoted (text : String)
  | number (value : Float)
deriving DecidableEq

def Value.written : Value → String
  | plain text => text
  | quoted text => Text.quote text
  | number value => Decimal.render value

structure Record where
  level : Level
  target : String
  message : String
  fields : List (String × Value)
deriving DecidableEq

def Record.line (r : Record) : String :=
  r.fields.foldl (fun line field => line ++ " " ++ field.1 ++ "=" ++ field.2.written)
    (r.level.name ++ " " ++ r.target ++ ": " ++ r.message)

end ReactiveGrid.Log
