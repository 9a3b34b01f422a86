import ReactiveGrid.Decimal.Reader
import ReactiveGrid.Text.Blank
import ReactiveGrid.Text.Lines

/-!
# Assignments

An assignment on the command line gives a name a number, as in `price=2.5`. It is cut at its first
equals sign, and blanks around the name and the number do not count.
-/

namespace ReactiveGrid.CommandLine

abbrev Assignment := String × Float

namespace Assignment

inductive Fault where
  | noEquals (text : String)
  | noNumber (name : String)
  | badNumber (name : String)
deriving DecidableEq

def Fault.message : Fault → String
  | noEquals text => "expected NAME=VALUE, got '" ++ text ++ "'"
  | noNumber name => "invalid value for '" ++ name ++ "': cannot parse float from empty string"
  | badNumber name => "invalid value for '" ++ name ++ "': invalid float literal"

def numberOf (name : String) (number : List Char) : Except Fault Float :=
  if number.isEmpty then .error (.noNumber name)
  else
    match Decimal.read? number with
    | some value => .ok value
    | none => .error (.badNumber name)

def parse (s : String) : Except Fault Assignment :=
  match Text.splitAtFirst? '=' s.toList with
  | none => .error (.noEquals s)
  | some (before, after) =>
    let name := String.ofList (Text.trim before)
    (numberOf name (Text.trim after)).map (name, ·)

end Assignment

end ReactiveGrid.CommandLine
