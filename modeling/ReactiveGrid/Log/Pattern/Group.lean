import ReactiveGrid.Log.Pattern.Flags
import ReactiveGrid.Text.Numeric

/-!
# Groups of a pattern

A parenthesis opens a group, which can have a name or flags of its own, or it only changes the flags
for what follows.
-/

namespace ReactiveGrid.Log.Pattern

inductive Opening where
  | group (changes : List Char)
  | named (name : List Char)
  | flags (changes : List Char)
deriving DecidableEq

def inGroupName (first : Bool) (c : Char) : Bool :=
  if first then c == '_' || Text.isAlphabetic c
  else c == '_' || c == '.' || c == '[' || c == ']' || Text.isAlphanumeric c

def groupName? (cs : List Char) : Option (Opening × List Char) :=
  match cs.takeWhile (· ≠ '>'), cs.dropWhile (· ≠ '>') with
  | c :: name, _ :: rest =>
    if inGroupName true c && name.all (inGroupName false) then some (.named (c :: name), rest)
    else none
  | _, _ => none

def flagChange? (cs : List Char) : Option (Opening × List Char) :=
  let isFlag (c : Char) : Bool := c ≠ ':' && c ≠ ')'
  let changes := cs.takeWhile isFlag
  if !Flags.areFlags changes then none
  else match cs.dropWhile isFlag with
    | ':' :: rest => some (.group changes, rest)
    | ')' :: rest => if changes.isEmpty then none else some (.flags changes, rest)
    | _ => none

def opening? (f : Flags) (cs : List Char) : Option (Opening × List Char) :=
  match f.skip cs with
  | '?' :: 'P' :: '<' :: rest => groupName? rest
  | '?' :: '<' :: rest => groupName? rest
  | '?' :: rest => flagChange? rest
  | rest => some (.group [], rest)

end ReactiveGrid.Log.Pattern
