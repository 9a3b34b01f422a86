import ReactiveGrid.Log.Pattern.Escape

/-!
# Sets of a pattern

A set stands in brackets. It holds characters, ranges, named classes and further sets, and can be
cut with others, lessened by them or compared with them. Of a pattern only the depth is kept: a single
thing adds nothing to it, several side by side add one level, and so does all that encloses others.
-/

namespace ReactiveGrid.Log.Pattern

/-! ### Depths -/

def deepest (depths : List Nat) : Nat :=
  depths.foldl max 0

def sideBySide : List Nat → Nat
  | [] => 0
  | [d] => d
  | ds => deepest ds + 1

/-- The depth of alternatives, of which the last is given by itself. -/
def alternatives (before : List Nat) (last : Nat) : Nat :=
  if before.isEmpty then last else deepest (last :: before) + 1

/-! ### Members -/

def classNames : List String :=
  ["alnum", "alpha", "ascii", "blank", "cntrl", "digit", "graph", "lower", "print", "punct",
    "space", "upper", "word", "xdigit"]

/-- Whether a named class is meant to hold all other characters, and what follows it, behind its
opening bracket. -/
def namedClass? : List Char → Option (Bool × List Char)
  | ':' :: cs =>
    let negated := cs.head? = some '^'
    let cs := if negated then cs.tail else cs
    match cs.dropWhile (· ≠ ':') with
    | ':' :: ']' :: rest =>
      if classNames.contains (String.ofList (cs.takeWhile (· ≠ ':'))) then some (negated, rest)
      else none
    | _ => none
  | _ => none

/-- A member of a set, which is a class if it is no character, and what follows. -/
def member? (f : Flags) : List Char → Option (Option Char × List Char)
  | [] => none
  | '\\' :: cs =>
    match escape? f cs with
    | some (.literal c, rest) => if f.admitsMember c then some (some c, rest) else none
    | some (.charClass, rest) => some (none, rest)
    | _ => none
  | c :: cs => if f.admitsMember c then some (some c, cs) else none

/-- What follows a member of a set, or a range of them. A hyphen before a bracket or another hyphen
makes no range. -/
def item? (f : Flags) (cs : List Char) : Option (List Char) :=
  match member? f cs with
  | none => none
  | some (start, rest) =>
    match f.skip rest with
    | '-' :: rest =>
      if f.peek? rest = some ']' || f.peek? rest = some '-' then some ('-' :: rest)
      else match start, member? f (f.skip rest) with
        | some c, some (some d, rest) => if c ≤ d then some rest else none
        | _, _ => none
    | rest => some rest

structure OpenSet where
  /-- Whether at most hyphens were read, which are literal there, as is a bracket before them. -/
  starting : Bool := true
  items : List Nat := []
  left : Option Nat := none

namespace OpenSet

def push (s : OpenSet) (depth : Nat) : OpenSet :=
  { s with starting := false, items := depth :: s.items }

def depth (s : OpenSet) : Nat :=
  match s.left with
  | none => sideBySide s.items
  | some d => max d (sideBySide s.items) + 1

def operate (s : OpenSet) : OpenSet :=
  { starting := false, left := some s.depth }

end OpenSet

/-- What follows an opening bracket and the caret behind it. Among bytes there is no set of all
others. -/
def setStart? (f : Flags) (cs : List Char) : Option (List Char) :=
  match f.skip cs with
  | '^' :: rest => if f.characters then some rest else none
  | rest => some rest

/-- The depth of a set, and what follows it, from inside some sets that are open, the innermost
first. The number bounds the items. -/
def setRest? (f : Flags) : Nat → OpenSet → List OpenSet → List Char → Option (Nat × List Char)
  | 0, _, _, _ => none
  | bound + 1, s, outer, cs =>
    let close (rest : List Char) : Option (Nat × List Char) :=
      match outer with
      | [] => some (s.depth + 1, rest)
      | t :: outer => setRest? f bound (t.push (s.depth + 1)) outer rest
    let literal (c : Char) (starting : Bool) (rest : List Char) : Option (Nat × List Char) :=
      if f.admitsMember c then setRest? f bound { s.push 0 with starting } outer rest else none
    match f.skip cs with
    | [] => none
    | '-' :: rest =>
      if s.starting then literal '-' true rest
      else match rest with
        | '-' :: rest => setRest? f bound s.operate outer rest
        | _ => (item? f ('-' :: rest)).bind (setRest? f bound (s.push 0) outer)
    | ']' :: rest => if s.starting && s.items.isEmpty then literal ']' false rest else close rest
    | '[' :: rest =>
      match namedClass? rest with
      | some (negated, rest) =>
        if f.admitsClass negated then setRest? f bound (s.push 0) outer rest else none
      | none =>
        (setStart? f rest).bind (setRest? f bound {} ({ s with starting := false } :: outer))
    | '&' :: '&' :: rest => setRest? f bound s.operate outer rest
    | '~' :: '~' :: rest => setRest? f bound s.operate outer rest
    | cs => (item? f cs).bind (setRest? f bound (s.push 0) outer)

def set? (f : Flags) (cs : List Char) : Option (Nat × List Char) :=
  (setStart? f cs).bind (setRest? f (cs.length + 1) {} [])

end ReactiveGrid.Log.Pattern
