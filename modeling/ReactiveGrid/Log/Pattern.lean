import ReactiveGrid.Log.Pattern.Group
import ReactiveGrid.Log.Pattern.Set

/-!
# Patterns

The patterns for the value of a field: literal characters, points, anchors, alternatives between
bars, groups, sets, and repetitions. Counted repetitions and the classes that need a table of
characters are not known. Here it is only decided whether a text is usable as a pattern, so of its
items no more is kept than how deep they nest.
-/

namespace ReactiveGrid.Log.Pattern

inductive Fault where
  | malformed
  /-- It is a pattern, but asks for the edge of a word of characters. -/
  | wordEdge
deriving DecidableEq

def Fault.message : Fault → String
  | malformed => "error building NFA"
  | wordEdge =>
    "unsupported regex feature for DFAs: cannot build DFAs for regexes with Unicode word "
      ++ "boundaries; switch to ASCII word boundaries, or heuristically enable Unicode word "
      ++ "boundaries or use a different regex engine"

def depthLimit : Nat := 250

/-! ### Branches -/

structure Item where
  depth : Nat := 0
  repeatable : Bool := true

structure Branch where
  before : List Nat := []
  /-- The items behind the last bar, latest first. -/
  items : List Item := []
  flags : Flags := {}

namespace Branch

def push (b : Branch) (i : Item) : Branch :=
  { b with items := i :: b.items }

def lastDepth (b : Branch) : Nat :=
  sideBySide (b.items.map (·.depth))

def depth (b : Branch) : Nat :=
  alternatives b.before b.lastDepth

def alternative (b : Branch) : Branch :=
  { b with before := b.lastDepth :: b.before, items := [] }

def repeat? (b : Branch) : Option Branch :=
  match b.items with
  | [] => none
  | i :: items =>
    if i.repeatable then some { b with items := { depth := i.depth + 1 } :: items } else none

end Branch

/-! ### Whole patterns -/

structure Progress where
  /-- What was read of the innermost group. -/
  branch : Branch := {}
  /-- What was read around it, the innermost first. -/
  outer : List Branch := []
  names : List (List Char) := []
  wordEdge : Bool := false

namespace Progress

def push (p : Progress) (i : Item) : Progress :=
  { p with branch := p.branch.push i }

def enter (p : Progress) (changes : List Char) : Progress :=
  { p with branch := { flags := p.branch.flags.change changes }, outer := p.branch :: p.outer }

def leave? (p : Progress) : Option Progress :=
  match p.outer with
  | [] => none
  | b :: outer => some { p with branch := b.push { depth := p.branch.depth + 1 }, outer }

def begin? (p : Progress) : Opening → Option Progress
  | .group changes => some (p.enter changes)
  | .named name =>
    if p.names.contains name then none else some { p.enter [] with names := name :: p.names }
  | .flags changes =>
    let b := p.branch.push { repeatable := false }
    some { p with branch := { b with flags := b.flags.change changes } }

def pushEscape? (p : Progress) : Escape → Option Progress
  | .literal _ => if p.branch.flags.admitsLiteral then some (p.push {}) else none
  | .wordEdge => some { p.push {} with wordEdge := p.wordEdge || p.branch.flags.characters }
  | .charClass | .anchor => some (p.push {})

def next? (p : Progress) (c : Char) (cs : List Char) : Option (Progress × List Char) :=
  let f := p.branch.flags
  if c = '(' then (opening? f cs).bind fun (o, rest) => (p.begin? o).map (·, rest)
  else if c = ')' then p.leave?.map (·, cs)
  else if c = '|' then some ({ p with branch := p.branch.alternative }, cs)
  else if c = '*' || c = '+' || c = '?' then
    p.branch.repeat?.map fun branch =>
      ({ p with branch }, if cs.head? = some '?' then cs.tail else cs)
  else if c = '{' then none
  else if c = '[' then (set? f cs).map fun (depth, rest) => (p.push { depth }, rest)
  else if c = '\\' then (escape? f cs).bind fun (e, rest) => (p.pushEscape? e).map (·, rest)
  else if c = '.' then if f.characters then some (p.push {}, cs) else none
  else if c = '^' || c = '$' then some (p.push {}, cs)
  else if f.admitsLiteral then some (p.push {}, cs)
  else none

def finish? (p : Progress) : Nat → List Char → Option Progress
  | bound, cs =>
    match bound, p.branch.flags.skip cs with
    | _, [] => if p.outer.isEmpty && p.branch.depth ≤ depthLimit then some p else none
    | 0, _ => none
    | bound + 1, c :: rest => (p.next? c rest).bind fun (p, rest) => p.finish? bound rest

end Progress

def fault? (cs : List Char) : Option Fault :=
  match Progress.finish? {} cs.length cs with
  | none => some .malformed
  | some p => if p.wordEdge then some .wordEdge else none

end ReactiveGrid.Log.Pattern
