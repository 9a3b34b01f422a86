import ReactiveGrid.Log.Directive

/-!
# Log filters

A filter is written as directives between commas. Of the directives that concern a record the most
specific one decides, and of several that are equally specific the last. A directive that is not
understood is left out and told about.

Filters belong to the outer layer of the program. Which records there are does not depend on them.
-/

namespace ReactiveGrid.Log

structure Filter where
  directives : List Directive := []
  ignored : List (String × Directive.Fault) := []

namespace Filter

def piecesFrom (piece : List Char) : List Char → List (List Char)
  | [] => [piece.reverse]
  | c :: cs => if c = ',' then piece.reverse :: piecesFrom [] cs else piecesFrom (c :: piece) cs

def add? (f : Filter) (piece : List Char) : Option Filter :=
  (Directive.parse piece).run.map fun
    | .ok d => { f with directives := f.directives ++ [d] }
    | .error fault => { f with ignored := f.ignored ++ [(String.ofList piece, fault)] }

/-- The filter that a text writes. There is none where a part of a directive would start or end
inside a character. -/
def parse? (s : String) : Option Filter :=
  ((piecesFrom [] s.toList).filter (!·.isEmpty)).foldlM add? {}

/-- The filter when none is given: errors only. -/
def onlyErrors : Filter :=
  { directives := [{ verbosity := Level.error.verbosity }] }

def decisive? (f : Filter) (r : Record) : Option Directive :=
  (f.directives.filter (·.concerns r)).foldl
    (fun best d =>
      match best with
      | some b => if (b.compareSpecificity d).isLE then some d else some b
      | none => some d)
    none

def shows (f : Filter) (r : Record) : Bool :=
  (f.decisive? r).any fun d => r.level.verbosity ≤ d.verbosity

def warning (ignored : String × Directive.Fault) : String :=
  "ignoring \x60" ++ ignored.1 ++ "\x60: " ++ ignored.2.message

def lines (f : Filter) (rs : List Record) : List String :=
  f.ignored.map warning ++ (rs.filter f.shows).map Record.line

end Filter

end ReactiveGrid.Log
