import ReactiveGrid.Text.Blank

/-!
# Flags of a pattern

What a pattern may hold depends on flags that it can change itself. Here stands which flags matter,
how a list of letters changes them, and how blanks and comments are passed over while the flag for
that is set.
-/

namespace ReactiveGrid.Log.Pattern

structure Flags where
  loose : Bool := false
  characters : Bool := true
  anyCase : Bool := false
deriving DecidableEq

namespace Flags

/-- The letters of the flags. Most have no influence on what a pattern may hold. -/
def letters : List Char := ['i', 'm', 's', 'U', 'u', 'R', 'x']

/-- Whether some characters are flags, each given once, and possibly a hyphen before the last. -/
def areFlags (cs : List Char) : Bool :=
  cs.all (fun c => c == '-' || letters.contains c) && cs.all (fun c => cs.count c == 1)
    && cs.getLast? != some '-'

/-- The value of a flag after a change: the letters before the hyphen set theirs, the letters behind
it clear theirs. -/
def changed (cs : List Char) (letter : Char) (before : Bool) : Bool :=
  if cs.contains letter then (cs.takeWhile (· ≠ '-')).contains letter else before

def change (f : Flags) (cs : List Char) : Flags where
  loose := changed cs 'x' f.loose
  characters := changed cs 'u' f.characters
  anyCase := changed cs 'i' f.anyCase

/-- Whether a literal can stand for itself. Without a table of letters, characters have no cases. -/
def admitsLiteral (f : Flags) : Bool :=
  !(f.characters && f.anyCase)

/-- Whether a literal can stand in a set, where a byte is one character of ASCII. -/
def admitsMember (f : Flags) (c : Char) : Bool :=
  f.admitsLiteral && (f.characters || c.toNat < 128)

/-- Whether a class of ASCII characters, or all others, can be meant. Among bytes the others would
not all be characters. -/
def admitsClass (f : Flags) (negated : Bool) : Bool :=
  if f.characters then !f.anyCase else !negated

end Flags

/-! ### Blanks and comments -/

/-- What follows the blanks and comments at the start. A comment goes from a number sign to the end
of the line. -/
def afterBlanks (inComment : Bool) : List Char → List Char
  | [] => []
  | c :: cs =>
    if inComment then afterBlanks (c ≠ '\n') cs
    else if Text.isBlank c then afterBlanks false cs
    else if c = '#' then afterBlanks true cs
    else c :: cs

def Flags.skip (f : Flags) (cs : List Char) : List Char :=
  if f.loose then afterBlanks false cs else cs

/-- The first character that is neither a blank nor a first number sign. -/
def firstSolid? (signSeen : Bool) : List Char → Option Char
  | [] => none
  | c :: cs =>
    if Text.isBlank c then firstSolid? signSeen cs
    else if !signSeen && c = '#' then firstSolid? true cs
    else some c

/-- The character that counts as the next one when it is asked what a hyphen joins. The text of a
comment is not passed over here, only its number sign. -/
def Flags.peek? (f : Flags) (cs : List Char) : Option Char :=
  if f.loose then (firstSolid? false cs).or cs.head? else cs.head?

end ReactiveGrid.Log.Pattern
