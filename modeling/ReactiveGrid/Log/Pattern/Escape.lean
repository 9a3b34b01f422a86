import ReactiveGrid.Log.Pattern.Flags

/-!
# Escapes of a pattern

A backslash makes a special character literal, or a literal one special: an end of the whole text,
an edge of a word, a class of characters. Literals can also be given by hexadecimal digits.
-/

namespace ReactiveGrid.Log.Pattern

inductive Escape where
  | literal (c : Char)
  /-- A class of characters, of which there is nothing more to know. -/
  | charClass
  | anchor
  | wordEdge
deriving DecidableEq

def hexValue? (c : Char) : Option Nat :=
  if c.isDigit then some (c.toNat - '0'.toNat)
  else if 'a' ≤ c ∧ c ≤ 'f' then some (c.toNat - 'a'.toNat + 10)
  else if 'A' ≤ c ∧ c ≤ 'F' then some (c.toNat - 'A'.toNat + 10)
  else none

/-- The number that a count of hexadecimal digits writes behind what was read, and what follows. -/
def hexNumber? (f : Flags) (value : Nat) : Nat → List Char → Option (Nat × List Char)
  | 0, cs => some (value, f.skip cs)
  | count + 1, cs =>
    match f.skip cs with
    | [] => none
    | c :: rest =>
      match hexValue? c with
      | some digit => hexNumber? f (16 * value + digit) count rest
      | none => none

/-- A literal given by a count of hexadecimal digits up to a limit, and what follows. -/
def hexEscape? (f : Flags) (count limit : Nat) (cs : List Char) : Option (Escape × List Char) :=
  match hexNumber? f 0 count cs with
  | none => none
  | some (n, rest) =>
    if n.isValidChar && n ≤ limit then some (.literal (Char.ofNat n), rest) else none

def lastCodePoint : Nat := 0x10FFFF

def control? : Char → Option Char
  | 'a' => some '\x07'
  | 'f' => some '\x0c'
  | 't' => some '\t'
  | 'n' => some '\n'
  | 'r' => some '\r'
  | 'v' => some '\x0b'
  | _ => none

/-- What stands behind a backslash, and what follows it. The classes for digits, blanks and words
are known among bytes only, and two hexadecimal digits stand for a byte there. -/
def escape? (f : Flags) : List Char → Option (Escape × List Char)
  | [] => none
  | c :: cs =>
    if c = 'x' then hexEscape? f 2 (if f.characters then lastCodePoint else 127) cs
    else if c = 'u' then hexEscape? f 4 lastCodePoint cs
    else if c = 'U' then hexEscape? f 8 lastCodePoint cs
    else if c = 'd' || c = 's' || c = 'w' then
      if f.characters then none else some (.charClass, cs)
    else if c = 'A' || c = 'z' then some (.anchor, cs)
    else if c = 'b' || c = 'B' || c = '<' || c = '>' then some (.wordEdge, cs)
    else match control? c with
      | some l => some (.literal l, cs)
      | none => if c.toNat < 128 && !c.isAlphanum then some (.literal c, cs) else none

end ReactiveGrid.Log.Pattern
