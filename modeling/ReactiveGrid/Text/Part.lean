/-!
# Parts of a text by byte offsets

A part of a text is given by where it starts and ends, in bytes of its UTF-8 form. There is no such
part where one of the two falls inside a character or lies behind the text.
-/

namespace ReactiveGrid.Text

def byteLength : List Char → Nat
  | [] => 0
  | c :: cs => c.utf8Size + byteLength cs

theorem byteLength_append (cs ds : List Char) :
    byteLength (cs ++ ds) = byteLength cs + byteLength ds := by
  induction cs with
  | nil => simp [byteLength]
  | cons c cs ih => simp only [List.cons_append, byteLength, ih, Nat.add_assoc]

theorem byteLength_toList (s : String) : byteLength s.toList = s.utf8ByteSize := by
  have hchars : ∀ cs, byteLength cs = (String.ofList cs).utf8ByteSize := by
    intro cs
    induction cs with
    | nil => rfl
    | cons c cs ih => simp [byteLength, ih]
  rw [hchars, String.ofList_toList]

def splitAtByte? : Nat → List Char → Option (List Char × List Char)
  | 0, cs => some ([], cs)
  | _ + 1, [] => none
  | n + 1, c :: cs =>
    if c.utf8Size ≤ n + 1 then
      (splitAtByte? (n + 1 - c.utf8Size) cs).map fun p => (c :: p.1, p.2)
    else none

def fromByte? (start : Nat) (cs : List Char) : Option (List Char) :=
  (splitAtByte? start cs).map (·.2)

/-- The part of a text that starts at an offset and takes up a number of bytes. -/
def part? (start length : Nat) (cs : List Char) : Option (List Char) :=
  ((fromByte? start cs).bind (splitAtByte? length)).map (·.1)

end ReactiveGrid.Text
