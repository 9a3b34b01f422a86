import ReactiveGrid.Decimal.Shortest

/-!
# Writing a number

A number is written positionally, with the fewest digits that read back and never with an exponent:
a whole number has no point, and a number below one starts with a zero. The sign of a negative zero
is kept, and the special numbers are written `inf`, `-inf` and `NaN`.
-/

namespace ReactiveGrid.Decimal

def stripZeros (d : Decimal) : Decimal :=
  if _h : d.digits ≠ 0 ∧ d.digits % 10 = 0 then stripZeros ⟨d.digits / 10, d.exponent + 1⟩ else d
termination_by d.digits
decreasing_by omega

def positional (d : Decimal) : List Char :=
  let digits := Nat.toDigits 10 d.digits
  if 0 ≤ d.exponent then digits ++ List.replicate d.exponent.toNat '0'
  else
    let places := (-d.exponent).toNat
    let padded := List.replicate (places + 1 - digits.length) '0' ++ digits
    padded.take (padded.length - places) ++ '.' :: padded.drop (padded.length - places)

def renderMagnitude (x : Float) : List Char :=
  if x.isInf then ['i', 'n', 'f']
  else if (magnitude x).numerator = 0 then ['0']
  else positional (stripZeros (shortest x))

def renderChars (x : Float) : List Char :=
  if x.isNaN then ['N', 'a', 'N']
  else if x.toBits.toNat < Nat.pow 2 63 then renderMagnitude x
  else '-' :: renderMagnitude x.neg

def render (x : Float) : String :=
  String.ofList (renderChars x)

end ReactiveGrid.Decimal
