import ReactiveGrid.Decimal

/-!
# Reading a number

The written form of a number: an optional sign, then digits with at most one point among them and
an optional exponent, or one of the words `inf`, `infinity` and `nan` in any case. Nothing may
stand before or after it.
-/

namespace ReactiveGrid.Decimal

/-- The largest magnitude from which on further exponent digits are ignored; long before it every
number is zero or infinite. -/
def exponentCap : Nat := 65536

def exponentValue (digits : List Char) : Nat :=
  digits.foldl (fun e c => if e < exponentCap then 10 * e + (c.toNat - '0'.toNat) else e) 0

def exponentDigits? (cs : List Char) : Option Nat :=
  if !cs.isEmpty && cs.all Char.isDigit then some (exponentValue cs) else none

/-- What may follow the digits of a numeral: nothing, or an exponent. -/
def exponent? : List Char → Option Int
  | [] => some 0
  | e :: cs =>
    if e = 'e' ∨ e = 'E' then
      match cs with
      | '-' :: ds => (exponentDigits? ds).map fun n => -(n : Int)
      | '+' :: ds => (exponentDigits? ds).map fun n => (n : Int)
      | ds => (exponentDigits? ds).map fun n => (n : Int)
    else none

def fraction : List Char → List Char × List Char
  | '.' :: cs => (cs.takeWhile Char.isDigit, cs.dropWhile Char.isDigit)
  | cs => ([], cs)

def numeral? (cs : List Char) : Option Decimal :=
  let whole := cs.takeWhile Char.isDigit
  let (places, rest) := fraction (cs.dropWhile Char.isDigit)
  if whole.isEmpty && places.isEmpty then none
  else (exponent? rest).map fun e =>
    ⟨Nat.ofDigitChars 10 (whole ++ places) 0, e - places.length⟩

def infinity : Float := Float.ofBits 0x7FF0000000000000

def notANumber : Float := Float.ofBits 0x7FF8000000000000

def special? (cs : List Char) : Option Float :=
  let word := cs.map Char.toLower
  if word = ['i', 'n', 'f'] ∨ word = ['i', 'n', 'f', 'i', 'n', 'i', 't', 'y'] then some infinity
  else if word = ['n', 'a', 'n'] then some notANumber
  else none

def unsigned? (cs : List Char) : Option Float :=
  match numeral? cs with
  | some d => some d.toFloat
  | none => special? cs

def read? : List Char → Option Float
  | '-' :: cs => (unsigned? cs).map Float.neg
  | '+' :: cs => unsigned? cs
  | cs => unsigned? cs

end ReactiveGrid.Decimal
