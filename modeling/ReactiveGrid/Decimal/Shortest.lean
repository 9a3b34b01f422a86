import ReactiveGrid.Decimal

/-!
# The fewest digits that read back

Between two neighbouring doubles there are many decimals; a double is written with the one that has
the fewest digits among those that read back to it. For each number of digits only the two decimals
on either side of the double can do so, and the nearer one is preferred; halfway between them the
upper one is.
-/

namespace ReactiveGrid.Decimal

structure Ratio where
  numerator : Nat
  denominator : Nat

def magnitude (x : Float) : Ratio :=
  let bits := x.toBits.toNat
  let field := bits / Nat.pow 2 52 % Nat.pow 2 11
  let mantissa := bits % Nat.pow 2 52
  if field = 0 then ⟨mantissa, Nat.pow 2 1074⟩
  else ⟨(Nat.pow 2 52 + mantissa) * Nat.pow 2 (field - 1075), Nat.pow 2 (1075 - field)⟩

def digitCount (n : Nat) : Nat :=
  if n < 10 then 1 else digitCount (n / 10) + 1

/-- The power of ten just above a fraction that is at least `10 ^ (-324)`. -/
def scale (r : Ratio) : Int :=
  if r.denominator ≤ r.numerator then digitCount (r.numerator / r.denominator)
  else (digitCount (r.numerator * Nat.pow 10 324 / r.denominator) : Int) - 324

/-- The two multiples of `10 ^ e` on either side of a fraction, the nearer one first. -/
def neighbours (r : Ratio) (e : Int) : List Decimal :=
  let num := r.numerator * Nat.pow 10 (-e).toNat
  let den := r.denominator * Nat.pow 10 e.toNat
  let below := num / den
  if den ≤ 2 * (num % den) then [⟨below + 1, e⟩, ⟨below, e⟩] else [⟨below, e⟩, ⟨below + 1, e⟩]

/-- A decimal with the given number of digits that reads back to a positive finite double. -/
def withDigits? (x : Float) (n : Nat) : Option Decimal :=
  (neighbours (magnitude x) (scale (magnitude x) - n)).find? (readsBack x)

/-- Every digit of a fraction whose denominator is a power of two. -/
def exact (r : Ratio) : Decimal :=
  ⟨r.numerator * Nat.pow 5 r.denominator.log2, -(r.denominator.log2 : Int)⟩

/-- The decimal that a positive finite double is written as. Seventeen digits always suffice. -/
def shortest (x : Float) : Decimal :=
  ((List.range' 1 17).findSome? (withDigits? x)).getD (exact (magnitude x))

end ReactiveGrid.Decimal
