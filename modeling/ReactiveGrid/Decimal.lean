/-!
# Decimal numbers

A decimal is a natural number of digits and a power of ten. It stands for the double nearest to it;
a tie goes to the even double, and what is too large for a finite double is infinite.
-/

namespace ReactiveGrid

structure Decimal where
  digits : Nat
  exponent : Int
deriving DecidableEq, Repr

namespace Decimal

/-- The bits of positive infinity. All below are those of the finite doubles from zero on, in their
order. -/
def infinityBits : Nat := 0x7FF0000000000000

/-- The bits of the double nearest to a fraction of the least positive double, as if exponents had no
bound. From `2 ^ 53` on only the leading 53 binary digits are kept, and the number of those that are
shifted out makes up the exponent. Rounding up may carry into the exponent, as it should. -/
def roundBits (units denominator : Nat) : Nat :=
  let shift := (units / denominator).log2 - 52
  let step := denominator * Nat.pow 2 shift
  let below := units / step
  let rest := units % step
  let rounded := if 2 * rest < step ∨ 2 * rest = step ∧ below % 2 = 0 then below else below + 1
  shift * Nat.pow 2 52 + rounded

/-- The bits of the double nearest to a fraction. -/
def nearestBits (numerator denominator : Nat) : Nat :=
  min (roundBits (numerator * Nat.pow 2 1074) denominator) infinityBits

def toFloat (d : Decimal) : Float :=
  Float.ofBits (UInt64.ofNat
    (nearestBits (d.digits * Nat.pow 10 d.exponent.toNat) (Nat.pow 10 (-d.exponent).toNat)))

def readsBack (x : Float) (d : Decimal) : Bool :=
  d.toFloat.toBits == x.toBits

end Decimal

end ReactiveGrid
