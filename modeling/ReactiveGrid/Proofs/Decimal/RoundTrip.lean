import ReactiveGrid.Proofs.Decimal.Bits
import ReactiveGrid.Proofs.Decimal.Nearest
import ReactiveGrid.Proofs.Decimal.Numeral

/-!
# Written numbers read back

A decimal stands for the double nearest to its value, however its digits are scaled. The digits that
are chosen for a positive double, or for zero, are digits that read back, and if none were found, all
of its digits would do. So the numeral that is written is read as the double again.
-/

namespace ReactiveGrid.Decimal

variable {d : Decimal} {x : Float}

/-! ### The double of a decimal -/

theorem toBits_toFloat (d : Decimal) : d.toFloat.toBits.toNat =
    nearestBits (d.digits * Nat.pow 10 d.exponent.toNat) (Nat.pow 10 (-d.exponent).toNat) := by
  have hle := nearestBits_le (d.digits * Nat.pow 10 d.exponent.toNat)
    (Nat.pow 10 (-d.exponent).toNat)
  have hlt := Nat.lt_of_le_of_lt hle (show infinityBits < 2 ^ 64 by decide)
  unfold toFloat
  rw [toBits_ofBits]
  · exact UInt64.toNat_ofNat_of_lt' hlt
  · rwa [UInt64.toNat_ofNat_of_lt' hlt]

theorem toBits_toFloat_le (d : Decimal) : d.toFloat.toBits.toNat ≤ infinityBits := by
  rw [toBits_toFloat]
  exact nearestBits_le ..

theorem pow_ten_pos (n : Nat) : 0 < Nat.pow 10 n :=
  Nat.pow_pos (by decide)

/-- Without a sign nothing negative is read. -/
theorem toBits_le_of_read? {cs : List Char} (h : ∀ c ∈ cs, c.isDigit ∨ c = '.')
    (hx : read? cs = some x) : x.toBits.toNat ≤ infinityBits := by
  rw [read?_eq_unsigned? h] at hx
  unfold unsigned? at hx
  cases hd : numeral? cs with
  | none =>
    rw [hd, special?_eq_none h] at hx
    cases hx
  | some d =>
    rw [hd] at hx
    cases hx
    exact toBits_toFloat_le d

/-- Decimals of one value stand for one double. -/
theorem toFloat_congr {d e : Decimal}
    (h : d.digits * Nat.pow 10 d.exponent.toNat * Nat.pow 10 (-e.exponent).toNat =
      e.digits * Nat.pow 10 e.exponent.toNat * Nat.pow 10 (-d.exponent).toNat) :
    d.toFloat = e.toFloat := by
  unfold toFloat
  rw [nearestBits_congr (pow_ten_pos _) (pow_ten_pos _) h]

theorem toFloat_writtenOut (h : 0 ≤ d.exponent) :
    toFloat ⟨d.digits * Nat.pow 10 d.exponent.toNat, 0⟩ = d.toFloat := by
  have hneg : (-d.exponent).toNat = 0 := by omega
  refine toFloat_congr ?_
  show d.digits * Nat.pow 10 d.exponent.toNat * Nat.pow 10 0 * Nat.pow 10 (-d.exponent).toNat =
    d.digits * Nat.pow 10 d.exponent.toNat * Nat.pow 10 0
  rw [hneg]
  exact Nat.mul_one _

theorem toFloat_carryZero {n : Nat} (e : Int) (hn : n % 10 = 0) :
    toFloat ⟨n / 10, e + 1⟩ = toFloat ⟨n, e⟩ := by
  have hten : ∀ k, Nat.pow 10 (k + 1) = Nat.pow 10 k * 10 := fun k => Nat.pow_succ 10 k
  have hdigits : n / 10 * 10 = n := by omega
  refine toFloat_congr ?_
  show n / 10 * Nat.pow 10 (e + 1).toNat * Nat.pow 10 (-e).toNat =
    n * Nat.pow 10 e.toNat * Nat.pow 10 (-(e + 1)).toNat
  by_cases he : 0 ≤ e
  · have hup : (e + 1).toNat = e.toNat + 1 := by omega
    have hdown : (-e).toNat = 0 ∧ (-(e + 1)).toNat = 0 := by omega
    rw [hup, hdown.1, hdown.2, hten, Nat.mul_comm (Nat.pow 10 e.toNat), ← Nat.mul_assoc, hdigits]
  · have hup : (e + 1).toNat = 0 ∧ e.toNat = 0 := by omega
    have hdown : (-e).toNat = (-(e + 1)).toNat + 1 := by omega
    rw [hup.1, hup.2, hdown, hten, Nat.mul_comm (Nat.pow 10 (-(e + 1)).toNat), ← Nat.mul_assoc,
      Nat.mul_right_comm (n / 10), hdigits]

theorem toFloat_stripZeros (d : Decimal) : (stripZeros d).toFloat = d.toFloat := by
  induction d using stripZeros.induct with
  | case1 d h ih => rw [stripZeros, dif_pos h, ih, toFloat_carryZero _ h.2]
  | case2 d h => rw [stripZeros, dif_neg h]

/-! ### The digits of a double -/

theorem eq_of_readsBack (h : readsBack x d = true) : d.toFloat = x :=
  eq_of_toBits_eq (beq_iff_eq.1 h)

theorem pow_two_mul {a b c d : Nat} (h : a + b = c + d) :
    Nat.pow 2 a * Nat.pow 2 b = Nat.pow 2 c * Nat.pow 2 d := by
  have hleft : Nat.pow 2 (a + b) = Nat.pow 2 a * Nat.pow 2 b := Nat.pow_add 2 a b
  have hright : Nat.pow 2 (c + d) = Nat.pow 2 c * Nat.pow 2 d := Nat.pow_add 2 c d
  rw [← hleft, ← hright, h]

/-- The magnitude of a double in units of the least positive one, and how it lies in the bits. -/
theorem magnitude_of_plain (h : Plain x) : ∃ q s k,
    (magnitude x).denominator = Nat.pow 2 k ∧
    (magnitude x).numerator * Nat.pow 2 1074 = q * Nat.pow 2 s * Nat.pow 2 k ∧
    q < Nat.pow 2 53 ∧ (s = 0 ∨ Nat.pow 2 52 ≤ q) ∧
    x.toBits.toNat = s * Nat.pow 2 52 + q := by
  have hsign : x.toBits.toNat < Nat.pow 2 52 * Nat.pow 2 11 := h.2
  have hfield : x.toBits.toNat / Nat.pow 2 52 % Nat.pow 2 11 = x.toBits.toNat / Nat.pow 2 52 :=
    Nat.mod_eq_of_lt (Nat.div_lt_of_lt_mul hsign)
  have hmantissa : x.toBits.toNat % Nat.pow 2 52 < Nat.pow 2 52 :=
    Nat.mod_lt _ (Nat.pow_pos (by decide))
  have hparts := Nat.div_add_mod x.toBits.toNat (Nat.pow 2 52)
  have hdouble : Nat.pow 2 53 = Nat.pow 2 52 + Nat.pow 2 52 := rfl
  unfold magnitude
  simp only [hfield]
  generalize x.toBits.toNat / Nat.pow 2 52 = field at hparts
  generalize x.toBits.toNat % Nat.pow 2 52 = mantissa at hparts hmantissa
  by_cases hzero : field = 0
  · refine ⟨mantissa, 0, 1074, ?_, ?_, ?_, .inl rfl, ?_⟩
    · rw [if_pos hzero]
    · rw [if_pos hzero]
      exact congrArg (· * Nat.pow 2 1074) (Nat.mul_one mantissa).symm
    · omega
    · rw [← hparts, hzero, Nat.mul_zero]
  · refine ⟨Nat.pow 2 52 + mantissa, field - 1, 1075 - field, ?_, ?_, ?_, .inr ?_, ?_⟩
    · rw [if_neg hzero]
    · have hexponents : field - 1075 + 1074 = field - 1 + (1075 - field) := by omega
      rw [if_neg hzero]
      generalize 1074 = units at hexponents ⊢
      rw [Nat.mul_assoc, Nat.mul_assoc, pow_two_mul hexponents]
    · omega
    · exact Nat.le_add_right ..
    · obtain ⟨s, rfl⟩ := Nat.exists_eq_succ_of_ne_zero hzero
      rw [← hparts, Nat.mul_comm, Nat.succ_mul, Nat.add_assoc, Nat.succ_sub_one]

theorem toFloat_exact (h : Plain x) : (exact (magnitude x)).toFloat = x := by
  obtain ⟨q, s, k, hden, hunits, hq, hs, hbits⟩ := magnitude_of_plain h
  have hfinite : s * Nat.pow 2 52 + q ≤ infinityBits := by
    rw [← hbits]
    exact Nat.le_of_lt (plain_iff.1 h)
  have hlog : (magnitude x).denominator.log2 = k := by
    rw [hden]
    exact Nat.log2_two_pow
  refine eq_of_toBits_eq (UInt64.toNat_inj.1 ?_)
  rw [toBits_toFloat, hbits, ← nearestBits_exact (Nat.pow_pos (by decide)) hunits hq hs hfinite]
  unfold exact
  rw [hlog]
  refine nearestBits_congr (pow_ten_pos _) (Nat.pow_pos (by decide)) ?_
  have hup : (-(k : Int)).toNat = 0 := by omega
  have hdown : (-(-(k : Int))).toNat = k := by omega
  have hten : Nat.pow 10 k = Nat.pow 5 k * Nat.pow 2 k := Nat.mul_pow 5 2 k
  show (magnitude x).numerator * Nat.pow 5 k * Nat.pow 10 (-(k : Int)).toNat * Nat.pow 2 k =
    (magnitude x).numerator * Nat.pow 10 (-(-(k : Int))).toNat
  rw [hup, hdown, hten, ← Nat.mul_assoc]
  exact congrArg (· * Nat.pow 2 k) (Nat.mul_one _)

theorem toFloat_shortest (h : Plain x) : (shortest x).toFloat = x := by
  unfold shortest
  cases hfound : (List.range' 1 17).findSome? (withDigits? x) with
  | none => exact toFloat_exact h
  | some d =>
    obtain ⟨n, -, hd⟩ := List.exists_of_findSome?_eq_some hfound
    exact eq_of_readsBack (List.find?_some hd)

/-! ### What is written -/

theorem eq_zero_of_magnitude (h : Plain x) (hzero : (magnitude x).numerator = 0) :
    toFloat ⟨0, 0⟩ = x := by
  obtain ⟨q, s, k, -, hunits, -, hs, hbits⟩ := magnitude_of_plain h
  generalize Nat.pow 2 1074 = units at hunits
  have hq : q = 0 := by
    have hpos : ∀ n, Nat.pow 2 n ≠ 0 := fun n => Nat.ne_of_gt (Nat.pow_pos (by decide))
    have hnone : q * Nat.pow 2 s * Nat.pow 2 k = 0 := by
      rw [← hunits, hzero, Nat.zero_mul]
    rcases Nat.mul_eq_zero.1 hnone with hzero | hzero
    · exact (Nat.mul_eq_zero.1 hzero).resolve_right (hpos s)
    · exact absurd hzero (hpos k)
  have hs : s = 0 := by
    refine hs.resolve_right ?_
    rw [hq]
    decide
  refine eq_of_toBits_eq (UInt64.toNat_inj.1 ?_)
  rw [hbits, hq, hs]
  decide +kernel

theorem renderChars_of_plain (h : Plain x) : renderChars x =
    if (magnitude x).numerator = 0 then ['0'] else positional (stripZeros (shortest x)) := by
  unfold renderChars renderMagnitude
  rw [h.isNaN, h.isInf, if_pos h.2]
  simp

/-- A positive double, or zero, is written as a numeral that is read as this double. -/
theorem read?_renderChars (h : Plain x) :
    IsNumeral (renderChars x) ∧ read? (renderChars x) = some x := by
  rw [renderChars_of_plain h]
  split
  · next hzero =>
    have hnumeral : IsNumeral ['0'] := .whole ['0'] rfl (List.cons_ne_nil _ _)
    refine ⟨hnumeral, ?_⟩
    rw [hnumeral.read? (show numeral? ['0'] = some ⟨0, 0⟩ from rfl), eq_zero_of_magnitude h hzero]
  · have hnumeral := isNumeral_positional (stripZeros (shortest x))
    refine ⟨hnumeral, ?_⟩
    rw [hnumeral.read? (numeral?_positional _)]
    split
    · next hexponent =>
      rw [toFloat_writtenOut hexponent, toFloat_stripZeros, toFloat_shortest h]
    · rw [toFloat_stripZeros, toFloat_shortest h]

theorem render_infinity : render infinity = "inf" := by
  have hchars : renderChars infinity = ['i', 'n', 'f'] := by decide
  rw [render, hchars]

theorem isInf_infinity : infinity.isInf = true := by
  decide +kernel

theorem plain_or_infinity (h : x.toBits.toNat ≤ infinityBits) : Plain x ∨ x = infinity := by
  rcases Nat.lt_or_eq_of_le h with hlt | heq
  · exact .inl (plain_iff.2 hlt)
  · refine .inr (eq_of_toBits_eq (UInt64.toNat_inj.1 ?_))
    rw [heq]
    decide +kernel

end ReactiveGrid.Decimal
