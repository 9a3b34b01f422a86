import ReactiveGrid.Decimal

/-!
# The double nearest to a fraction

Rounding depends on the value of a fraction only, not on how it is reduced, and a fraction that is
itself a double is rounded to that double.
-/

namespace ReactiveGrid.Decimal

variable {n d m e : Nat}

theorem roundBits_scale {k : Nat} (hk : 0 < k) (n d : Nat) :
    roundBits (k * n) (k * d) = roundBits n d := by
  have hstep : ∀ s, k * d * s = k * (d * s) := fun s => Nat.mul_assoc ..
  have hlt : ∀ r s, 2 * (k * r) < k * s ↔ 2 * r < s := by
    intro r s
    rw [Nat.mul_left_comm, Nat.mul_lt_mul_left hk]
  have heq : ∀ r s, 2 * (k * r) = k * s ↔ 2 * r = s := by
    intro r s
    rw [Nat.mul_left_comm, Nat.mul_right_inj (Nat.ne_of_gt hk)]
  unfold roundBits
  simp only [hstep, Nat.mul_div_mul_left _ _ hk, Nat.mul_mod_mul_left, hlt, heq]

theorem log2_shifted {q s : Nat} (hq : q < Nat.pow 2 53) (hs : s = 0 ∨ Nat.pow 2 52 ≤ q) :
    (q * Nat.pow 2 s).log2 - 52 = s := by
  rcases hs with rfl | hs
  · have hlt : q.log2 < 53 := by
      by_cases h : q = 0
      · rw [h, Nat.log2_zero]
        decide
      · exact (Nat.log2_lt h).2 hq
    rw [show q * Nat.pow 2 0 = q from Nat.mul_one q]
    omega
  · have hpos : 0 < Nat.pow 2 s := Nat.pow_pos (by decide)
    have hne : q * Nat.pow 2 s ≠ 0 :=
      Nat.ne_of_gt (Nat.mul_pos (Nat.lt_of_lt_of_le (by decide) hs) hpos)
    have hlo : 52 + s ≤ (q * Nat.pow 2 s).log2 := by
      refine (Nat.le_log2 hne).2 ?_
      rw [Nat.pow_add]
      exact Nat.mul_le_mul_right _ hs
    have hhi : (q * Nat.pow 2 s).log2 < 53 + s := by
      refine (Nat.log2_lt hne).2 ?_
      rw [Nat.pow_add]
      exact Nat.mul_lt_mul_of_pos_right hq hpos
    omega

/-- With at most 53 binary digits, and with all of them if some are shifted out, nothing is lost. -/
theorem roundBits_exact {q s : Nat} (hd : 0 < d) (hq : q < Nat.pow 2 53)
    (hs : s = 0 ∨ Nat.pow 2 52 ≤ q) :
    roundBits (q * Nat.pow 2 s * d) d = s * Nat.pow 2 52 + q := by
  have hshift : (q * Nat.pow 2 s).log2 - 52 = s := log2_shifted hq hs
  have hstep : 0 < d * Nat.pow 2 s := Nat.mul_pos hd (Nat.pow_pos (by decide))
  have hunits : q * Nat.pow 2 s * d = q * (d * Nat.pow 2 s) := by
    rw [Nat.mul_assoc, Nat.mul_comm (Nat.pow 2 s) d]
  unfold roundBits
  simp only [Nat.mul_div_cancel _ hd, hshift]
  simp only [hunits, Nat.mul_div_cancel _ hstep, Nat.mul_mod_left, Nat.mul_zero]
  rw [if_pos (.inl hstep)]

theorem nearestBits_le (n d : Nat) : nearestBits n d ≤ infinityBits :=
  Nat.min_le_right _ _

/-- Fractions of one value have one nearest double. -/
theorem nearestBits_congr (hd : 0 < d) (he : 0 < e) (h : n * e = m * d) :
    nearestBits n d = nearestBits m e := by
  have hunits : e * (n * Nat.pow 2 1074) = d * (m * Nat.pow 2 1074) := by
    rw [← Nat.mul_assoc, Nat.mul_comm e n, h, Nat.mul_comm m d, Nat.mul_assoc]
  unfold nearestBits
  rw [← roundBits_scale he _ d, ← roundBits_scale hd _ e, hunits, Nat.mul_comm d e]

/-- A double is nearest to itself. -/
theorem nearestBits_exact {q s : Nat} (hd : 0 < d) (h : n * Nat.pow 2 1074 = q * Nat.pow 2 s * d)
    (hq : q < Nat.pow 2 53) (hs : s = 0 ∨ Nat.pow 2 52 ≤ q)
    (hfinite : s * Nat.pow 2 52 + q ≤ infinityBits) :
    nearestBits n d = s * Nat.pow 2 52 + q := by
  unfold nearestBits
  rw [h, roundBits_exact hd hq hs]
  exact Nat.min_eq_left hfinite

end ReactiveGrid.Decimal
