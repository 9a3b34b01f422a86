import ReactiveGrid.Decimal.Reader

/-!
# Doubles and their bits

A double is its bits, except that there is only one that is no number. So whatever has the bits of a
number is that number, and every pattern up to that of positive infinity is the pattern of a double.
-/

namespace ReactiveGrid.Decimal
open Float.Model Float.Model.UnpackedFloat

variable {x y : Float} {b : BitVec Format.binary64.numBits}

theorem eq_of_toBits_eq (h : x.toBits = y.toBits) : x = y := by
  obtain ⟨⟨bits, hbits⟩⟩ := x
  obtain ⟨⟨bits', hbits'⟩⟩ := y
  obtain rfl : bits = bits' := h
  rfl

/-! ### The fields of a pattern -/

theorem toNat_unpackMantissa (b : BitVec Format.binary64.numBits) :
    (unpackMantissa b).toNat = b.toNat % Nat.pow 2 52 := by
  unfold unpackMantissa
  rw [BitVec.toNat_cast, BitVec.extractLsb_toNat, Nat.shiftRight_zero]
  rfl

theorem toNat_unpackExponent (b : BitVec Format.binary64.numBits) :
    (unpackExponent b).toNat = b.toNat / Nat.pow 2 52 % Nat.pow 2 11 := by
  unfold unpackExponent
  rw [BitVec.toNat_cast, BitVec.extractLsb_toNat, Nat.shiftRight_eq_div_pow]
  rfl

theorem toNat_unpackSign (b : BitVec Format.binary64.numBits) :
    (unpackSign b).toNat = b.toNat / Nat.pow 2 63 % 2 := by
  delta unpackSign
  rw [BitVec.toNat_cast, BitVec.extractLsb_toNat, Nat.shiftRight_eq_div_pow]
  rfl

/-- The three fields make up the whole pattern. -/
theorem toNat_packComponents (s : Sign) (e : BitVec 11) (m : BitVec 52) :
    (packComponents .binary64 s e m).toNat =
      (s.toBitVec.toNat * Nat.pow 2 11 + e.toNat) * Nat.pow 2 52 + m.toNat := by
  show (s.toBitVec ++ e ++ m).toNat = _
  rw [BitVec.toNat_append, BitVec.toNat_append, ← Nat.shiftLeft_add_eq_or_of_lt e.isLt,
    ← Nat.shiftLeft_add_eq_or_of_lt m.isLt, Nat.shiftLeft_eq, Nat.shiftLeft_eq]

theorem packComponents_unpack (b : BitVec Format.binary64.numBits) :
    packComponents .binary64 (Sign.ofBitVec (unpackSign b)) (unpackExponent b)
      (unpackMantissa b) = b := by
  have hsign : ∀ v : BitVec 1, (Sign.ofBitVec v).toBitVec = v := by decide
  have hlt : b.toNat < 18446744073709551616 := b.isLt
  refine BitVec.eq_of_toNat_eq ?_
  rw [toNat_packComponents, hsign, toNat_unpackSign, toNat_unpackExponent, toNat_unpackMantissa]
  show (b.toNat / 9223372036854775808 % 2 * 2048 + b.toNat / 4503599627370496 % 2048) *
    4503599627370496 + b.toNat % 4503599627370496 = b.toNat
  omega

theorem packComponents_eq {e : BitVec 11} {m : BitVec 52} (he : unpackExponent b = e)
    (hm : unpackMantissa b = m) :
    packComponents .binary64 (Sign.ofBitVec (unpackSign b)) e m = b := by
  rw [← he, ← hm, packComponents_unpack]

theorem log2_ne_of_mantissa {m : Nat} (h : m < Nat.pow 2 52) :
    m.log2 + 1 ≠ Format.binary64.mantissaBits := by
  by_cases hm : m = 0
  · rw [hm, Nat.log2_zero]
    decide
  · have hlt : m.log2 < 52 := (Nat.log2_lt hm).2 h
    show m.log2 + 1 ≠ 53
    omega

theorem log2_implicit {m : Nat} (h : m < Nat.pow 2 52) :
    (Nat.pow 2 52 + m).log2 + 1 = Format.binary64.mantissaBits := by
  have hne : Nat.pow 2 52 + m ≠ 0 := Nat.ne_of_gt (Nat.add_pos_left (by decide) m)
  have hlo : 52 ≤ (Nat.pow 2 52 + m).log2 := (Nat.le_log2 hne).2 (Nat.le_add_right _ m)
  have hhi : (Nat.pow 2 52 + m).log2 < 53 := by
    refine (Nat.log2_lt hne).2 ?_
    show Nat.pow 2 52 + m < Nat.pow 2 52 + Nat.pow 2 52
    exact Nat.add_lt_add_left h _
  show (Nat.pow 2 52 + m).log2 + 1 = 53
  omega

theorem pack_subnormal {m : Nat} {e : Int} (s : Sign) (hpos : 0 < m) (hm : m < Nat.pow 2 52)
    (he : e = -1074) :
    UnpackedFloat.pack .binary64 (.finite s m e hpos) =
      packComponents .binary64 s 0#_ (BitVec.ofNat _ m) := by
  subst he
  unfold UnpackedFloat.pack
  dsimp only
  rw [if_neg (by decide), if_neg (log2_ne_of_mantissa hm)]

theorem pack_normal {m : Nat} {e : Int} (field : Nat) (s : Sign) (hpos : 0 < m)
    (hm : m.log2 + 1 = Format.binary64.mantissaBits)
    (he : e = field - (Format.binary64.exponentBias + (52 : Nat))) (hfield : field < 2047) :
    UnpackedFloat.pack .binary64 (.finite s m e hpos) =
      packComponents .binary64 s (BitVec.ofNat _ field) (BitVec.ofNat _ m) := by
  have hbiased : (e + Format.binary64.exponentBias +
      Format.binary64.mantissaBitsWithoutImplicit).toNat = field := by
    rw [he]
    show ((field : Int) - (1023 + 52) + 1023 + 52).toNat = field
    omega
  unfold UnpackedFloat.pack
  dsimp only
  rw [hbiased, if_neg (show ¬ 2048 ≤ field + 1 by omega), if_pos hm]

/-- Packing what was unpacked gives the pattern back, unless it is no number. -/
theorem pack_unpack (h : unpackExponent b = -1#_ → unpackMantissa b = 0#_) :
    UnpackedFloat.pack .binary64 (UnpackedFloat.unpack .binary64 b) = b := by
  have hm : (unpackMantissa b).toNat < Nat.pow 2 52 := (unpackMantissa b).isLt
  have he : (unpackExponent b).toNat < 2048 := (unpackExponent b).isLt
  unfold UnpackedFloat.unpack
  dsimp only
  by_cases hinf : unpackExponent b = -1#_
  · rw [if_pos hinf, if_pos (h hinf)]
    exact packComponents_eq hinf (h hinf)
  · rw [if_neg hinf]
    by_cases hzero : unpackExponent b = 0#_
    · rw [if_pos hzero]
      by_cases hmantissa : unpackMantissa b = 0#_
      · rw [dif_pos hmantissa]
        exact packComponents_eq hzero hmantissa
      · rw [dif_neg hmantissa, pack_subnormal _ _ hm (by rw [hzero]; rfl)]
        exact packComponents_eq hzero (by rw [BitVec.ofNat_toNat, BitVec.setWidth_eq])
    · rw [if_neg hzero]
      have himplicit : (1#1 ++ unpackMantissa b).toNat = Nat.pow 2 52 + (unpackMantissa b).toNat := by
        rw [BitVec.toNat_append, ← Nat.shiftLeft_add_eq_or_of_lt (unpackMantissa b).isLt]
        rfl
      have hfield : (unpackExponent b).toNat < 2047 := by
        have hne : (unpackExponent b).toNat ≠ 2047 := fun heq => hinf (BitVec.eq_of_toNat_eq heq)
        omega
      have hlog : (1#1 ++ unpackMantissa b).toNat.log2 + 1 = Format.binary64.mantissaBits := by
        rw [himplicit]
        exact log2_implicit hm
      rw [pack_normal (unpackExponent b).toNat _ _ hlog rfl hfield]
      refine packComponents_eq ?_ ?_
      · rw [BitVec.ofNat_toNat, BitVec.setWidth_eq]
      · refine BitVec.eq_of_toNat_eq ?_
        rw [BitVec.toNat_ofNat, himplicit]
        show _ = (Nat.pow 2 52 + (unpackMantissa b).toNat) % Nat.pow 2 52
        rw [Nat.add_mod_left, Nat.mod_eq_of_lt hm]

/-! ### Which doubles are finite -/

theorem isFinite_unpack_of_eq (h : unpackExponent b = -1#_) :
    (UnpackedFloat.unpack .binary64 b).isFinite = false := by
  unfold UnpackedFloat.unpack
  dsimp only
  rw [if_pos h]
  split <;> rfl

theorem unpack_of_ne (h : unpackExponent b ≠ -1#_) :
    (UnpackedFloat.unpack .binary64 b).isFinite = true ∧
      (UnpackedFloat.unpack .binary64 b).isInf = false ∧
      (UnpackedFloat.unpack .binary64 b).isNaN = false := by
  unfold UnpackedFloat.unpack
  dsimp only
  rw [if_neg h]
  by_cases hzero : unpackExponent b = 0#_
  · rw [if_pos hzero]
    by_cases hmantissa : unpackMantissa b = 0#_
    · rw [dif_pos hmantissa]
      exact ⟨rfl, rfl, rfl⟩
    · rw [dif_neg hmantissa]
      exact ⟨rfl, rfl, rfl⟩
  · rw [if_neg hzero]
    exact ⟨rfl, rfl, rfl⟩

theorem exponent_eq_iff (b : BitVec Format.binary64.numBits) :
    unpackExponent b = -1#_ ↔ b.toNat / Nat.pow 2 52 % Nat.pow 2 11 = 2047 := by
  rw [← toNat_unpackExponent]
  exact ⟨fun h => by rw [h]; rfl, fun h => BitVec.eq_of_toNat_eq h⟩

/-- A double that is positive or zero: neither negative, not even zero, nor infinite, nor no
number. -/
def Plain (x : Float) : Prop :=
  x.isFinite = true ∧ x.toBits.toNat < Nat.pow 2 63

/-- Below the sign bit the infinite exponent starts at positive infinity. -/
theorem exponent_eq_iff_le {b : Nat} (h : b < Nat.pow 2 63) :
    b / Nat.pow 2 52 % Nat.pow 2 11 = 2047 ↔ infinityBits ≤ b := by
  show b / 4503599627370496 % 2048 = 2047 ↔ 9218868437227405312 ≤ b
  have hlt : b < 9223372036854775808 := h
  omega

theorem plain_iff : Plain x ↔ x.toBits.toNat < infinityBits := by
  have hunpack : x.isFinite = (UnpackedFloat.unpack .binary64 x.toBits.toBitVec).isFinite := rfl
  have hexponent := exponent_eq_iff x.toBits.toBitVec
  constructor
  · rintro ⟨hfinite, hsign⟩
    refine Nat.lt_of_not_le fun hle => ?_
    have hinf := hexponent.2 ((exponent_eq_iff_le hsign).2 hle)
    rw [hunpack, isFinite_unpack_of_eq hinf] at hfinite
    cases hfinite
  · intro hlt
    have hsign : x.toBits.toNat < Nat.pow 2 63 := Nat.lt_trans hlt (by decide)
    refine ⟨?_, hsign⟩
    rw [hunpack]
    exact (unpack_of_ne fun hinf =>
      Nat.not_le.2 hlt ((exponent_eq_iff_le hsign).1 (hexponent.1 hinf))).1

theorem Plain.exponent_ne (h : Plain x) :
    unpackExponent (show BitVec Format.binary64.numBits from x.toBits.toBitVec) ≠ -1#_ := by
  intro hinf
  have hfinite : x.isFinite = false := isFinite_unpack_of_eq hinf
  rw [h.1] at hfinite
  cases hfinite

theorem Plain.isInf (h : Plain x) : x.isInf = false :=
  (unpack_of_ne h.exponent_ne).2.1

theorem Plain.isNaN (h : Plain x) : x.isNaN = false :=
  (unpack_of_ne h.exponent_ne).2.2

/-! ### The double with given bits -/

theorem toBits_ofBits {b : UInt64} (h : b.toNat ≤ infinityBits) : (Float.ofBits b).toBits = b := by
  have hsign : b.toNat < Nat.pow 2 63 := Nat.lt_of_le_of_lt h (by decide)
  have hpack : UnpackedFloat.pack .binary64 (UnpackedFloat.unpack .binary64 b.toBitVec) =
      b.toBitVec := by
    refine pack_unpack fun hinf => BitVec.eq_of_toNat_eq ?_
    have hle := (exponent_eq_iff_le hsign).1 ((exponent_eq_iff b.toBitVec).1 hinf)
    have heq : b.toBitVec.toNat = infinityBits := Nat.le_antisymm h hle
    rw [toNat_unpackMantissa, heq]
    rfl
  show UInt64.ofBitVec _ = b
  rw [hpack]

end ReactiveGrid.Decimal
