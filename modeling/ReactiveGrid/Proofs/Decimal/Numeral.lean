import ReactiveGrid.Decimal.Printer
import ReactiveGrid.Decimal.Reader

/-!
# Numerals

A numeral is made of digits, at least one, with at most one point among them. It is read as the digits
without the point, scaled by the number of places behind it. What is written positionally is a numeral
that is read back as the same digits with the same scale, but for zeros that have been written out.
-/

namespace ReactiveGrid.Decimal

inductive IsNumeral : List Char → Prop where
  | whole (ds : List Char) (h : ds.all Char.isDigit) (hne : ds ≠ []) : IsNumeral ds
  | point (ds ps : List Char) (hds : ds.all Char.isDigit) (hps : ps.all Char.isDigit)
      (hne : ds ++ ps ≠ []) : IsNumeral (ds ++ '.' :: ps)

variable {cs ds ps : List Char}

theorem takeWhile_append (h : ds.all Char.isDigit) (rest : List Char) :
    (ds ++ rest).takeWhile Char.isDigit = ds ++ rest.takeWhile Char.isDigit :=
  List.takeWhile_append_of_pos (List.all_eq_true.1 h)

theorem dropWhile_append (h : ds.all Char.isDigit) (rest : List Char) :
    (ds ++ rest).dropWhile Char.isDigit = rest.dropWhile Char.isDigit :=
  List.dropWhile_append_of_pos (List.all_eq_true.1 h)

theorem takeWhile_all (h : ds.all Char.isDigit) : ds.takeWhile Char.isDigit = ds := by
  have hds := takeWhile_append h []
  rwa [List.append_nil, List.takeWhile_nil, List.append_nil] at hds

theorem dropWhile_all (h : ds.all Char.isDigit) : ds.dropWhile Char.isDigit = [] := by
  have hds := dropWhile_append h []
  rwa [List.append_nil] at hds

theorem numeral?_whole (h : ds.all Char.isDigit) (hne : ds ≠ []) :
    numeral? ds = some ⟨Nat.ofDigitChars 10 ds 0, 0⟩ := by
  unfold numeral?
  rw [takeWhile_all h, dropWhile_all h]
  simp [fraction, exponent?, hne]

theorem numeral?_point (hds : ds.all Char.isDigit) (hps : ps.all Char.isDigit)
    (hne : ds ++ ps ≠ []) :
    numeral? (ds ++ '.' :: ps) =
      some ⟨Nat.ofDigitChars 10 (ds ++ ps) 0, -(ps.length : Int)⟩ := by
  unfold numeral?
  rw [takeWhile_append hds, dropWhile_append hds]
  have hpoint : ¬ Char.isDigit '.' = true := by decide
  simp only [List.takeWhile_cons_of_neg hpoint, List.dropWhile_cons_of_neg hpoint, List.append_nil,
    fraction, takeWhile_all hps, dropWhile_all hps, exponent?, Option.map_some]
  rw [if_neg, Int.zero_sub]
  simpa using hne

/-! ### Reading -/

theorem ne_of_digit_or_point {c d : Char} (hc : c.isDigit ∨ c = '.')
    (hd : ¬ (d.isDigit ∨ d = '.')) : c ≠ d := by
  rintro rfl
  exact hd hc

/-- What does not start with a sign is read without one. -/
theorem read?_eq_unsigned? (h : ∀ c ∈ cs, c.isDigit ∨ c = '.') : read? cs = unsigned? cs := by
  cases cs with
  | nil => rfl
  | cons c cs =>
    have hc := h c (List.mem_cons_self ..)
    unfold read?
    split
    · next heq => exact absurd (List.cons.inj heq).1 (ne_of_digit_or_point hc (by decide))
    · next heq => exact absurd (List.cons.inj heq).1 (ne_of_digit_or_point hc (by decide))
    · rfl

theorem IsNumeral.digit_or_point (h : IsNumeral cs) : ∀ c ∈ cs, c.isDigit ∨ c = '.' := by
  intro c hc
  cases h with
  | whole _ hall => exact .inl (List.all_eq_true.1 hall c hc)
  | point ds ps hds hps =>
    rcases List.mem_append.1 hc with hc | hc
    · exact .inl (List.all_eq_true.1 hds c hc)
    · rcases List.mem_cons.1 hc with hc | hc
      · exact .inr hc
      · exact .inl (List.all_eq_true.1 hps c hc)

theorem IsNumeral.ne_nil (h : IsNumeral cs) : cs ≠ [] := by
  cases h with
  | whole _ _ hne => exact hne
  | point ds ps => exact List.append_ne_nil_of_right_ne_nil ds (List.cons_ne_nil _ _)

theorem count_point_of_all (h : ds.all Char.isDigit) : ds.count '.' = 0 := by
  refine List.count_eq_zero.2 fun hmem => ?_
  have hdigit := List.all_eq_true.1 h '.' hmem
  revert hdigit
  decide

theorem IsNumeral.count_point_le (h : IsNumeral cs) : cs.count '.' ≤ 1 := by
  cases h with
  | whole _ hall =>
    rw [count_point_of_all hall]
    exact Nat.zero_le 1
  | point ds ps hds hps =>
    have hcount : (ds ++ '.' :: ps).count '.' = 1 := by
      rw [List.count_append, List.count_cons_self, count_point_of_all hds, count_point_of_all hps]
    exact Nat.le_of_eq hcount

theorem all_isDigit (h : ∀ c ∈ ds, c.isDigit ∨ c = '.') (hpoint : '.' ∉ ds) :
    ds.all Char.isDigit := by
  refine List.all_eq_true.2 fun c hc => (h c hc).resolve_right ?_
  rintro rfl
  exact hpoint hc

/-- Digits with at most one point among them fall short of a numeral only where the point is all there
is. -/
theorem isNumeral_or_eq_point (h : ∀ c ∈ cs, c.isDigit ∨ c = '.') (hne : cs ≠ [])
    (hcount : cs.count '.' ≤ 1) : IsNumeral cs ∨ cs = ['.'] := by
  by_cases hpoint : '.' ∈ cs
  · obtain ⟨ds, ps, rfl⟩ := List.append_of_mem hpoint
    rw [List.count_append, List.count_cons_self] at hcount
    have hds : ds.all Char.isDigit :=
      all_isDigit (fun c hc => h c (List.mem_append_left _ hc)) (List.count_eq_zero.1 (by omega))
    have hps : ps.all Char.isDigit :=
      all_isDigit (fun c hc => h c (List.mem_append_right _ (List.mem_cons_of_mem _ hc)))
        (List.count_eq_zero.1 (by omega))
    by_cases hboth : ds ++ ps = []
    · obtain ⟨rfl, rfl⟩ := List.append_eq_nil_iff.1 hboth
      exact .inr rfl
    · exact .inl (.point ds ps hds hps hboth)
  · exact .inl (.whole cs (all_isDigit h hpoint) hne)

theorem IsNumeral.read? {d : Decimal} (h : IsNumeral cs) (hd : numeral? cs = some d) :
    Decimal.read? cs = some d.toFloat := by
  rw [read?_eq_unsigned? h.digit_or_point]
  unfold unsigned?
  rw [hd]

theorem toLower_eq_self {c : Char} (hc : c.isDigit ∨ c = '.') : c.toLower = c := by
  rcases hc with hc | rfl
  · simp only [Char.isDigit, Bool.and_eq_true, decide_eq_true_eq] at hc
    unfold Char.toLower
    rw [dif_neg]
    rintro ⟨hle, -⟩
    exact absurd (UInt32.le_trans hle hc.2) (by decide)
  · decide

/-- No digits or points make up a word. -/
theorem special?_eq_none (h : ∀ c ∈ cs, c.isDigit ∨ c = '.') : special? cs = none := by
  have hword : cs.map Char.toLower = cs := by
    rw [List.map_congr_left fun c hc => toLower_eq_self (h c hc)]
    exact List.map_id cs
  have hletter : ∀ c : Char, ¬ (c.isDigit ∨ c = '.') → ∀ rest, cs ≠ c :: rest := by
    rintro c hc rest rfl
    exact hc (h c (List.mem_cons_self ..))
  unfold special?
  simp only [hword]
  rw [if_neg, if_neg]
  · exact hletter _ (by decide) _
  · rintro (heq | heq)
    · exact hletter _ (by decide) _ heq
    · exact hletter _ (by decide) _ heq

/-- An exponent starts with a letter. -/
theorem eq_nil_of_exponent? {e : Int} (h : ∀ c ∈ cs, c.isDigit ∨ c = '.')
    (he : exponent? cs = some e) : cs = [] := by
  cases cs with
  | nil => rfl
  | cons c cs =>
    have hc := h c (List.mem_cons_self ..)
    simp only [exponent?] at he
    rw [if_neg] at he
    · cases he
    · rintro (heq | heq)
      · exact ne_of_digit_or_point hc (by decide) heq
      · exact ne_of_digit_or_point hc (by decide) heq

theorem isNumeral_of_numeral? {d : Decimal} (h : ∀ c ∈ cs, c.isDigit ∨ c = '.')
    (hd : numeral? cs = some d) : IsNumeral cs := by
  have hsplit : cs.takeWhile Char.isDigit ++ cs.dropWhile Char.isDigit = cs :=
    List.takeWhile_append_dropWhile
  have hwhole : (cs.takeWhile Char.isDigit).all Char.isDigit := List.all_takeWhile
  have hmem : ∀ c ∈ cs.dropWhile Char.isDigit, c.isDigit ∨ c = '.' := fun c hc =>
    h c ((List.dropWhile_sublist _).mem hc)
  unfold numeral? at hd
  cases hrest : cs.dropWhile Char.isDigit with
  | nil =>
    rw [hrest, List.append_nil] at hsplit
    simp only [hrest, hsplit, fraction, List.isEmpty_nil, Bool.and_true] at hd
    split at hd
    · cases hd
    · next hne =>
      rw [hsplit] at hwhole
      exact .whole cs hwhole (by simpa using hne)
  | cons c rest =>
    rw [hrest] at hmem
    have hc : c.isDigit = false := by
      have hhead := List.head_dropWhile_not Char.isDigit (l := cs) (by simp [hrest])
      simpa [hrest] using hhead
    obtain rfl : c = '.' := (hmem c (List.mem_cons_self ..)).resolve_left (by simp [hc])
    simp only [hrest, fraction] at hd
    split at hd
    · cases hd
    · next hne =>
      obtain ⟨e, he, -⟩ := Option.map_eq_some_iff.1 hd
      have hplaces : rest.dropWhile Char.isDigit = [] := eq_nil_of_exponent? (fun c hc =>
        hmem c (List.mem_cons_of_mem _ ((List.dropWhile_sublist _).mem hc))) he
      have hall : rest.all Char.isDigit := by
        rw [← List.takeWhile_append_dropWhile (p := Char.isDigit) (l := rest), hplaces,
          List.append_nil]
        exact List.all_takeWhile
      rw [takeWhile_all hall] at hne
      rw [← hsplit, hrest]
      exact .point _ rest hwhole hall (by simpa using hne)

/-- Of what is made of digits and points, only numerals are read. -/
theorem isNumeral_of_read? {v : Float} (h : ∀ c ∈ cs, c.isDigit ∨ c = '.')
    (hv : Decimal.read? cs = some v) : IsNumeral cs := by
  rw [read?_eq_unsigned? h] at hv
  unfold unsigned? at hv
  cases hd : numeral? cs with
  | none =>
    simp only [hd, special?_eq_none h] at hv
    cases hv
  | some d => exact isNumeral_of_numeral? h hd

-- A point alone is no numeral, and neither are two points with digits around them.
example : Decimal.read? ['.'] = none ∧ Decimal.read? ['1', '.', '2', '.', '3'] = none := by decide

theorem IsNumeral.exists_read (h : IsNumeral cs) : ∃ v, Decimal.read? cs = some v := by
  cases h with
  | whole _ hall hne => exact ⟨_, IsNumeral.read? (.whole _ hall hne) (numeral?_whole hall hne)⟩
  | point ds ps hds hps hne =>
    exact ⟨_, IsNumeral.read? (.point ds ps hds hps hne) (numeral?_point hds hps hne)⟩

/-! ### What is written positionally -/

theorem all_isDigit_toDigits (n : Nat) : (Nat.toDigits 10 n).all Char.isDigit :=
  List.all_eq_true.2 fun _ hc => Nat.isDigit_of_mem_toDigits (by decide) (by decide) hc

theorem all_isDigit_zeros (n : Nat) : (List.replicate n '0').all Char.isDigit :=
  List.all_eq_true.2 fun c hc => by
    rw [List.eq_of_mem_replicate hc]
    rfl

/-- The digits of a decimal with all its places, and a zero before the point if there is none. -/
def padded (d : Decimal) : List Char :=
  List.replicate ((-d.exponent).toNat + 1 - (Nat.toDigits 10 d.digits).length) '0' ++
    Nat.toDigits 10 d.digits

theorem all_isDigit_padded (d : Decimal) : (padded d).all Char.isDigit := by
  unfold padded
  rw [List.all_append, all_isDigit_zeros, all_isDigit_toDigits]
  rfl

theorem ofDigitChars_padded (d : Decimal) : Nat.ofDigitChars 10 (padded d) 0 = d.digits := by
  unfold padded
  rw [Nat.ofDigitChars_append, Nat.ofDigitChars_replicate_zero, Nat.mul_zero,
    Nat.ofDigitChars_ten_toDigits]

theorem lt_length_padded (d : Decimal) : (-d.exponent).toNat < (padded d).length := by
  unfold padded
  rw [List.length_append, List.length_replicate]
  omega

theorem positional_of_nonneg {d : Decimal} (h : 0 ≤ d.exponent) :
    (positional d).all Char.isDigit ∧ positional d ≠ [] ∧
      Nat.ofDigitChars 10 (positional d) 0 = d.digits * Nat.pow 10 d.exponent.toNat := by
  have heq : positional d =
      Nat.toDigits 10 d.digits ++ List.replicate d.exponent.toNat '0' := if_pos h
  rw [heq]
  refine ⟨?_, List.append_ne_nil_of_left_ne_nil Nat.toDigits_ne_nil _, ?_⟩
  · rw [List.all_append, all_isDigit_toDigits, all_isDigit_zeros]
    rfl
  · rw [Nat.ofDigitChars_append, Nat.ofDigitChars_ten_toDigits, Nat.ofDigitChars_replicate_zero,
      Nat.mul_comm]
    rfl

theorem positional_of_neg {d : Decimal} (h : ¬ 0 ≤ d.exponent) :
    ∃ ds ps, positional d = ds ++ '.' :: ps ∧ ds.all Char.isDigit ∧ ps.all Char.isDigit ∧
      ds ++ ps ≠ [] ∧ Nat.ofDigitChars 10 (ds ++ ps) 0 = d.digits ∧
      -(ps.length : Int) = d.exponent := by
  have hall := List.all_eq_true.1 (all_isDigit_padded d)
  have hlt := lt_length_padded d
  have hwhole := List.take_append_drop ((padded d).length - (-d.exponent).toNat) (padded d)
  refine ⟨_, _, if_neg h, ?_, ?_, ?_, ?_, ?_⟩
  · exact List.all_eq_true.2 fun c hc => hall c (List.mem_of_mem_take hc)
  · exact List.all_eq_true.2 fun c hc => hall c (List.mem_of_mem_drop hc)
  · exact fun hnil => absurd (congrArg List.length (hwhole.symm.trans hnil)) (by
      rw [List.length_nil]
      omega)
  · exact (congrArg (Nat.ofDigitChars 10 · 0) hwhole).trans (ofDigitChars_padded d)
  · have hlength : ((padded d).drop ((padded d).length - (-d.exponent).toNat)).length =
        (-d.exponent).toNat := by
      rw [List.length_drop]
      omega
    refine (congrArg (fun n : Nat => -(n : Int)) hlength).trans ?_
    omega

theorem isNumeral_positional (d : Decimal) : IsNumeral (positional d) := by
  by_cases h : 0 ≤ d.exponent
  · obtain ⟨hall, hne, -⟩ := positional_of_nonneg h
    exact .whole _ hall hne
  · obtain ⟨ds, ps, heq, hds, hps, hne, -, -⟩ := positional_of_neg h
    rw [heq]
    exact .point ds ps hds hps hne

/-- What is written positionally is read as it was, or with its zeros written out. -/
theorem numeral?_positional (d : Decimal) :
    numeral? (positional d) = some (if 0 ≤ d.exponent then
      ⟨d.digits * Nat.pow 10 d.exponent.toNat, 0⟩ else d) := by
  by_cases h : 0 ≤ d.exponent
  · obtain ⟨hall, hne, hvalue⟩ := positional_of_nonneg h
    rw [numeral?_whole hall hne, hvalue, if_pos h]
  · obtain ⟨ds, ps, heq, hds, hps, hne, hvalue, hplaces⟩ := positional_of_neg h
    rw [heq, numeral?_point hds hps hne, hvalue, hplaces, if_neg h]

end ReactiveGrid.Decimal
