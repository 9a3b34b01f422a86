import Mathlib.Algebra.Group.Nat.Defs
import ReactiveGrid.Proofs.Decimal.Numeral
import ReactiveGrid.Refusal

/-!
# Names of addresses

A name is a capital letter and then a number in decimal digits, which may have leading zeros. Reading it
and writing it are inverse to each other up to these zeros, for all addresses that have a name: those
past the last letter and the one row whose number is too large have only a written form, from which
nothing is read. Every address has a written form of its own.
-/

namespace ReactiveGrid.Address

/-- The text is a letter for the column, and then the digits of the row, counted from one. -/
def Spells (s : String) (a : Address) : Prop :=
  ∃ letter digits, s.toList = letter :: digits ∧
    'A'.toNat ≤ letter.toNat ∧ letter.toNat ≤ 'Z'.toNat ∧
    digits ≠ [] ∧ digits.all Char.isDigit = true ∧
    1 ≤ Nat.ofDigitChars 10 digits 0 ∧ Nat.ofDigitChars 10 digits 0 ≤ 2 ^ 32 - 1 ∧
    a = ⟨Nat.ofDigitChars 10 digits 0 - 1, letter.toNat - 'A'.toNat⟩

variable {s : String} {a b : Address} {letter : Char} {digits : List Char} {row column n : Nat}

/-! ### Reading -/

theorem column?_eq_some_iff : column? letter = some column ↔
    'A'.toNat ≤ letter.toNat ∧ letter.toNat ≤ 'Z'.toNat ∧ column = letter.toNat - 'A'.toNat := by
  have hupper : letter.isUpper = true ↔ 'A'.toNat ≤ letter.toNat ∧ letter.toNat ≤ 'Z'.toNat := by
    have hdecide : letter.isUpper = decide ('A'.val ≤ letter.val ∧ letter.val ≤ 'Z'.val) := rfl
    rw [hdecide, decide_eq_true_iff, UInt32.le_iff_toNat_le, UInt32.le_iff_toNat_le]
    rfl
  unfold column?
  by_cases h : letter.isUpper = true
  · rw [if_pos h, Option.some.injEq]
    rw [hupper] at h
    exact ⟨fun heq => ⟨h.1, h.2, heq.symm⟩, fun hletter => hletter.2.2.symm⟩
  · rw [if_neg h]
    rw [hupper] at h
    simp only [reduceCtorEq, false_iff]
    exact fun hletter => h ⟨hletter.1, hletter.2.1⟩

theorem rowOfDigits_eq_ok_iff : rowOfDigits s digits = .ok row ↔
    digits ≠ [] ∧ digits.all Char.isDigit = true ∧ Nat.ofDigitChars 10 digits 0 = row + 1 ∧
      row + 1 ≤ 2 ^ 32 - 1 := by
  have hmax : maxRowNumber = 2 ^ 32 - 1 := rfl
  unfold rowOfDigits
  by_cases hempty : digits = []
  · simp [hempty]
  by_cases hdigits : digits.all Char.isDigit = true
  · rw [if_neg (by simpa using hempty), if_pos hdigits]
    cases hvalue : Nat.ofDigitChars 10 digits 0 with
    | zero => simp
    | succ n =>
      dsimp only
      split
      · simp [hempty, hdigits]
        omega
      · simp [hempty, hdigits]
        omega
  · rw [if_neg (by simpa using hempty), if_neg hdigits]
    simp [hdigits]

theorem parse_eq_ok_iff_spells : parse s = .ok a ↔ Spells s a := by
  unfold parse Spells
  cases hs : s.toList with
  | nil => simp
  | cons letter digits =>
    dsimp only
    cases hcolumn : column? letter with
    | none =>
      simp only [reduceCtorEq, false_iff]
      rintro ⟨letter', digits', hcons, hA, hZ, -⟩
      obtain ⟨rfl, rfl⟩ := List.cons.inj hcons
      rw [column?_eq_some_iff.2 ⟨hA, hZ, rfl⟩] at hcolumn
      cases hcolumn
    | some column =>
      obtain ⟨hA, hZ, rfl⟩ := column?_eq_some_iff.1 hcolumn
      constructor
      · intro h
        cases hrow : rowOfDigits s digits with
        | error cause =>
          simp only [hrow] at h
          cases h
        | ok row =>
          simp only [hrow] at h
          cases h
          obtain ⟨hne, hall, hvalue, hle⟩ := rowOfDigits_eq_ok_iff.1 hrow
          refine ⟨letter, digits, rfl, hA, hZ, hne, hall, ?_, ?_, ?_⟩
          · omega
          · omega
          · rw [hvalue, Nat.add_sub_cancel]
      · rintro ⟨letter', digits', hcons, -, -, hne, hall, hpos, hle, rfl⟩
        obtain ⟨rfl, rfl⟩ := List.cons.inj hcons
        have hrow : rowOfDigits s digits = .ok (Nat.ofDigitChars 10 digits 0 - 1) :=
          rowOfDigits_eq_ok_iff.2 ⟨hne, hall, by omega, by omega⟩
        rw [hrow]
        rfl

-- Leading zeros are allowed; the letter is a capital, and rows start at one.
example : parse "B05" = .ok ⟨4, 1⟩ ∧ parse "b5" = .error (.noColumn 'b' "b5") ∧
    parse "A0" = .error (.rowZero "A0") ∧ parse "A+1" = .error (.badRow "A+1") :=
  ⟨rfl, rfl, rfl, rfl⟩

theorem ofName_eq_ok_iff : ofName s = .ok a ↔ Spells s a := by
  rw [← parse_eq_ok_iff_spells]
  cases hparse : parse s with
  | error cause => simp [ofName_of_parse_eq_error hparse]
  | ok b => simp [ofName_of_parse_eq_ok hparse]

theorem exists_ofName_eq_error (h : ¬ ∃ a, Spells s a) :
    ∃ cause, ofName s = .error (.invalidAddress cause) := by
  cases hparse : parse s with
  | error cause => exact ⟨cause, ofName_of_parse_eq_error hparse⟩
  | ok a => exact absurd ⟨a, parse_eq_ok_iff_spells.1 hparse⟩ h

/-! ### Written numbers -/

theorem exists_digitChar {c : Char} (h : c.isDigit = true) : ∃ d, d < 10 ∧ c = d.digitChar := by
  rw [Char.isDigit_iff_toNat] at h
  have hzero : '0'.toNat = 48 := rfl
  have hnine : '9'.toNat = 57 := rfl
  have hlt : c.toNat - 48 < 10 := by omega
  refine ⟨c.toNat - 48, hlt, Char.toNat_inj.1 ?_⟩
  rw [Nat.toNat_digitChar_of_lt_ten hlt]
  omega

/-- Digits behind a written number go on with it. -/
theorem toDigits_append_of_pos (hn : 0 < n) (h : digits.all Char.isDigit = true) :
    Nat.toDigits 10 n ++ digits = Nat.toDigits 10 (Nat.ofDigitChars 10 digits n) := by
  induction digits generalizing n with
  | nil => rw [List.append_nil, Nat.ofDigitChars_nil]
  | cons c cs ih =>
    rw [List.all_cons, Bool.and_eq_true] at h
    obtain ⟨d, hd, rfl⟩ := exists_digitChar h.1
    have happend : Nat.toDigits 10 n ++ [d.digitChar] = Nat.toDigits 10 (10 * n + d) := by
      rw [← Nat.toDigits_of_lt_base hd]
      exact Nat.toDigits_append_toDigits (by decide) hn hd
    rw [Nat.ofDigitChars_cons_digitChar_of_lt_ten hd, ← ih (by omega) h.2, ← happend,
      List.append_assoc, List.singleton_append]

/-- A number that is read and written again has lost its leading zeros. -/
theorem toDigits_ofDigitChars (h : digits.all Char.isDigit = true)
    (hpos : 1 ≤ Nat.ofDigitChars 10 digits 0) :
    Nat.toDigits 10 (Nat.ofDigitChars 10 digits 0) = digits.dropWhile (· == '0') := by
  induction digits with
  | nil =>
    rw [Nat.ofDigitChars_nil] at hpos
    omega
  | cons c cs ih =>
    rw [List.all_cons, Bool.and_eq_true] at h
    obtain ⟨d, hd, rfl⟩ := exists_digitChar h.1
    rw [Nat.ofDigitChars_cons_digitChar_of_lt_ten hd, Nat.mul_zero, Nat.zero_add] at hpos ⊢
    rcases Nat.eq_zero_or_pos d with rfl | hdpos
    · rw [List.dropWhile_cons_of_pos (by decide)]
      exact ih h.2 hpos
    · have hne : d.digitChar ≠ '0' := by
        rw [ne_eq, Nat.digitChar_eq_zero]
        omega
      rw [List.dropWhile_cons_of_neg (by simpa using hne), ← toDigits_append_of_pos hdpos h.2,
        Nat.toDigits_of_lt_base hd, List.singleton_append]

/-! ### Writing -/

/-- The letter of a column. -/
def letterAt (column : Nat) : Char :=
  Char.ofNat ('A'.toNat + column)

theorem toNat_letterAt (h : column < columnLimit) : (letterAt column).toNat = 'A'.toNat + column := by
  have hlimit : columnLimit = 26 := rfl
  have hA : 'A'.toNat = 65 := rfl
  have hvalid : ('A'.toNat + column).isValidChar := Or.inl (by omega)
  rw [letterAt, Char.ofNat, dif_pos hvalid]
  rfl

theorem toList_name_of_lt (h : a.column < columnLimit) :
    a.name.toList = letterAt a.column :: Nat.toDigits 10 (a.row + 1) := by
  unfold name letter?
  rw [if_pos h]
  exact String.toList_ofList

theorem toList_name_of_le (h : columnLimit ≤ a.column) :
    a.name.toList = 'R' :: (Nat.toDigits 10 (a.row + 1) ++
      'C' :: Nat.toDigits 10 (a.column + 1)) := by
  unfold name letter?
  rw [if_neg (by omega)]
  simp only [String.toList_append, Nat.toString_eq_repr, Nat.toList_repr, List.append_assoc]
  rfl

/-- What is read from a written form is the address itself, and only if it has a name. -/
theorem spells_name_iff :
    Spells a.name b ↔ b = a ∧ a.column < columnLimit ∧ a.row < 2 ^ 32 - 1 := by
  rcases Nat.lt_or_ge a.column columnLimit with hcolumn | hcolumn
  · have hletter := toNat_letterAt hcolumn
    have hvalue : Nat.ofDigitChars 10 (Nat.toDigits 10 (a.row + 1)) 0 = a.row + 1 :=
      Nat.ofDigitChars_ten_toDigits
    have haddress : (⟨a.row + 1 - 1, (letterAt a.column).toNat - 'A'.toNat⟩ : Address) = a := by
      rw [hletter, Nat.add_sub_cancel, Nat.add_sub_cancel_left]
    constructor
    · rintro ⟨letter, digits, hcons, -, -, -, -, -, hle, rfl⟩
      rw [toList_name_of_lt hcolumn] at hcons
      obtain ⟨rfl, rfl⟩ := List.cons.inj hcons
      rw [hvalue] at hle ⊢
      exact ⟨haddress, hcolumn, by omega⟩
    · rintro ⟨rfl, -, hrow⟩
      have hlimit : columnLimit = 26 := rfl
      have hZ : 'Z'.toNat = 'A'.toNat + 25 := rfl
      refine ⟨letterAt b.column, Nat.toDigits 10 (b.row + 1), toList_name_of_lt hcolumn, by omega,
        by omega, Nat.toDigits_ne_nil, Decimal.all_isDigit_toDigits _, ?_, ?_, ?_⟩
      · omega
      · omega
      · rw [hvalue, haddress]
  · constructor
    · rintro ⟨letter, digits, hcons, -, -, -, hall, -⟩
      rw [toList_name_of_le hcolumn] at hcons
      obtain ⟨-, rfl⟩ := List.cons.inj hcons
      rw [List.all_append, List.all_cons] at hall
      simp at hall
    · rintro ⟨-, hlt, -⟩
      omega

/-- The digits in front of a letter can be told from it. -/
theorem eq_of_append_letter {ds es ds' es' : List Char} (hds : ds.all Char.isDigit = true)
    (hds' : ds'.all Char.isDigit = true) (h : ds ++ 'C' :: es = ds' ++ 'C' :: es') :
    ds = ds' ∧ es = es' := by
  have hC : ¬ Char.isDigit 'C' = true := by decide
  have hleft := congrArg (List.takeWhile Char.isDigit) h
  rw [Decimal.takeWhile_append hds, Decimal.takeWhile_append hds', List.takeWhile_cons_of_neg hC,
    List.takeWhile_cons_of_neg hC, List.append_nil, List.append_nil] at hleft
  subst hleft
  exact ⟨rfl, (List.cons.inj (List.append_cancel_left h)).2⟩

theorem eq_of_toDigits_eq {m : Nat} (h : Nat.toDigits 10 (m + 1) = Nat.toDigits 10 (n + 1)) :
    m = n := by
  have hvalue := congrArg (fun digits => Nat.ofDigitChars 10 digits 0) h
  simp only [Nat.ofDigitChars_ten_toDigits] at hvalue
  exact Nat.succ.inj hvalue

theorem toList_name_ne (ha : a.column < columnLimit) (hb : columnLimit ≤ b.column) :
    a.name.toList ≠ b.name.toList := by
  intro h
  have hall := Decimal.all_isDigit_toDigits (a.row + 1)
  rw [toList_name_of_lt ha, toList_name_of_le hb] at h
  rw [(List.cons.inj h).2, List.all_append, List.all_cons] at hall
  simp at hall

theorem eq_of_name_eq (h : a.name = b.name) : a = b := by
  have hlist : a.name.toList = b.name.toList := congrArg String.toList h
  suffices hparts : a.row = b.row ∧ a.column = b.column by
    obtain ⟨hrow, hcolumn⟩ := hparts
    cases a
    cases b
    rw [Address.mk.injEq]
    exact ⟨hrow, hcolumn⟩
  rcases Nat.lt_or_ge a.column columnLimit with ha | ha
  · rcases Nat.lt_or_ge b.column columnLimit with hb | hb
    · rw [toList_name_of_lt ha, toList_name_of_lt hb] at hlist
      obtain ⟨hletter, hdigits⟩ := List.cons.inj hlist
      have hnat := congrArg Char.toNat hletter
      rw [toNat_letterAt ha, toNat_letterAt hb] at hnat
      exact ⟨eq_of_toDigits_eq hdigits, Nat.add_left_cancel hnat⟩
    · exact absurd hlist (toList_name_ne ha hb)
  · rcases Nat.lt_or_ge b.column columnLimit with hb | hb
    · exact absurd hlist.symm (toList_name_ne hb ha)
    · rw [toList_name_of_le ha, toList_name_of_le hb] at hlist
      obtain ⟨hrows, hcolumns⟩ := eq_of_append_letter (Decimal.all_isDigit_toDigits _)
        (Decimal.all_isDigit_toDigits _) (List.cons.inj hlist).2
      exact ⟨eq_of_toDigits_eq hrows, eq_of_toDigits_eq hcolumns⟩

/-- The written form of an address that was read is what was read, but for leading zeros. -/
theorem Spells.toList_name (h : Spells s a) : ∃ letter digits, s.toList = letter :: digits ∧
    a.name.toList = letter :: digits.dropWhile (· == '0') := by
  obtain ⟨letter, digits, hcons, hA, hZ, -, hall, hpos, -, rfl⟩ := h
  have hlimit : columnLimit = 26 := rfl
  have hrange : 'Z'.toNat = 'A'.toNat + 25 := rfl
  have hcolumn : letter.toNat - 'A'.toNat < columnLimit := by omega
  have hletter : letterAt (letter.toNat - 'A'.toNat) = letter := by
    refine Char.toNat_inj.1 ?_
    rw [toNat_letterAt hcolumn]
    omega
  refine ⟨letter, digits, hcons, ?_⟩
  rw [toList_name_of_lt hcolumn, Nat.sub_add_cancel hpos, toDigits_ofDigitChars hall hpos, hletter]

/-- A text is read as an address exactly if it spells that address, and else refused as no address.
An address is read from its written form exactly if its column has a letter and its row number is one.
No two addresses are written alike. The written form of an address that was read is the text that it was
read from, without the leading zeros of the row. -/
theorem names_read_and_written :
    (∀ s a, ofName s = .ok a ↔ Spells s a) ∧
    (∀ s, (¬ ∃ a, Spells s a) → ∃ cause, ofName s = .error (.invalidAddress cause)) ∧
    (∀ a : Address, a.column < 26 ∧ a.row < 2 ^ 32 - 1 → ofName a.name = .ok a) ∧
    (∀ a : Address, ¬ (a.column < 26 ∧ a.row < 2 ^ 32 - 1) →
      ∃ cause, ofName a.name = .error (.invalidAddress cause)) ∧
    (∀ a b : Address, a.name = b.name → a = b) ∧
    ∀ s a, ofName s = .ok a → ∃ letter digits, s.toList = letter :: digits ∧
      a.name.toList = letter :: digits.dropWhile (· == '0') := by
  refine ⟨fun s a => ofName_eq_ok_iff, fun s => exists_ofName_eq_error, ?_, ?_,
    fun a b => eq_of_name_eq, fun s a h => (ofName_eq_ok_iff.1 h).toList_name⟩
  · intro a ha
    exact ofName_eq_ok_iff.2 (spells_name_iff.2 ⟨rfl, ha⟩)
  · intro a ha
    refine exists_ofName_eq_error ?_
    rintro ⟨b, hb⟩
    exact ha (spells_name_iff.1 hb).2

end ReactiveGrid.Address
