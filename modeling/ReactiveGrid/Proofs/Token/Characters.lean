import ReactiveGrid.Text.Blank
import ReactiveGrid.Text.Numeric
import ReactiveGrid.Token

/-!
# Which token a character belongs to

A character that starts a name starts nothing else, and neither does a digit or a point. A blank and
the symbol of an operator or a parenthesis belong to no numeral and to no name, so that they end what
stands before them.
-/

namespace ReactiveGrid.Text

/-- Whether every range of the one list ends before or starts behind every range of the other. -/
def apart (rs qs : List (Nat × Nat)) : Bool :=
  rs.all fun r => qs.all fun q => decide (r.2 < q.1) || decide (q.2 < r.1)

theorem not_inRanges_of_apart {rs qs : List (Nat × Nat)} {n : Nat} (h : apart rs qs)
    (hn : inRanges qs n = true) : inRanges rs n = false := by
  refine Bool.eq_false_iff.2 fun hr => ?_
  obtain ⟨r, hr, hrle, hler⟩ := exists_range_of_inRanges hr
  obtain ⟨q, hq, hqle, hleq⟩ := exists_range_of_inRanges hn
  have hapart := List.all_eq_true.1 (List.all_eq_true.1 h r hr) q hq
  rw [Bool.or_eq_true, decide_eq_true_eq, decide_eq_true_eq] at hapart
  omega

theorem blank_apart_alphabetic : apart blankRanges alphabeticRanges := by decide +kernel

theorem blank_apart_numeric : apart blankRanges numericRanges := by decide +kernel

theorem digits_apart_alphabetic : apart [(0x30, 0x39)] alphabeticRanges := by decide +kernel

theorem blank_apart_digits : apart blankRanges [(0x30, 0x39)] := by decide +kernel

variable {c : Char}

theorem inRanges_digits : inRanges [(0x30, 0x39)] c.toNat = c.isDigit := by
  rw [Bool.eq_iff_iff, Char.isDigit_iff_toNat]
  by_cases h : c.toNat ≤ 0x39 <;> simp [inRanges, h]

theorem isBlank_of_isAlphabetic (h : isAlphabetic c = true) : isBlank c = false :=
  not_inRanges_of_apart blank_apart_alphabetic h

theorem isBlank_of_isNumeric (h : isNumeric c = true) : isBlank c = false :=
  not_inRanges_of_apart blank_apart_numeric h

theorem isDigit_of_isAlphabetic (h : isAlphabetic c = true) : c.isDigit = false := by
  rw [← inRanges_digits]
  exact not_inRanges_of_apart digits_apart_alphabetic h

theorem isBlank_of_isDigit (h : c.isDigit = true) : isBlank c = false := by
  rw [← inRanges_digits] at h
  exact not_inRanges_of_apart blank_apart_digits h

end ReactiveGrid.Text

namespace ReactiveGrid.Token
open Text

variable {c : Char} {t : Token}

theorem symbol_cases (h : ofSymbol? c = some t) :
    c = '(' ∨ c = ')' ∨ c = '+' ∨ c = '-' ∨ c = '*' ∨ c = '/' := by
  unfold ofSymbol? at h
  split at h
  · exact .inl rfl
  · exact .inr (.inl rfl)
  · unfold Operator.ofSymbol? at h
    split at h
    · simp
    · simp
    · simp
    · simp
    · cases h

theorem exists_ofSymbol?_iff :
    (∃ t, ofSymbol? c = some t) ↔ c ∈ ['+', '-', '*', '/', '(', ')'] := by
  constructor
  · rintro ⟨t, ht⟩
    rcases symbol_cases ht with rfl | rfl | rfl | rfl | rfl | rfl <;> decide
  · intro hc
    simp only [List.mem_cons, List.not_mem_nil, or_false] at hc
    rcases hc with rfl | rfl | rfl | rfl | rfl | rfl <;> exact ⟨_, rfl⟩

/-- Whether a character goes on with neither a numeral nor a name. -/
def isBreak (c : Char) : Bool :=
  !c.isDigit && c != '.' && !isAlphanumeric c

theorem isBreak_of_isBlank (h : isBlank c = true) : isBreak c = true := by
  have hdigit : c.isDigit = false := Bool.eq_false_iff.2 fun hc => by
    simp [isBlank_of_isDigit hc] at h
  have hpoint : c ≠ '.' := by
    rintro rfl
    revert h
    decide
  have halphabetic : isAlphabetic c = false := Bool.eq_false_iff.2 fun hc => by
    simp [isBlank_of_isAlphabetic hc] at h
  have hnumeric : isNumeric c = false := Bool.eq_false_iff.2 fun hc => by
    simp [isBlank_of_isNumeric hc] at h
  simp [isBreak, isAlphanumeric, hdigit, hpoint, halphabetic, hnumeric]

theorem isBreak_space : isBreak ' ' = true := isBreak_of_isBlank (by decide)

theorem symbol_ends (h : ofSymbol? c = some t) : isBreak c = true ∧ isBlank c = false := by
  rcases symbol_cases h with rfl | rfl | rfl | rfl | rfl | rfl <;> decide +kernel

theorem ofSymbol?_of_not_isBreak (h : isBreak c = false) : ofSymbol? c = none := by
  refine Option.eq_none_iff_forall_not_mem.2 fun t ht => ?_
  rw [(symbol_ends ht).1] at h
  cases h

theorem ofSymbol?_operator (op : Operator) : ofSymbol? op.symbol = some (.operator op) := by
  cases op <;> rfl

/-- A digit or a point starts a numeral. -/
theorem starts_numeral (h : c.isDigit ∨ c = '.') : isBlank c = false ∧ ofSymbol? c = none := by
  rcases h with h | rfl
  · refine ⟨isBlank_of_isDigit h, ofSymbol?_of_not_isBreak ?_⟩
    simp [isBreak, h]
  · decide

/-- An alphabetic character starts a name. -/
theorem starts_word (h : isAlphabetic c = true) :
    isBlank c = false ∧ ofSymbol? c = none ∧ (c.isDigit || c == '.') = false := by
  refine ⟨isBlank_of_isAlphabetic h, ofSymbol?_of_not_isBreak ?_, ?_⟩
  · simp [isBreak, isAlphanumeric, h]
  · have hpoint : c ≠ '.' := by
      rintro rfl
      revert h
      decide +kernel
    simp [isDigit_of_isAlphabetic h, hpoint]

end ReactiveGrid.Token
