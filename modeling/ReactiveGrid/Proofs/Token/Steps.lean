import ReactiveGrid.Proofs.Folds
import ReactiveGrid.Proofs.Token.Characters
import ReactiveGrid.Text.Part
import ReactiveGrid.Token.Lexer

/-!
# What reading a character does

A character goes on with what has been started, or it completes that and is read afresh: as a blank, as
a symbol or as the start of a numeral or a name. Every other character is refused.
-/

namespace ReactiveGrid.Token
open ReactiveGrid.Expr (Fault)
open Text

/-- A character that starts no token and does not part tokens either. -/
structure IsStray (c : Char) : Prop where
  not_blank : isBlank c = false
  not_symbol : c ∉ ['+', '-', '*', '/', '(', ')']
  not_digit : c.isDigit = false
  not_point : c ≠ '.'
  not_alphabetic : isAlphabetic c = false

/-- Whether what has been started may not end before a character. -/
def Lexeme.takes : Lexeme → Char → Bool
  | .none, _ => false
  | .numeral _, c => c.isDigit || c == '.'
  | .word _, c => isAlphanumeric c

theorem not_takes_of_isBreak {c : Char} (hc : isBreak c = true) (l : Lexeme) :
    l.takes c = false := by
  simp only [isBreak, Bool.and_eq_true, Bool.not_eq_true', bne_iff_ne] at hc
  obtain ⟨⟨hdigit, hpoint⟩, hword⟩ := hc
  cases l with
  | none => rfl
  | numeral chars => simp [Lexeme.takes, hdigit, hpoint]
  | word chars => exact hword

namespace Scan

/-- The ways in which what has been started is completed, and what that leads to. -/
inductive Flushes (s : Scan) : Scan → Prop where
  | none (hs : s.lexeme = .none) : Flushes s s
  | numeral (chars : List Char) (hs : s.lexeme = .numeral chars) (v : Float)
      (hv : Decimal.read? chars.reverse = some v) :
      Flushes s { s with lexeme := .none, tokens := .number v :: s.tokens }
  | word (chars : List Char) (hs : s.lexeme = .word chars) :
      Flushes s { s with
        lexeme := .none, tokens := .name (String.ofList chars.reverse) :: s.tokens }

/-- The ways in which a character is read afresh. -/
inductive Starts (s : Scan) (c : Char) : Scan → Prop where
  | blank (hc : isBlank c = true) : Starts s c { s with position := s.position + c.utf8Size }
  | symbol (t : Token) (ht : ofSymbol? c = some t) :
      Starts s c { s with position := s.position + c.utf8Size, tokens := t :: s.tokens }
  | numeral (hc : c.isDigit ∨ c = '.') :
      Starts s c { s with position := s.position + c.utf8Size, lexeme := .numeral [c] }
  | word (hc : isAlphabetic c = true) :
      Starts s c { s with position := s.position + c.utf8Size, lexeme := .word [c] }

/-- The ways in which a character is read. -/
inductive Reads (s : Scan) (c : Char) : Scan → Prop where
  | numeral (chars : List Char) (hs : s.lexeme = .numeral chars)
      (hc : c.isDigit ∨ c = '.' ∧ '.' ∉ chars) :
      Reads s c { s with
        position := s.position + c.utf8Size, lexeme := .numeral (c :: chars) }
  | word (chars : List Char) (hs : s.lexeme = .word chars) (hc : isAlphanumeric c = true) :
      Reads s c { s with position := s.position + c.utf8Size, lexeme := .word (c :: chars) }
  | fresh (m s' : Scan) (hc : s.lexeme.takes c = false) (hm : Flushes s m) (hs' : Starts m c s') :
      Reads s c s'

/-- The ways in which a character is refused. -/
inductive Refuses (s : Scan) (c : Char) : Fault → Prop where
  | secondPoint (chars : List Char) (hs : s.lexeme = .numeral chars) (hc : c = '.')
      (hpoint : '.' ∈ chars) : Refuses s c (.unexpectedCharacter c s.position)
  | incomplete (hc : s.lexeme.takes c = false) (fault : Fault) (hs : s.flush = .error fault) :
      Refuses s c fault
  | stray (hc : s.lexeme.takes c = false) (m : Scan) (hm : Flushes s m) (hstray : IsStray c) :
      Refuses s c (.unexpectedCharacter c s.position)

variable {s s' m : Scan} {c : Char} {cs : List Char} {t : Token} {fault : Fault}

/-! ### Completing -/

theorem flushes_of_flush (h : s.flush = .ok m) : s.Flushes m := by
  unfold flush at h
  split at h
  · next hs =>
    cases h
    exact .none hs
  · next chars hs =>
    split at h
    · next v hv =>
      cases h
      exact .numeral chars hs v hv
    · cases h
  · next chars hs =>
    cases h
    exact .word chars hs

theorem Flushes.lexeme_eq (h : s.Flushes m) : m.lexeme = .none := by
  cases h with
  | none hs => exact hs
  | numeral => rfl
  | word => rfl

theorem Flushes.position_eq (h : s.Flushes m) : m.position = s.position := by
  cases h <;> rfl

theorem flush_of_lexeme_none (h : s.lexeme = .none) : s.flush = .ok s := by
  unfold flush
  rw [h]

/-- Only a numeral can fail to be completed. -/
theorem flush_eq_error (h : s.flush = .error fault) :
    ∃ chars, s.lexeme = .numeral chars ∧ Decimal.read? chars.reverse = none ∧
      fault = .malformed (.invalidNumber (String.ofList chars.reverse)) := by
  unfold flush at h
  split at h
  · cases h
  · next chars hs =>
    split at h
    · cases h
    · next hv =>
      cases h
      exact ⟨chars, hs, hv, rfl⟩
  · cases h

/-! ### Starting -/

theorem start_of_isBlank (hc : isBlank c = true) :
    s.start c = .ok { s with position := s.position + c.utf8Size } :=
  if_pos hc

theorem start_of_symbol (ht : ofSymbol? c = some t) :
    s.start c = .ok { s with position := s.position + c.utf8Size, tokens := t :: s.tokens } := by
  unfold start
  rw [if_neg (Bool.eq_false_iff.1 (symbol_ends ht).2), ht]

theorem start_numeral (hc : c.isDigit ∨ c = '.') :
    s.start c = .ok { s with position := s.position + c.utf8Size, lexeme := .numeral [c] } := by
  obtain ⟨hblank, hsymbol⟩ := starts_numeral hc
  have hnumeral : (c.isDigit || c == '.') = true := by simpa using hc
  unfold start
  rw [if_neg (Bool.eq_false_iff.1 hblank), hsymbol]
  exact if_pos hnumeral

theorem start_word (hc : isAlphabetic c = true) :
    s.start c = .ok { s with position := s.position + c.utf8Size, lexeme := .word [c] } := by
  obtain ⟨hblank, hsymbol, hnumeral⟩ := starts_word hc
  unfold start
  rw [if_neg (Bool.eq_false_iff.1 hblank), hsymbol]
  dsimp only
  rw [if_neg (Bool.eq_false_iff.1 hnumeral), if_pos hc]

theorem start_of_isStray (hc : IsStray c) :
    s.start c = .error (.unexpectedCharacter c s.position) := by
  have hsymbol : ofSymbol? c = none :=
    Option.eq_none_iff_forall_not_mem.2 fun t ht => hc.not_symbol (exists_ofSymbol?_iff.1 ⟨t, ht⟩)
  unfold start
  simp [hc.not_blank, hsymbol, hc.not_digit, hc.not_point, hc.not_alphabetic]

theorem starts_of_start (h : s.start c = .ok s') : s.Starts c s' := by
  unfold start at h
  dsimp only at h
  split at h
  · next hc =>
    cases h
    exact .blank hc
  · split at h
    · next t ht =>
      cases h
      exact .symbol t ht
    · split at h
      · next hc =>
        cases h
        exact .numeral (by simpa using hc)
      · split at h
        · next hc =>
          cases h
          exact .word hc
        · cases h

theorem isStray_of_start (h : s.start c = .error fault) : IsStray c := by
  have hstarts : ∀ s', s.start c ≠ .ok s' := by
    intro s' hs'
    rw [hs'] at h
    cases h
  refine ⟨?_, ?_, ?_, ?_, ?_⟩
  · exact Bool.eq_false_iff.2 fun hc => hstarts _ (start_of_isBlank hc)
  · intro hc
    obtain ⟨t, ht⟩ := exists_ofSymbol?_iff.2 hc
    exact hstarts _ (start_of_symbol ht)
  · exact Bool.eq_false_iff.2 fun hc => hstarts _ (start_numeral (.inl hc))
  · exact fun hc => hstarts _ (start_numeral (.inr hc))
  · exact Bool.eq_false_iff.2 fun hc => hstarts _ (start_word hc)

theorem Starts.position_eq (h : s.Starts c s') : s'.position = s.position + c.utf8Size := by
  cases h <;> rfl

/-! ### Reading -/

theorem step_of_lexeme_none (h : s.lexeme = .none) (c : Char) : s.step c = s.start c := by
  unfold step
  rw [h]

theorem step_of_not_takes (hc : s.lexeme.takes c = false) : s.step c = s.flush.bind (·.start c) := by
  unfold step
  split
  · next h =>
    rw [flush_of_lexeme_none h]
    rfl
  · next chars h =>
    rw [h, Lexeme.takes, Bool.or_eq_false_iff] at hc
    simp [hc.1, hc.2]
  · next chars h =>
    rw [h, Lexeme.takes] at hc
    simp [hc]

theorem step_of_isBreak (hc : isBreak c = true) : s.step c = s.flush.bind (·.start c) :=
  step_of_not_takes (not_takes_of_isBreak hc s.lexeme)

theorem step_numeral {chars : List Char} (hs : s.lexeme = .numeral chars)
    (hc : c.isDigit ∨ c = '.' ∧ '.' ∉ chars) :
    s.step c = .ok { s with
      position := s.position + c.utf8Size, lexeme := .numeral (c :: chars) } := by
  have hgoes : (c.isDigit || (c == '.' && !chars.contains '.')) = true := by
    simpa using hc
  unfold step
  rw [hs]
  exact if_pos hgoes

theorem step_word {chars : List Char} (hs : s.lexeme = .word chars)
    (hc : isAlphanumeric c = true) :
    s.step c = .ok { s with
      position := s.position + c.utf8Size, lexeme := .word (c :: chars) } := by
  unfold step
  rw [hs]
  exact if_pos hc

theorem step_secondPoint {chars : List Char} (hs : s.lexeme = .numeral chars)
    (hpoint : '.' ∈ chars) : s.step '.' = .error (.unexpectedCharacter '.' s.position) := by
  have hstops : ¬ ('.'.isDigit || ('.' == '.' && !chars.contains '.')) = true := by
    simp [hpoint]
  unfold step
  rw [hs]
  exact (if_neg hstops).trans (if_pos (by decide))

theorem takes_cases (s : Scan) (c : Char) :
    s.lexeme.takes c = false ∨
      (∃ chars, s.lexeme = .numeral chars ∧ (c.isDigit ∨ c = '.' ∧ '.' ∉ chars)) ∨
      (∃ chars, s.lexeme = .numeral chars ∧ c = '.' ∧ '.' ∈ chars) ∨
      ∃ chars, s.lexeme = .word chars ∧ isAlphanumeric c = true := by
  cases hc : s.lexeme.takes c with
  | false => exact .inl rfl
  | true =>
    cases hs : s.lexeme with
    | none =>
      rw [hs] at hc
      cases hc
    | numeral chars =>
      rw [hs, Lexeme.takes, Bool.or_eq_true, beq_iff_eq] at hc
      rcases hc with hdigit | hpoint
      · exact .inr (.inl ⟨chars, rfl, .inl hdigit⟩)
      · by_cases hmem : '.' ∈ chars
        · exact .inr (.inr (.inl ⟨chars, rfl, hpoint, hmem⟩))
        · exact .inr (.inl ⟨chars, rfl, .inr ⟨hpoint, hmem⟩⟩)
    | word chars =>
      rw [hs] at hc
      exact .inr (.inr (.inr ⟨chars, rfl, hc⟩))

theorem reads_of_step (h : s.step c = .ok s') : s.Reads c s' := by
  rcases takes_cases s c with hc | ⟨chars, hs, hc⟩ | ⟨chars, hs, rfl, hmem⟩ | ⟨chars, hs, hc⟩
  · rw [step_of_not_takes hc] at h
    obtain ⟨m, hflush, hstart⟩ := bind_eq_ok_iff.1 h
    exact .fresh m s' hc (flushes_of_flush hflush) (starts_of_start hstart)
  · rw [step_numeral hs hc] at h
    cases h
    exact .numeral chars hs hc
  · rw [step_secondPoint hs hmem] at h
    cases h
  · rw [step_word hs hc] at h
    cases h
    exact .word chars hs hc

theorem refuses_of_step (h : s.step c = .error fault) : s.Refuses c fault := by
  rcases takes_cases s c with hc | ⟨chars, hs, hc⟩ | ⟨chars, hs, rfl, hmem⟩ | ⟨chars, hs, hc⟩
  · rw [step_of_not_takes hc] at h
    rcases bind_eq_error_iff.1 h with hflush | ⟨m, hflush, hstart⟩
    · exact .incomplete hc fault hflush
    · have hm := flushes_of_flush hflush
      have hstray := isStray_of_start hstart
      rw [start_of_isStray hstray, hm.position_eq] at hstart
      cases hstart
      exact .stray hc m hm hstray
  · rw [step_numeral hs hc] at h
    cases h
  · rw [step_secondPoint hs hmem] at h
    cases h
    exact .secondPoint chars hs rfl hmem
  · rw [step_word hs hc] at h
    cases h

theorem Reads.position_eq (h : s.Reads c s') : s'.position = s.position + c.utf8Size := by
  cases h with
  | numeral => rfl
  | word => rfl
  | fresh m s' hc hm hs' => rw [hs'.position_eq, hm.position_eq]

/-- The position is how many bytes have been read. -/
theorem position_foldlM (h : cs.foldlM step s = .ok s') :
    s'.position = s.position + byteLength cs := by
  refine foldlM_invariant (P := fun front m => m.position = s.position + byteLength front)
    ?_ [] rfl h
  intro front m c m' hm hstep
  rw [(reads_of_step hstep).position_eq, hm, byteLength_append, Nat.add_assoc]
  rfl

end Scan

end ReactiveGrid.Token
