import ReactiveGrid.Proofs.Decimal.RoundTrip
import ReactiveGrid.Proofs.Token.Steps

/-!
# What cutting a text into tokens reads

A lexeme that has been started takes in all characters that belong to it, and a blank or a symbol
completes it. Whatever the text, a completed numeral is positive, zero or positive infinity, since it
has no sign, and a completed name is an identifier.
-/

namespace ReactiveGrid.Token
open ReactiveGrid.Expr (Fault)
open Text

/-- An alphabetic character, and then alphabetic and numeric ones. -/
def IsIdentifier (s : String) : Prop :=
  ∃ c cs, s.toList = c :: cs ∧ isAlphabetic c = true ∧ cs.all isAlphanumeric = true

theorem isIdentifier_inf : IsIdentifier "inf" :=
  ⟨'i', ['n', 'f'], rfl, by decide +kernel, by decide +kernel⟩

theorem scanChars_eq_ok_iff {cs : List Char} {ts : List Token} :
    scanChars cs = .ok ts ↔ ∃ s m, cs.foldlM Scan.step {} = .ok s ∧ s.flush = .ok m ∧
      m.tokens.reverse = ts := by
  unfold scanChars
  rw [bind_eq_ok_iff]
  refine exists_congr fun s => ?_
  cases s.flush <;> simp [Except.map]

theorem scanChars_eq_error_iff {cs : List Char} {fault : Fault} :
    scanChars cs = .error fault ↔ cs.foldlM Scan.step {} = .error fault ∨
      ∃ s, cs.foldlM Scan.step {} = .ok s ∧ s.flush = .error fault := by
  unfold scanChars
  rw [bind_eq_error_iff]
  refine or_congr Iff.rfl (exists_congr fun s => ?_)
  cases s.flush <;> simp [Except.map]

namespace Scan

variable {s s' : Scan} {c : Char} {cs ds : List Char} {t : Token} {ts us : List Token}

/-- The tokens read, latest first, when nothing more belongs to what has been started. -/
def Settles (s : Scan) (ts : List Token) : Prop :=
  ∃ s', s.flush = .ok s' ∧ s'.lexeme = .none ∧ s'.tokens = ts

/-- The tokens read, latest first, and nothing has been started. -/
def Clear (s : Scan) (ts : List Token) : Prop :=
  s.lexeme = .none ∧ s.tokens = ts

theorem Clear.settles (h : s.Clear ts) : s.Settles ts :=
  ⟨s, flush_of_lexeme_none h.1, h⟩

theorem Settles.scanChars_eq (h : s.Settles ts) (hrun : cs.foldlM step {} = .ok s) :
    scanChars cs = .ok ts.reverse := by
  obtain ⟨m, hflush, -, htokens⟩ := h
  exact scanChars_eq_ok_iff.2 ⟨s, m, hrun, hflush, congrArg List.reverse htokens⟩

theorem Settles.step_space (h : s.Settles ts) : ∃ s', s.step ' ' = .ok s' ∧ s'.Clear ts := by
  obtain ⟨s', hflush, hlexeme, htokens⟩ := h
  have hblank : isBlank ' ' = true := by decide
  refine ⟨{ s' with position := s'.position + Char.utf8Size ' ' }, ?_, hlexeme, htokens⟩
  rw [step_of_isBreak isBreak_space, hflush]
  exact start_of_isBlank hblank

theorem Settles.step_symbol (h : s.Settles ts) (ht : ofSymbol? c = some t) :
    ∃ s', s.step c = .ok s' ∧ s'.Clear (t :: ts) := by
  obtain ⟨s', hflush, hlexeme, htokens⟩ := h
  refine ⟨{ s' with position := s'.position + c.utf8Size, tokens := t :: s'.tokens }, ?_, hlexeme,
    congrArg (t :: ·) htokens⟩
  rw [step_of_isBreak (symbol_ends ht).1, hflush]
  exact start_of_symbol ht

/-! ### Numerals and names -/

/-- A lexeme with a further character goes on as before; `lexeme` says which kind it is of. -/
theorem foldlM_lexeme_cons {lexeme : List Char → Lexeme} {chars : List Char}
    (hstep : s.step c = .ok { s with
      position := s.position + c.utf8Size, lexeme := lexeme (c :: chars) })
    (hrest : ∀ s₁ : Scan, s₁.lexeme = lexeme (c :: chars) → ∃ s', cs.foldlM step s₁ = .ok s' ∧
      s'.lexeme = lexeme (cs.reverse ++ c :: chars) ∧ s'.tokens = s₁.tokens) :
    ∃ s', (c :: cs).foldlM step s = .ok s' ∧ s'.lexeme = lexeme ((c :: cs).reverse ++ chars) ∧
      s'.tokens = s.tokens := by
  obtain ⟨s', hrun, hlexeme, htokens⟩ := hrest { s with
    position := s.position + c.utf8Size, lexeme := lexeme (c :: chars) } rfl
  refine ⟨s', ?_, ?_, htokens⟩
  · rw [foldlM_cons_of_ok hstep]
    exact hrun
  · rw [hlexeme, List.reverse_cons, List.append_assoc, List.singleton_append]

theorem settles_numeral {v : Float} (hs : s.lexeme = .numeral cs.reverse)
    (hv : Decimal.read? cs = some v) : s.Settles (.number v :: s.tokens) := by
  refine ⟨{ s with lexeme := .none, tokens := .number v :: s.tokens }, ?_, rfl, rfl⟩
  unfold flush
  rw [hs]
  dsimp only
  rw [List.reverse_reverse, hv]

theorem settles_word (hs : s.lexeme = .word cs.reverse) :
    s.Settles (.name (String.ofList cs) :: s.tokens) := by
  refine ⟨{ s with lexeme := .none, tokens := .name (String.ofList cs) :: s.tokens }, ?_, rfl, rfl⟩
  unfold flush
  rw [hs]
  dsimp only
  rw [List.reverse_reverse]

/-- A numeral goes on with digits and with a point, if there is none yet. -/
theorem foldlM_numeral (chars : List Char) (hs : s.lexeme = .numeral chars)
    (hcs : ∀ c ∈ cs, c.isDigit ∨ c = '.') (hpoint : chars.count '.' + cs.count '.' ≤ 1) :
    ∃ s', cs.foldlM step s = .ok s' ∧ s'.lexeme = .numeral (cs.reverse ++ chars) ∧
      s'.tokens = s.tokens := by
  induction cs generalizing s chars with
  | nil => exact ⟨s, rfl, hs, rfl⟩
  | cons c cs ih =>
    rw [List.count_cons] at hpoint
    have hgoes : c.isDigit ∨ c = '.' ∧ '.' ∉ chars := by
      refine (hcs c (List.mem_cons_self ..)).imp_right fun hc => ⟨hc, ?_⟩
      rw [hc, beq_self_eq_true, if_pos rfl] at hpoint
      exact List.count_eq_zero.1 (by omega)
    have hcount : (c :: chars).count '.' + cs.count '.' ≤ 1 := by
      rw [List.count_cons]
      omega
    exact foldlM_lexeme_cons (step_numeral hs hgoes) fun s₁ hs₁ =>
      ih (c :: chars) hs₁ (fun d hd => hcs d (List.mem_cons_of_mem _ hd)) hcount

theorem foldlM_word (chars : List Char) (hs : s.lexeme = .word chars)
    (hcs : cs.all isAlphanumeric = true) :
    ∃ s', cs.foldlM step s = .ok s' ∧ s'.lexeme = .word (cs.reverse ++ chars) ∧
      s'.tokens = s.tokens := by
  induction cs generalizing s chars with
  | nil => exact ⟨s, rfl, hs, rfl⟩
  | cons c cs ih =>
    rw [List.all_cons, Bool.and_eq_true] at hcs
    exact foldlM_lexeme_cons (step_word hs hcs.1) fun s₁ hs₁ => ih (c :: chars) hs₁ hcs.2

/-- Digits and a point at most make up a numeral that has been started, complete or not. -/
theorem Clear.run_points (h : s.Clear ts) (hchars : ∀ c ∈ cs, c.isDigit ∨ c = '.') (hne : cs ≠ [])
    (hpoint : cs.count '.' ≤ 1) :
    ∃ s', cs.foldlM step s = .ok s' ∧ s'.lexeme = .numeral cs.reverse ∧ s'.tokens = ts := by
  cases cs with
  | nil => exact absurd rfl hne
  | cons c cs =>
    have hstep : s.step c = .ok { s with
        position := s.position + c.utf8Size, lexeme := .numeral [c] } := by
      rw [step_of_lexeme_none h.1]
      exact start_numeral (hchars c (List.mem_cons_self ..))
    have hcount : [c].count '.' + cs.count '.' ≤ 1 := by
      rw [← List.count_append]
      exact hpoint
    obtain ⟨s', hrun, hlexeme, htokens⟩ := foldlM_lexeme_cons hstep fun s₁ hs₁ =>
      foldlM_numeral [c] hs₁ (fun d hd => hchars d (List.mem_cons_of_mem _ hd)) hcount
    rw [List.append_nil] at hlexeme
    exact ⟨s', hrun, hlexeme, htokens.trans h.2⟩

theorem Clear.run_numeral (h : s.Clear ts) (hcs : Decimal.IsNumeral cs) :
    ∃ s', cs.foldlM step s = .ok s' ∧ s'.lexeme = .numeral cs.reverse ∧ s'.tokens = ts :=
  h.run_points hcs.digit_or_point hcs.ne_nil hcs.count_point_le

theorem Clear.run_word (h : s.Clear ts) (hc : isAlphabetic c = true)
    (hcs : cs.all isAlphanumeric = true) :
    ∃ s', (c :: cs).foldlM step s = .ok s' ∧ s'.lexeme = .word (c :: cs).reverse ∧
      s'.tokens = ts := by
  have hstep : s.step c = .ok { s with
      position := s.position + c.utf8Size, lexeme := .word [c] } := by
    rw [step_of_lexeme_none h.1]
    exact start_word hc
  obtain ⟨s', hrun, hlexeme, htokens⟩ :=
    foldlM_lexeme_cons hstep fun s₁ hs₁ => foldlM_word [c] hs₁ hcs
  rw [List.append_nil] at hlexeme
  exact ⟨s', hrun, hlexeme, htokens.trans h.2⟩

/-- A numeral is read as its number. -/
theorem Clear.numeral {v : Float} (h : s.Clear ts) (hcs : Decimal.IsNumeral cs)
    (hv : Decimal.read? cs = some v) :
    ∃ s', cs.foldlM step s = .ok s' ∧ s'.Settles (.number v :: ts) := by
  obtain ⟨s', hrun, hlexeme, htokens⟩ := h.run_numeral hcs
  refine ⟨s', hrun, ?_⟩
  rw [← htokens]
  exact settles_numeral hlexeme hv

/-- An identifier is read as a name. -/
theorem Clear.word {text : String} (h : s.Clear ts) (htext : IsIdentifier text) :
    ∃ s', text.toList.foldlM step s = .ok s' ∧ s'.Settles (.name text :: ts) := by
  obtain ⟨c, cs, heq, hc, hcs⟩ := htext
  obtain ⟨s', hrun, hlexeme, htokens⟩ := h.run_word hc hcs
  rw [← heq] at hrun hlexeme
  refine ⟨s', hrun, ?_⟩
  have hsettles := settles_word hlexeme
  rwa [String.ofList_toList, htokens] at hsettles

/-! ### What any text is cut into -/

end Scan

/-- What a token can be that was read: a number that is not negative, or an identifier. -/
def Proper : Token → Prop
  | .number v => v.toBits.toNat ≤ Decimal.infinityBits
  | .name s => IsIdentifier s
  | _ => True

def Lexeme.Proper : Lexeme → Prop
  | .none => True
  | .numeral chars => ∀ c ∈ chars, c.isDigit ∨ c = '.'
  | .word chars =>
    ∃ c cs, chars.reverse = c :: cs ∧ isAlphabetic c = true ∧ cs.all isAlphanumeric = true

theorem proper_of_ofSymbol? {c : Char} {t : Token} (h : ofSymbol? c = some t) : t.Proper := by
  rcases symbol_cases h with rfl | rfl | rfl | rfl | rfl | rfl
  all_goals
    obtain rfl := Option.some.inj h
    trivial

namespace Scan

structure Proper (s : Scan) : Prop where
  lexeme : s.lexeme.Proper
  tokens : ∀ t ∈ s.tokens, t.Proper

theorem proper_start : Scan.Proper {} where
  lexeme := trivial
  tokens := fun _ ht => absurd ht List.not_mem_nil

namespace Proper

variable {s s' : Scan} {c : Char} {cs : List Char}

theorem push (h : s.Proper) {t : Token} (ht : t.Proper) : ∀ u ∈ t :: s.tokens, u.Proper := by
  intro u hu
  rcases List.mem_cons.1 hu with rfl | hu
  · exact ht
  · exact h.tokens u hu

theorem flushes (h : s.Proper) (hs : s.Flushes s') : s'.Proper := by
  have hlexeme := h.lexeme
  cases hs with
  | none => exact h
  | numeral chars hl v hv =>
    rw [hl] at hlexeme
    have hchars : ∀ c ∈ chars.reverse, c.isDigit ∨ c = '.' := fun c hc =>
      hlexeme c (List.mem_reverse.1 hc)
    exact ⟨trivial, h.push (t := .number v) (Decimal.toBits_le_of_read? hchars hv)⟩
  | word chars hl =>
    rw [hl] at hlexeme
    obtain ⟨c, cs, heq, hc, hcs⟩ := hlexeme
    exact ⟨trivial, h.push (t := .name _) ⟨c, cs, by rw [String.toList_ofList, heq], hc, hcs⟩⟩

theorem starts (h : s.Proper) (hs : s.Starts c s') : s'.Proper := by
  cases hs with
  | blank => exact ⟨h.lexeme, h.tokens⟩
  | symbol t ht => exact ⟨h.lexeme, h.push (proper_of_ofSymbol? ht)⟩
  | numeral hc =>
    refine ⟨?_, h.tokens⟩
    intro d hd
    rwa [List.mem_singleton.1 hd]
  | word hc => exact ⟨⟨c, [], rfl, hc, rfl⟩, h.tokens⟩

theorem reads (h : s.Proper) (hs : s.Reads c s') : s'.Proper := by
  have hlexeme := h.lexeme
  cases hs with
  | numeral chars hl hc =>
    rw [hl] at hlexeme
    exact ⟨List.forall_mem_cons.2 ⟨hc.imp_right (·.1), hlexeme⟩, h.tokens⟩
  | word chars hl hc =>
    rw [hl] at hlexeme
    obtain ⟨first, rest, heq, hfirst, hrest⟩ := hlexeme
    refine ⟨⟨first, rest ++ [c], ?_, hfirst, ?_⟩, h.tokens⟩
    · rw [List.reverse_cons, heq, List.cons_append]
    · rw [List.all_append, hrest]
      simpa using hc
  | fresh m s' _ hm hs' => exact (h.flushes hm).starts hs'

theorem run (h : s.Proper) (hs : cs.foldlM Scan.step s = .ok s') : s'.Proper :=
  foldlM_invariant (P := fun _ s => s.Proper) (fun _ _ _ _ hm hstep => hm.reads (reads_of_step hstep)) [] h hs

end Proper

end Scan

theorem proper_of_scan {text : String} {ts : List Token} (h : scan text = .ok ts) :
    ∀ t ∈ ts, t.Proper := by
  obtain ⟨s, m, hrun, hflush, rfl⟩ := scanChars_eq_ok_iff.1 h
  have hs : s.Proper := Scan.Proper.run Scan.proper_start hrun
  exact fun t ht => (hs.flushes (Scan.flushes_of_flush hflush)).tokens t (List.mem_reverse.1 ht)

end ReactiveGrid.Token
