import Mathlib.Data.List.Basic
import ReactiveGrid.Proofs.Token.Reading

/-!
# The cut of a text

A text is cut into pieces: blank characters, symbols, numerals and names. A numeral ends where no digit
and no point follows, and a name where no alphabetic or numeric character follows. Main statement: a
text is read exactly if it can be cut, it is read as the tokens of its pieces that are not blank, and
there is no other way to cut it.
-/

namespace ReactiveGrid.Token
open Text

inductive Piece where
  | blank (c : Char)
  | symbol (c : Char)
  | numeral (chars : List Char)
  | word (chars : List Char)

namespace Piece

def chars : Piece → List Char
  | blank c => [c]
  | symbol c => [c]
  | numeral cs => cs
  | word cs => cs

def token? : Piece → Option Token
  | blank _ => none
  | symbol c => ofSymbol? c
  | numeral cs => (Decimal.read? cs).map number
  | word cs => some (name (String.ofList cs))

/-- What the characters of a piece have to be. -/
def WellFormed : Piece → Prop
  | blank c => isBlank c = true
  | symbol c => c ∈ ['+', '-', '*', '/', '(', ')']
  | numeral cs => Decimal.IsNumeral cs
  | word cs => ∃ c rest, cs = c :: rest ∧ isAlphabetic c = true ∧ rest.all isAlphanumeric = true

/-- Whether a piece may not end before a character. -/
def takes : Piece → Char → Bool
  | numeral _, c => c.isDigit || c == '.'
  | word _, c => isAlphanumeric c
  | _, _ => false

def EndsBefore (p : Piece) (rest : List Char) : Prop :=
  ∀ c ∈ rest.head?, p.takes c = false

end Piece

/-- The pieces, one after the other, make up the whole text, and each ends where it has to. -/
inductive IsCut : List Piece → List Char → Prop where
  | nil : IsCut [] []
  | cons (p : Piece) (ps : List Piece) (rest : List Char) (hp : p.WellFormed)
      (hend : p.EndsBefore rest) (hrest : IsCut ps rest) : IsCut (p :: ps) (p.chars ++ rest)

def tokensOf (ps : List Piece) : List Token :=
  ps.filterMap Piece.token?

/-! ### There is one cut at most -/

namespace Piece

variable {p : Piece} {c : Char} {cs rest : List Char}

/-- The piece that a text starts with, told by its first character. -/
def first (c : Char) (cs : List Char) : Piece :=
  if isBlank c then blank c
  else if c.isDigit || c == '.' then numeral ((c :: cs).takeWhile fun d => d.isDigit || d == '.')
  else if isAlphabetic c then word ((c :: cs).takeWhile isAlphanumeric)
  else symbol c

/-- What all belongs together is all taken, and nothing of what follows. -/
theorem takeWhile_append_of_ends {f : Char → Bool} (hcs : cs.all f = true)
    (hrest : ∀ c ∈ rest.head?, f c = false) : (cs ++ rest).takeWhile f = cs := by
  rw [List.takeWhile_append_of_pos (List.all_eq_true.1 hcs)]
  cases rest with
  | nil => rw [List.takeWhile_nil, List.append_nil]
  | cons c rest =>
    have hc : ¬ f c = true := by simp [hrest c rfl]
    rw [List.takeWhile_cons_of_neg hc, List.append_nil]

theorem WellFormed.chars_ne_nil (hp : p.WellFormed) : p.chars ≠ [] := by
  cases p with
  | blank c => exact List.cons_ne_nil c []
  | symbol c => exact List.cons_ne_nil c []
  | numeral cs => exact hp.ne_nil
  | word cs =>
    obtain ⟨c, rest, rfl, -⟩ := hp
    exact List.cons_ne_nil c rest

theorem first_eq (hp : p.WellFormed) (hend : p.EndsBefore rest) (h : p.chars ++ rest = c :: cs) :
    first c cs = p := by
  unfold first
  rw [← h]
  cases p with
  | blank d =>
    obtain rfl : d = c := (List.cons.inj h).1
    exact if_pos hp
  | symbol d =>
    obtain rfl : d = c := (List.cons.inj h).1
    obtain ⟨t, ht⟩ := exists_ofSymbol?_iff.2 hp
    obtain ⟨hbreak, hblank⟩ := symbol_ends ht
    simp only [isBreak, isAlphanumeric, Bool.and_eq_true, Bool.not_eq_true', bne_iff_ne,
      Bool.or_eq_false_iff] at hbreak
    obtain ⟨⟨hdigit, hpoint⟩, halphabetic, -⟩ := hbreak
    simp [hblank, hdigit, hpoint, halphabetic]
  | numeral ds =>
    have hall : ds.all (fun d => d.isDigit || d == '.') = true :=
      List.all_eq_true.2 fun d hd => by simpa using hp.digit_or_point d hd
    have hc : c.isDigit ∨ c = '.' := by
      cases ds with
      | nil => exact absurd rfl hp.ne_nil
      | cons d ds =>
        obtain rfl : d = c := (List.cons.inj h).1
        exact hp.digit_or_point d (List.mem_cons_self ..)
    obtain ⟨hblank, -⟩ := starts_numeral hc
    rw [if_neg (Bool.eq_false_iff.1 hblank), if_pos (by simpa using hc)]
    exact congrArg numeral (takeWhile_append_of_ends hall hend)
  | word ds =>
    obtain ⟨d, ds', rfl, hd, hds'⟩ := hp
    obtain rfl : d = c := (List.cons.inj h).1
    obtain ⟨hblank, -, hnumeral⟩ := starts_word hd
    have hall : (d :: ds').all isAlphanumeric = true := by
      rw [List.all_cons, hds', isAlphanumeric, hd]
      rfl
    rw [if_neg (Bool.eq_false_iff.1 hblank), if_neg (Bool.eq_false_iff.1 hnumeral), if_pos hd]
    exact congrArg word (takeWhile_append_of_ends hall hend)

end Piece

theorem IsCut.unique {ps qs : List Piece} {cs : List Char} (hps : IsCut ps cs)
    (hqs : IsCut qs cs) : ps = qs := by
  induction hps generalizing qs with
  | nil =>
    generalize hcs : ([] : List Char) = cs at hqs
    cases hqs with
    | nil => rfl
    | cons q _ _ hq => exact absurd (List.append_eq_nil_iff.1 hcs.symm).1 hq.chars_ne_nil
  | cons p ps rest hp hend _ ih =>
    generalize hcs : p.chars ++ rest = cs at hqs
    cases hqs with
    | nil => exact absurd (List.append_eq_nil_iff.1 hcs).1 hp.chars_ne_nil
    | cons q qs rest' hq hend' hrest' =>
      have hpq : p = q := by
        cases hchars : p.chars ++ rest with
        | nil => exact absurd (List.append_eq_nil_iff.1 hchars).1 hp.chars_ne_nil
        | cons c cs => rw [← Piece.first_eq hp hend hchars, Piece.first_eq hq hend' (hcs ▸ hchars)]
      subst hpq
      obtain rfl := List.append_cancel_left hcs
      rw [ih hrest']

/-! ### A text that can be cut is read -/

namespace Scan

variable {s s' : Scan} {c : Char} {cs : List Char} {us : List Token}

/-- A character that does not belong to what has been started is read as if nothing had been. -/
theorem Settles.foldlM_eq (h : s.Settles us) (hend : ∀ c ∈ cs.head?, s.lexeme.takes c = false)
    (hne : cs ≠ []) : ∃ m, m.Clear us ∧ m.position = s.position ∧
      cs.foldlM step s = cs.foldlM step m := by
  obtain ⟨m, hflush, hlexeme, htokens⟩ := h
  refine ⟨m, ⟨hlexeme, htokens⟩, (flushes_of_flush hflush).position_eq, ?_⟩
  cases cs with
  | nil => exact absurd rfl hne
  | cons c cs =>
    have hc : s.lexeme.takes c = false := hend c rfl
    rw [List.foldlM_cons, List.foldlM_cons, step_of_not_takes hc, hflush,
      step_of_lexeme_none hlexeme]
    rfl

/-- From where nothing has been started, a piece is read as its token. -/
theorem Clear.piece {p : Piece} (h : s.Clear us) (hp : p.WellFormed) :
    ∃ s', p.chars.foldlM step s = .ok s' ∧ s'.Settles (p.token?.toList ++ us) ∧
      s'.lexeme.takes = p.takes := by
  cases p with
  | blank c =>
    have hstep : s.step c = .ok { s with position := s.position + c.utf8Size } := by
      rw [step_of_lexeme_none h.1]
      exact start_of_isBlank hp
    refine ⟨_, foldlM_cons_of_ok hstep [], Clear.settles ⟨h.1, h.2⟩, ?_⟩
    simp only [h.1]
    rfl
  | symbol c =>
    obtain ⟨t, ht⟩ := exists_ofSymbol?_iff.2 hp
    obtain ⟨s', hstep, hclear⟩ := h.settles.step_symbol ht
    refine ⟨s', foldlM_cons_of_ok hstep [], ?_, ?_⟩
    · rw [Piece.token?, ht]
      exact hclear.settles
    · rw [hclear.1]
      rfl
  | numeral cs =>
    obtain ⟨v, hv⟩ := hp.exists_read
    obtain ⟨s', hrun, hlexeme, htokens⟩ := h.run_numeral hp
    refine ⟨s', hrun, ?_, ?_⟩
    · rw [Piece.token?, hv, ← htokens]
      exact settles_numeral hlexeme hv
    · rw [hlexeme]
      rfl
  | word cs =>
    obtain ⟨c, rest, rfl, hc, hrest⟩ := hp
    obtain ⟨s', hrun, hlexeme, htokens⟩ := h.run_word hc hrest
    refine ⟨s', hrun, ?_, ?_⟩
    · rw [← htokens]
      exact settles_word hlexeme
    · rw [hlexeme]
      rfl

/-- Pieces are read one after the other, each as its token. -/
theorem Settles.cut {ps : List Piece} (hcut : IsCut ps cs) (h : s.Settles us)
    (hend : ∀ c ∈ cs.head?, s.lexeme.takes c = false) :
    ∃ s', cs.foldlM step s = .ok s' ∧ s'.Settles ((tokensOf ps).reverse ++ us) := by
  induction hcut generalizing s us with
  | nil => exact ⟨s, rfl, h⟩
  | cons p ps rest hp hends _ ih =>
    have hne : p.chars ++ rest ≠ [] := List.append_ne_nil_of_left_ne_nil hp.chars_ne_nil _
    obtain ⟨m, hclear, -, hrun⟩ := h.foldlM_eq hend hne
    obtain ⟨s₁, hpiece, hsettles, htakes⟩ := hclear.piece hp
    obtain ⟨s', hrest, hsettles'⟩ := ih hsettles (by rw [htakes]; exact hends)
    refine ⟨s', ?_, ?_⟩
    · rw [hrun, foldlM_append_of_ok hpiece]
      exact hrest
    · have htokens : (tokensOf (p :: ps)).reverse ++ us =
          (tokensOf ps).reverse ++ (p.token?.toList ++ us) := by
        unfold tokensOf
        rw [List.filterMap_cons]
        cases p.token? with
        | none => rfl
        | some t => simp
      rw [htokens]
      exact hsettles'

end Scan

theorem scan_of_cut {text : String} {ps : List Piece} (h : IsCut ps text.toList) :
    scan text = .ok (tokensOf ps) := by
  have hstart : Scan.Clear {} [] := ⟨rfl, rfl⟩
  obtain ⟨s', hrun, hsettles⟩ := hstart.settles.cut h fun c _ => rfl
  have htokens := hsettles.scanChars_eq hrun
  rwa [List.append_nil, List.reverse_reverse] at htokens

/-! ### A text that is read can be cut -/

/-- The characters of what has been started, in their order. -/
def Lexeme.chars : Lexeme → List Char
  | .none => []
  | .numeral cs => cs.reverse
  | .word cs => cs.reverse

namespace Piece

/-- What a piece takes depends on the next character only. -/
theorem EndsBefore.append {p : Piece} {cs : List Char} (h : p.EndsBefore cs) (hne : cs ≠ [])
    (rest : List Char) : p.EndsBefore (cs ++ rest) := by
  unfold EndsBefore
  rw [List.head?_append_of_ne_nil cs hne]
  exact h

end Piece

/-- A cut goes on with one more piece, where the last one ends. -/
theorem IsCut.append_singleton {ps : List Piece} {cs : List Char} {p : Piece} (h : IsCut ps cs)
    (hend : ∀ q ∈ ps.getLast?, q.EndsBefore p.chars) (hp : p.WellFormed) :
    IsCut (ps ++ [p]) (cs ++ p.chars) := by
  induction h with
  | nil =>
    have hcut := IsCut.cons p [] [] hp (fun c hc => by cases hc) .nil
    rwa [List.append_nil] at hcut
  | cons q qs rest hq hqend hrest ih =>
    have hrests : ∀ q' ∈ qs.getLast?, q'.EndsBefore p.chars := by
      intro q' hq'
      refine hend q' ?_
      rw [List.getLast?_cons, Option.mem_def.1 hq']
      rfl
    have hends : q.EndsBefore (rest ++ p.chars) := by
      cases hrest with
      | nil => exact hend q rfl
      | cons q' qs rest' hq' _ _ =>
        exact hqend.append (List.append_ne_nil_of_left_ne_nil hq'.chars_ne_nil _) _
    rw [List.cons_append, List.append_assoc]
    exact .cons q (qs ++ [p]) (rest ++ p.chars) hq hends (ih hrests)

/-- What a cut with one more piece is and what is read of it. -/
theorem IsCut.exists_append {ps : List Piece} {cs : List Char} {p : Piece} (h : IsCut ps cs)
    (hend : ∀ q ∈ ps.getLast?, q.EndsBefore p.chars) (hp : p.WellFormed) :
    ∃ qs, IsCut qs (cs ++ p.chars) ∧ (∀ q ∈ qs.getLast?, q.takes = p.takes) ∧
      (tokensOf qs).reverse = p.token?.toList ++ (tokensOf ps).reverse := by
  refine ⟨ps ++ [p], h.append_singleton hend hp, ?_, ?_⟩
  · intro q hq
    rw [List.getLast?_concat, Option.mem_some_iff] at hq
    rw [hq]
  · unfold tokensOf
    rw [List.filterMap_append, List.reverse_append]
    cases htoken : p.token? <;> simp [htoken]

namespace Scan

variable {s s' m : Scan} {c : Char} {front : List Char}

/-- What has been read can be cut into pieces, whose tokens have been read, and what has been started,
which does not belong to the last of them. -/
def Begun (s : Scan) (front : List Char) : Prop :=
  ∃ ps before, front = before ++ s.lexeme.chars ∧ IsCut ps before ∧
    (∀ p ∈ ps.getLast?, ∀ rest, p.EndsBefore (s.lexeme.chars ++ rest)) ∧
    s.tokens = (tokensOf ps).reverse

/-- With what has been started completed, all that has been read can be cut. -/
theorem Begun.flushes (h : s.Begun front) (hs : s.Proper) (hm : s.Flushes m) :
    ∃ ps, IsCut ps front ∧ (∀ p ∈ ps.getLast?, p.takes = s.lexeme.takes) ∧
      m.tokens = (tokensOf ps).reverse := by
  obtain ⟨ps, before, rfl, hcut, hends, htokens⟩ := h
  have hlast : ∀ p ∈ ps.getLast?, p.EndsBefore s.lexeme.chars := fun p hp => by
    simpa using hends p hp []
  have hlexeme := hs.lexeme
  cases hm with
  | none hl =>
    rw [hl] at hends ⊢
    refine ⟨ps, ?_, ?_, htokens⟩
    · rwa [Lexeme.chars, List.append_nil]
    · exact fun p hp => funext fun c => hends p hp [c] c rfl
  | numeral chars hl v hv =>
    rw [hl] at hlexeme hlast ⊢
    have hnumeral : Decimal.IsNumeral chars.reverse :=
      Decimal.isNumeral_of_read? (fun c hc => hlexeme c (List.mem_reverse.1 hc)) hv
    obtain ⟨qs, hqs, htakes, hread⟩ :=
      hcut.exists_append (p := .numeral chars.reverse) hlast hnumeral
    refine ⟨qs, hqs, htakes, ?_⟩
    rw [hread, Piece.token?, hv, ← htokens]
    rfl
  | word chars hl =>
    rw [hl] at hlexeme hlast ⊢
    obtain ⟨qs, hqs, htakes, hread⟩ := hcut.exists_append (p := .word chars.reverse) hlast hlexeme
    refine ⟨qs, hqs, htakes, ?_⟩
    rw [hread, ← htokens]
    rfl

/-- A blank or a symbol is a piece of its own. -/
theorem begun_of_piece {ps : List Piece} {p : Piece} (hcut : IsCut ps front)
    (hend : ∀ q ∈ ps.getLast?, q.EndsBefore p.chars) (hp : p.WellFormed)
    (htakes : ∀ d, p.takes d = false) (hs : s.lexeme = .none)
    (htokens : s.tokens = p.token?.toList ++ (tokensOf ps).reverse) : s.Begun (front ++ p.chars) := by
  obtain ⟨qs, hqs, hlast, hread⟩ := hcut.exists_append hend hp
  refine ⟨qs, front ++ p.chars, ?_, hqs, ?_, ?_⟩
  · rw [hs, Lexeme.chars, List.append_nil]
  · intro q hq rest d _
    rw [hlast q hq]
    exact htakes d
  · rw [htokens, hread]

theorem begun_of_starts {ps : List Piece} (hcut : IsCut ps front) (hm : m.lexeme = .none)
    (hend : ∀ p ∈ ps.getLast?, p.takes c = false) (htokens : m.tokens = (tokensOf ps).reverse)
    (hs' : m.Starts c s') : s'.Begun (front ++ [c]) := by
  have hstart : ∀ p ∈ ps.getLast?, ∀ rest, p.EndsBefore (c :: rest) := by
    intro p hp rest d hd
    cases hd
    exact hend p hp
  have hlast : ∀ p ∈ ps.getLast?, p.EndsBefore [c] := fun p hp => hstart p hp []
  cases hs' with
  | blank hc =>
    exact begun_of_piece (p := .blank c) hcut hlast hc (fun _ => rfl) hm htokens
  | symbol t ht =>
    have hsymbol : (Piece.symbol c).WellFormed := exists_ofSymbol?_iff.1 ⟨t, ht⟩
    refine begun_of_piece (p := .symbol c) hcut hlast hsymbol (fun _ => rfl) hm ?_
    rw [Piece.token?, ht, ← htokens]
    rfl
  | numeral => exact ⟨ps, front, rfl, hcut, hstart, htokens⟩
  | word => exact ⟨ps, front, rfl, hcut, hstart, htokens⟩

theorem Begun.append (h : s.Begun front) (hchars : s'.lexeme.chars = s.lexeme.chars ++ [c])
    (htokens : s'.tokens = s.tokens) : s'.Begun (front ++ [c]) := by
  obtain ⟨ps, before, rfl, hcut, hends, hread⟩ := h
  refine ⟨ps, before, ?_, hcut, ?_, htokens.trans hread⟩
  · rw [hchars, List.append_assoc]
  · intro p hp rest
    rw [hchars, List.append_assoc]
    exact hends p hp ([c] ++ rest)

theorem Begun.reads (h : s.Begun front) (hs : s.Proper) (hreads : s.Reads c s') :
    s'.Begun (front ++ [c]) := by
  cases hreads with
  | numeral chars hl =>
    refine h.append ?_ rfl
    rw [hl]
    exact List.reverse_cons ..
  | word chars hl =>
    refine h.append ?_ rfl
    rw [hl]
    exact List.reverse_cons ..
  | fresh m s' hc hm hs' =>
    obtain ⟨ps, hcut, htakes, htokens⟩ := h.flushes hs hm
    refine begun_of_starts hcut hm.lexeme_eq ?_ htokens hs'
    intro p hp
    rw [htakes p hp]
    exact hc

theorem begun_of_run (h : front.foldlM step {} = .ok s) : s.Begun front := by
  have hstart : Scan.Begun {} [] := ⟨[], [], rfl, .nil, (fun p hp => by cases hp), rfl⟩
  have hboth := foldlM_invariant (P := fun front s => s.Proper ∧ s.Begun front)
    (fun _ _ _ _ hm hstep =>
      ⟨hm.1.reads (reads_of_step hstep), hm.2.reads hm.1 (reads_of_step hstep)⟩)
    [] ⟨proper_start, hstart⟩ h
  exact hboth.2

end Scan

theorem cut_of_scan {text : String} {ts : List Token} (h : scan text = .ok ts) :
    ∃ ps, IsCut ps text.toList ∧ tokensOf ps = ts := by
  obtain ⟨s, m, hrun, hflush, rfl⟩ := scanChars_eq_ok_iff.1 h
  obtain ⟨ps, hcut, -, htokens⟩ :=
    (Scan.begun_of_run hrun).flushes (Scan.proper_start.run hrun) (Scan.flushes_of_flush hflush)
  refine ⟨ps, hcut, ?_⟩
  rw [htokens, List.reverse_reverse]

theorem token?_eq_none_iff {p : Piece} (hp : p.WellFormed) :
    p.token? = none ↔ ∃ c, p = .blank c := by
  cases p with
  | blank c => simp [Piece.token?]
  | symbol c =>
    obtain ⟨t, ht⟩ := exists_ofSymbol?_iff.2 hp
    simp [Piece.token?, ht]
  | numeral cs =>
    obtain ⟨v, hv⟩ := hp.exists_read
    simp [Piece.token?, hv]
  | word cs => simp [Piece.token?]

theorem IsCut.wellFormed {ps : List Piece} {cs : List Char} (h : IsCut ps cs) :
    ∀ p ∈ ps, p.WellFormed := by
  induction h with
  | nil => exact List.forall_mem_nil _
  | cons p ps rest hp _ _ ih => exact List.forall_mem_cons.2 ⟨hp, ih⟩

/-- A text is read as some tokens exactly if it can be cut into pieces that have these tokens. Of the
pieces of a cut all but the blanks have a token, and there is one cut at most. -/
theorem scan_reads_the_only_cut (text : String) :
    (∀ ts, scan text = .ok ts ↔ ∃ ps, IsCut ps text.toList ∧ tokensOf ps = ts) ∧
    (∀ ps, IsCut ps text.toList → ∀ p ∈ ps, (p.token? = none ↔ ∃ c, p = .blank c)) ∧
    ∀ ps qs, IsCut ps text.toList → IsCut qs text.toList → ps = qs := by
  refine ⟨fun ts => ⟨cut_of_scan, ?_⟩, ?_, fun ps qs => IsCut.unique⟩
  · rintro ⟨ps, hcut, rfl⟩
    exact scan_of_cut hcut
  · intro ps hcut p hp
    exact token?_eq_none_iff (hcut.wellFormed p hp)

end ReactiveGrid.Token
