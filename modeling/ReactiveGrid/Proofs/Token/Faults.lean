import ReactiveGrid.Proofs.Token.Cut

/-!
# Where a text stops being tokens

A text is read piece by piece until what comes next is no piece: a stray character, a numeral with a
second point, or a point without a digit next to it. Main statement: an unexpected character is
reported where it stands, whatever comes behind it, and no earlier part of the text has one; and the
only other fault is the point alone.
-/

namespace ReactiveGrid.Token
open ReactiveGrid.Expr (Fault)
open Text

/-- What stands before can be cut, and the last piece ends where the rest starts. -/
def IsBoundary (before rest : List Char) : Prop :=
  ∃ ps, IsCut ps before ∧ ∀ p ∈ ps.getLast?, p.EndsBefore rest

/-- What is no piece and the fault that it is, where `n` bytes stand before it. -/
inductive Blocks (n : Nat) : List Char → Fault → Prop where
  | stray (c : Char) (rest : List Char) (hc : IsStray c) :
      Blocks n (c :: rest) (.unexpectedCharacter c n)
  | secondPoint (ds rest : List Char) (hds : ∀ d ∈ ds, d.isDigit ∨ d = '.')
      (hpoint : ds.count '.' = 1) :
      Blocks n (ds ++ '.' :: rest) (.unexpectedCharacter '.' (n + byteLength ds))
  | lonePoint (rest : List Char) (hrest : ∀ c ∈ rest.head?, ¬ (c.isDigit ∨ c = '.')) :
      Blocks n ('.' :: rest) (.malformed (.invalidNumber "."))

/-- No token starts with the character, or it stands behind a numeral that has a point already. -/
def IsUnexpected (before : List Char) (c : Char) : Prop :=
  IsStray c ∨ c = '.' ∧ ∃ front ds, before = front ++ ds ∧ IsBoundary front ds ∧
    (∀ d ∈ ds, d.isDigit ∨ d = '.') ∧ ds.count '.' = 1

variable {c d : Char} {cs before rest rest' front back : List Char} {fault : Fault} {m n : Nat}

theorem IsBoundary.of_head?_eq (h : IsBoundary before rest) (hhead : rest'.head? = rest.head?) :
    IsBoundary before rest' := by
  obtain ⟨ps, hcut, hends⟩ := h
  refine ⟨ps, hcut, fun p hp => ?_⟩
  unfold Piece.EndsBefore
  rw [hhead]
  exact hends p hp

theorem ne_nil_of_count_eq_one {ds : List Char} (h : ds.count '.' = 1) : ds ≠ [] := by
  rintro rfl
  cases h

/-! ### What is no piece is refused -/

namespace Scan

variable {s : Scan} {ds chars : List Char} {us : List Token}

/-- At a boundary, what follows is read as if nothing had been started. -/
theorem exists_clear_of_isBoundary (h : IsBoundary before rest) (hne : rest ≠ []) :
    ∃ m : Scan, ∃ us, m.Clear us ∧ m.position = byteLength before ∧
      (before ++ rest).foldlM step {} = rest.foldlM step m := by
  have hstart : Scan.Clear {} [] := ⟨rfl, rfl⟩
  obtain ⟨ps, hcut, hends⟩ := h
  obtain ⟨s, hrun, hsettles⟩ := hstart.settles.cut hcut fun _ _ => rfl
  have hend : ∀ c ∈ rest.head?, s.lexeme.takes c = false := by
    intro c hc
    obtain ⟨m, hflush, -⟩ := hsettles
    obtain ⟨qs, hqs, htakes, -⟩ :=
      (begun_of_run hrun).flushes (proper_start.run hrun) (flushes_of_flush hflush)
    obtain rfl := hcut.unique hqs
    cases hlast : ps.getLast? with
    | none =>
      obtain rfl := List.getLast?_eq_none_iff.1 hlast
      cases hcut
      cases hrun
      rfl
    | some p =>
      rw [← htakes p hlast]
      exact hends p hlast c hc
  obtain ⟨m, hclear, hposition, hrest⟩ := hsettles.foldlM_eq hend hne
  refine ⟨m, _, hclear, ?_, ?_⟩
  · rw [hposition, position_foldlM hrun]
    exact Nat.zero_add _
  · rw [foldlM_append_of_ok hrun, hrest]

theorem flush_lonePoint (hs : s.lexeme = .numeral ['.']) :
    s.flush = .error (.malformed (.invalidNumber ".")) := by
  unfold flush
  rw [hs]
  rfl

theorem Clear.secondPoint (h : s.Clear us) (hds : ∀ d ∈ ds, d.isDigit ∨ d = '.')
    (hpoint : ds.count '.' = 1) (rest : List Char) :
    (ds ++ '.' :: rest).foldlM step s =
      .error (.unexpectedCharacter '.' (s.position + byteLength ds)) := by
  obtain ⟨s', hrun, hlexeme, -⟩ :=
    h.run_points hds (ne_nil_of_count_eq_one hpoint) (Nat.le_of_eq hpoint)
  have hmem : '.' ∈ ds.reverse := by
    rw [List.mem_reverse, ← List.count_pos_iff, hpoint]
    exact Nat.one_pos
  rw [foldlM_append_of_ok hrun, List.foldlM_cons, step_secondPoint hlexeme hmem,
    position_foldlM hrun]
  rfl

end Scan

theorem scanChars_of_blocks (hbefore : IsBoundary before rest)
    (h : Blocks (byteLength before) rest fault) : scanChars (before ++ rest) = .error fault := by
  rw [scanChars_eq_error_iff]
  cases h with
  | stray c rest hc =>
    obtain ⟨m, us, hclear, hposition, hrun⟩ :=
      Scan.exists_clear_of_isBoundary hbefore (List.cons_ne_nil _ _)
    refine .inl ?_
    rw [hrun, List.foldlM_cons, Scan.step_of_lexeme_none hclear.1, Scan.start_of_isStray hc,
      hposition]
    rfl
  | secondPoint ds rest hds hpoint =>
    obtain ⟨m, us, hclear, hposition, hrun⟩ :=
      Scan.exists_clear_of_isBoundary hbefore (List.append_ne_nil_of_right_ne_nil _
        (List.cons_ne_nil _ _))
    refine .inl ?_
    rw [hrun, hclear.secondPoint hds hpoint, hposition]
  | lonePoint rest hrest =>
    obtain ⟨m, us, hclear, hposition, hrun⟩ :=
      Scan.exists_clear_of_isBoundary hbefore (List.cons_ne_nil _ _)
    have hstart : m.step '.' = .ok { m with
        position := m.position + '.'.utf8Size, lexeme := .numeral ['.'] } := by
      rw [Scan.step_of_lexeme_none hclear.1]
      exact Scan.start_numeral (.inr rfl)
    rw [hrun, foldlM_cons_of_ok hstart]
    cases rest with
    | nil => exact .inr ⟨_, rfl, Scan.flush_lonePoint rfl⟩
    | cons d rest =>
      have hd : Lexeme.takes (.numeral ['.']) d = false := by
        simpa [Lexeme.takes] using hrest d rfl
      refine .inl ?_
      rw [List.foldlM_cons, Scan.step_of_not_takes hd, Scan.flush_lonePoint rfl]
      rfl

/-! ### What is refused is no piece -/

namespace Scan

variable {s : Scan} {chars : List Char}

/-- A numeral that has been started has one point at most. -/
theorem count_point_of_run (h : cs.foldlM step {} = .ok s) :
    ∀ chars, s.lexeme = .numeral chars → chars ≠ [] ∧ chars.count '.' ≤ 1 := by
  refine foldlM_invariant (P := fun _ s =>
    ∀ chars, s.lexeme = .numeral chars → chars ≠ [] ∧ chars.count '.' ≤ 1) ?_ []
    (fun chars hs => by cases hs) h
  intro front s c s' hs hstep chars hchars
  cases reads_of_step hstep with
  | numeral started hl hc =>
    obtain rfl := Lexeme.numeral.inj hchars
    refine ⟨List.cons_ne_nil _ _, ?_⟩
    obtain ⟨-, hcount⟩ := hs started hl
    rcases hc with hdigit | ⟨rfl, hmem⟩
    · rw [List.count_cons_of_ne]
      · exact hcount
      · rintro rfl
        revert hdigit
        decide
    · exact Nat.le_of_eq (by rw [List.count_cons_self, List.count_eq_zero.2 hmem])
  | word started => cases hchars
  | fresh m s' _ hm hs' =>
    cases hs' with
    | blank =>
      rw [hm.lexeme_eq] at hchars
      cases hchars
    | symbol =>
      rw [hm.lexeme_eq] at hchars
      cases hchars
    | numeral =>
      obtain rfl := Lexeme.numeral.inj hchars
      exact ⟨List.cons_ne_nil _ _, List.count_le_length⟩
    | word => cases hchars

/-- Only a point that is alone cannot be completed. -/
theorem lexeme_of_flush_error (h : cs.foldlM step {} = .ok s) (hs : s.flush = .error fault) :
    s.lexeme = .numeral ['.'] := by
  obtain ⟨chars, hlexeme, hnone, -⟩ := flush_eq_error hs
  obtain ⟨hne, hcount⟩ := count_point_of_run h chars hlexeme
  have hproper := (proper_start.run h).lexeme
  rw [hlexeme] at hproper ⊢
  have hchars : ∀ c ∈ chars.reverse, c.isDigit ∨ c = '.' := fun c hc =>
    hproper c (List.mem_reverse.1 hc)
  rcases Decimal.isNumeral_or_eq_point hchars (by simpa using hne)
    (by rwa [List.count_reverse]) with hnumeral | hpoint
  · obtain ⟨v, hv⟩ := hnumeral.exists_read
    rw [hnone] at hv
    cases hv
  · rw [List.reverse_eq_iff.1 hpoint]
    rfl

/-- What has been started begins at a boundary. -/
theorem isBoundary_of_run (h : cs.foldlM step {} = .ok s) (rest : List Char) :
    ∃ before, cs = before ++ s.lexeme.chars ∧ IsBoundary before (s.lexeme.chars ++ rest) := by
  obtain ⟨ps, before, heq, hcut, hends, -⟩ := begun_of_run h
  exact ⟨before, heq, ps, hcut, fun p hp => hends p hp rest⟩

theorem exists_blocks_of_flush_error (h : cs.foldlM step {} = .ok s) (hs : s.flush = .error fault)
    (rest : List Char) (hrest : ∀ c ∈ rest.head?, s.lexeme.takes c = false) :
    ∃ before back, cs ++ rest = before ++ back ∧ IsBoundary before back ∧
      Blocks (byteLength before) back fault := by
  have hlexeme := lexeme_of_flush_error h hs
  have hends : ∀ c ∈ rest.head?, ¬ (c.isDigit ∨ c = '.') := by
    intro c hc
    have htakes := hrest c hc
    rw [hlexeme] at htakes
    simpa [Lexeme.takes] using htakes
  rw [flush_lonePoint hlexeme] at hs
  cases hs
  obtain ⟨before, rfl, hboundary⟩ := isBoundary_of_run h rest
  refine ⟨before, s.lexeme.chars ++ rest, List.append_assoc .., hboundary, ?_⟩
  rw [hlexeme]
  exact .lonePoint rest hends

/-- A character that is not taken and refused stands at a boundary. -/
theorem isBoundary_of_flushes {m : Scan} (h : cs.foldlM step {} = .ok s) (hm : s.Flushes m)
    (hc : s.lexeme.takes c = false) (rest : List Char) : IsBoundary cs (c :: rest) := by
  obtain ⟨ps, hcut, htakes, -⟩ := (begun_of_run h).flushes (proper_start.run h) hm
  refine ⟨ps, hcut, ?_⟩
  intro p hp d hd
  cases hd
  rw [htakes p hp]
  exact hc

theorem exists_blocks_of_step_error (h : cs.foldlM step {} = .ok s)
    (hstep : s.step c = .error fault) (rest : List Char) :
    ∃ before back, cs ++ c :: rest = before ++ back ∧ IsBoundary before back ∧
      Blocks (byteLength before) back fault := by
  have hposition : s.position = byteLength cs := by
    rw [position_foldlM h]
    exact Nat.zero_add _
  cases refuses_of_step hstep with
  | secondPoint chars hs hc hpoint =>
    subst hc
    obtain ⟨-, hcount⟩ := count_point_of_run h chars hs
    have hproper := (proper_start.run h).lexeme
    obtain ⟨before, rfl, hboundary⟩ := isBoundary_of_run h ('.' :: rest)
    refine ⟨before, s.lexeme.chars ++ '.' :: rest, List.append_assoc .., hboundary, ?_⟩
    rw [hposition, byteLength_append, hs]
    rw [hs] at hproper
    refine .secondPoint chars.reverse rest (fun d hd => hproper d (List.mem_reverse.1 hd)) ?_
    rw [List.count_reverse]
    exact Nat.le_antisymm hcount (List.count_pos_iff.2 hpoint)
  | incomplete hc _ hs =>
    refine exists_blocks_of_flush_error h hs (c :: rest) ?_
    intro d hd
    cases hd
    exact hc
  | stray hc m hm hstray =>
    refine ⟨cs, c :: rest, rfl, isBoundary_of_flushes h hm hc rest, ?_⟩
    rw [hposition]
    exact .stray c rest hstray

end Scan

/-- A text is refused exactly if what comes next at some boundary is no piece. -/
theorem scanChars_eq_error_iff_blocks : scanChars cs = .error fault ↔
    ∃ before rest, cs = before ++ rest ∧ IsBoundary before rest ∧
      Blocks (byteLength before) rest fault := by
  constructor
  · intro h
    rcases scanChars_eq_error_iff.1 h with hrun | ⟨s, hrun, hflush⟩
    · obtain ⟨front, c, rest, m, rfl, hfront, hstep⟩ := exists_of_foldlM_eq_error hrun
      exact Scan.exists_blocks_of_step_error hfront hstep rest
    · have hblocks := Scan.exists_blocks_of_flush_error hrun hflush []
        fun c hc => by cases hc
      rwa [List.append_nil] at hblocks
  · intro h
    obtain ⟨before, rest, rfl, hboundary, hblocks⟩ := h
    exact scanChars_of_blocks hboundary hblocks

/-- An unexpected character stands where it is reported, and what is behind it does not matter. -/
theorem exists_of_unexpected (h : scanChars cs = .error (.unexpectedCharacter c n)) :
    ∃ before rest, cs = before ++ c :: rest ∧ byteLength before = n ∧ IsUnexpected before c ∧
      ∀ other, scanChars (before ++ c :: other) = .error (.unexpectedCharacter c n) := by
  obtain ⟨before, back, rfl, hboundary, hblocks⟩ := scanChars_eq_error_iff_blocks.1 h
  cases hblocks with
  | stray _ rest hc =>
    refine ⟨before, rest, rfl, rfl, .inl hc, fun other => ?_⟩
    exact scanChars_of_blocks (hboundary.of_head?_eq rfl) (.stray c other hc)
  | secondPoint ds rest hds hpoint =>
    have hhead : ∀ other, (ds ++ '.' :: other).head? = ds.head? := fun other =>
      List.head?_append_of_ne_nil ds (ne_nil_of_count_eq_one hpoint)
    refine ⟨before ++ ds, rest, (List.append_assoc ..).symm, byteLength_append .., ?_, ?_⟩
    · exact .inr ⟨rfl, before, ds, rfl, hboundary.of_head?_eq (hhead rest).symm, hds, hpoint⟩
    · intro other
      rw [List.append_assoc]
      refine scanChars_of_blocks (hboundary.of_head?_eq ?_) (.secondPoint ds other hds hpoint)
      rw [hhead, hhead]

/-- No part of the text that ends before an unexpected character has one. -/
theorem not_unexpected_before (h : scanChars (front ++ back) = .error (.unexpectedCharacter c n))
    (hle : byteLength front ≤ n) (d : Char) (m : Nat) :
    scanChars front ≠ .error (.unexpectedCharacter d m) := by
  intro hfront
  obtain ⟨before, rest, rfl, rfl, -, hother⟩ := exists_of_unexpected hfront
  have hsame := hother (rest ++ back)
  rw [← List.cons_append, ← List.append_assoc, h] at hsame
  cases hsame
  have hpos := c.utf8Size_pos
  rw [byteLength_append, byteLength] at hle
  omega

/-- An unexpected character is reported at the byte where it stands. It is stray or the second point of
a numeral, it is reported alike whatever stands behind it, and no part of the text up to that byte has
an unexpected character. The only other fault is a point at which a numeral would start, but which
neither a digit nor a point follows. -/
theorem scan_refuses_at_first_failure (text : String) :
    (∀ c n, scan text = .error (.unexpectedCharacter c n) →
      ∃ before rest, text = before ++ String.singleton c ++ rest ∧ before.utf8ByteSize = n ∧
        IsUnexpected before.toList c ∧
        (∀ other, scan (before ++ String.singleton c ++ other) =
          .error (.unexpectedCharacter c n)) ∧
        ∀ front back, text = front ++ back → front.utf8ByteSize ≤ n →
          ∀ d m, scan front ≠ .error (.unexpectedCharacter d m)) ∧
    (∀ fault, scan text = .error fault → (∀ c n, fault ≠ .unexpectedCharacter c n) →
      fault = .malformed (.invalidNumber ".") ∧
        fault.message = "Parse error: Invalid number '.'") ∧
    (scan text = .error (.malformed (.invalidNumber ".")) ↔
      ∃ before rest, text.toList = before ++ '.' :: rest ∧ IsBoundary before ('.' :: rest) ∧
        ∀ c ∈ rest.head?, ¬ (c.isDigit ∨ c = '.')) := by
  refine ⟨?_, ?_, ?_⟩
  · intro c n h
    obtain ⟨before, rest, hchars, hbytes, hunexpected, hother⟩ := exists_of_unexpected h
    refine ⟨String.ofList before, String.ofList rest, ?_, ?_, ?_, ?_, ?_⟩
    · rw [← String.toList_inj, hchars]
      simp
    · rw [← byteLength_toList, String.toList_ofList, hbytes]
    · rwa [String.toList_ofList]
    · intro other
      have hsame := hother other.toList
      unfold scan
      simpa using hsame
    · intro front back htext hle
      rw [← byteLength_toList] at hle
      unfold scan at h
      rw [htext, String.toList_append] at h
      exact not_unexpected_before h hle
  · intro fault h hfault
    obtain ⟨before, rest, -, -, hblocks⟩ := scanChars_eq_error_iff_blocks.1 h
    cases hblocks with
    | stray c rest _ => exact absurd rfl (hfault _ _)
    | secondPoint ds rest _ _ => exact absurd rfl (hfault _ _)
    | lonePoint rest _ => exact ⟨rfl, by decide⟩
  · unfold scan
    rw [scanChars_eq_error_iff_blocks]
    constructor
    · intro h
      obtain ⟨before, rest, hchars, hboundary, hblocks⟩ := h
      cases hblocks with
      | lonePoint rest hrest => exact ⟨before, rest, hchars, hboundary, hrest⟩
    · intro h
      obtain ⟨before, rest, hchars, hboundary, hrest⟩ := h
      exact ⟨before, '.' :: rest, hchars, hboundary, .lonePoint rest hrest⟩

/-- The letter takes up two bytes, so the second point of the numeral is the seventh byte. -/
theorem scan_refuses_at_first_failure_of_points :
    scan "é 1.2.3" = .error (.unexpectedCharacter '.' 6) ∧
      (∀ d m, scan "é 1.2" ≠ .error (.unexpectedCharacter d m)) ∧
      scan "é .$" = .error (.malformed (.invalidNumber ".")) ∧
      ∃ before rest, "é .$".toList = before ++ '.' :: rest ∧ IsBoundary before ('.' :: rest) ∧
        ∀ c ∈ rest.head?, ¬ (c.isDigit ∨ c = '.') := by
  have hsecond : scan "é 1.2.3" = .error (.unexpectedCharacter '.' 6) := by rfl
  have hlone : scan "é .$" = .error (.malformed (.invalidNumber ".")) := by rfl
  obtain ⟨before, rest, -, -, -, -, hfront⟩ :=
    (scan_refuses_at_first_failure "é 1.2.3").1 '.' 6 hsecond
  exact ⟨hsecond, hfront "é 1.2" ".3" rfl (by decide), hlone,
    (scan_refuses_at_first_failure "é .$").2.2.1 hlone⟩

end ReactiveGrid.Token
