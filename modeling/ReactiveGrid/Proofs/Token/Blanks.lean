import ReactiveGrid.Proofs.Token.Reading

/-!
# Texts with a blank between them

A blank ends whatever has been started, so what stands behind it is read as if it stood alone, only
further back. Main statement: two texts with a blank between them are read as the tokens of the one
followed by those of the other; what is wrong with the first is wrong with the whole, and what is wrong
with the second is wrong as many bytes later as there are before it.
-/

namespace ReactiveGrid

/-- The same fault so many bytes further on, for a text that stands behind another. -/
def Expr.Fault.later (n : Nat) : Expr.Fault → Expr.Fault
  | .unexpectedCharacter c position => .unexpectedCharacter c (n + position)
  | .malformed cause => .malformed cause
  | .notBuilt => .notBuilt

namespace Token
open ReactiveGrid.Expr (Fault)
open Text

namespace Scan

/-- The same reading so many bytes later, behind tokens that had been read before. -/
def later (n : Nat) (us : List Token) (s : Scan) : Scan :=
  { position := n + s.position, lexeme := s.lexeme, tokens := s.tokens ++ us }

def outcomeLater (n : Nat) (us : List Token) (r : Except Fault Scan) : Except Fault Scan :=
  (r.mapError (Fault.later n)).map (later n us)

variable {s s' : Scan} {c : Char} {cs : List Char}

theorem flush_later (n : Nat) (us : List Token) (s : Scan) :
    (s.later n us).flush = outcomeLater n us s.flush := by
  obtain ⟨position, lexeme, tokens⟩ := s
  cases lexeme with
  | none => rfl
  | numeral chars =>
    simp only [flush, later]
    cases Decimal.read? chars.reverse <;> rfl
  | word chars => rfl

theorem start_later (n : Nat) (us : List Token) (s : Scan) (c : Char) :
    (s.later n us).start c = outcomeLater n us (s.start c) := by
  have hnext : (s.later n us).position + c.utf8Size = n + (s.position + c.utf8Size) :=
    Nat.add_assoc ..
  unfold start
  simp only [hnext]
  split
  · rfl
  · split
    · rfl
    · split
      · rfl
      · split <;> rfl

theorem outcomeLater_bind {r : Except Fault Scan} {f : Scan → Except Fault Scan} {n : Nat}
    {us : List Token} (hf : ∀ m, f (m.later n us) = outcomeLater n us (f m)) :
    (outcomeLater n us r).bind f = outcomeLater n us (r.bind f) := by
  cases r with
  | error fault => rfl
  | ok m => exact hf m

theorem step_later (n : Nat) (us : List Token) (s : Scan) (c : Char) :
    (s.later n us).step c = outcomeLater n us (s.step c) := by
  have hfresh : (s.later n us).flush.bind (·.start c) =
      outcomeLater n us (s.flush.bind (·.start c)) := by
    rw [flush_later]
    exact outcomeLater_bind fun m => start_later n us m c
  have hnext : (s.later n us).position + c.utf8Size = n + (s.position + c.utf8Size) :=
    Nat.add_assoc ..
  unfold step
  rw [show (s.later n us).lexeme = s.lexeme from rfl]
  cases s.lexeme with
  | none => exact start_later n us s c
  | numeral chars =>
    simp only [hnext, hfresh]
    split
    · rfl
    · split <;> rfl
  | word chars =>
    simp only [hnext, hfresh]
    split <;> rfl

/-- A run reads further back what it reads in front. -/
theorem foldlM_later (n : Nat) (us : List Token) (cs : List Char) (s : Scan) :
    cs.foldlM step (s.later n us) = outcomeLater n us (cs.foldlM step s) := by
  induction cs generalizing s with
  | nil => rfl
  | cons c cs ih =>
    rw [List.foldlM_cons, List.foldlM_cons, step_later]
    exact outcomeLater_bind ih

/-- Behind a blank, nothing has been started. -/
theorem step_blank {m : Scan} {w : Char} (hw : isBlank w = true) (hflush : s.flush = .ok m) :
    s.step w = .ok (({} : Scan).later (s.position + w.utf8Size) m.tokens) := by
  obtain ⟨position, lexeme, tokens⟩ := m
  have hm := flushes_of_flush hflush
  obtain rfl : lexeme = .none := hm.lexeme_eq
  obtain rfl : position = s.position := hm.position_eq
  rw [step_of_isBreak (isBreak_of_isBlank hw), hflush]
  exact start_of_isBlank hw

end Scan

/-! ### Both parts together -/

theorem tokens_outcomeLater (n : Nat) (us : List Token) (r : Except Fault Scan) :
    ((Scan.outcomeLater n us r).bind fun s => s.flush.map (·.tokens.reverse)) =
      ((r.bind fun s => s.flush.map (·.tokens.reverse)).mapError (Fault.later n)).map
        (us.reverse ++ ·) := by
  cases r with
  | error fault => rfl
  | ok s =>
    show (s.later n us).flush.map _ = ((s.flush.map _).mapError _).map _
    rw [Scan.flush_later]
    cases s.flush with
    | error fault => rfl
    | ok m => exact congrArg Except.ok (List.reverse_append ..)

/-- Everything about blanks follows from this equation. -/
theorem scanChars_append_blank {w : Char} (hw : isBlank w = true) (cs ds : List Char) :
    scanChars (cs ++ w :: ds) = (scanChars cs).bind fun ts =>
      ((scanChars ds).mapError (Fault.later (byteLength (cs ++ [w])))).map (ts ++ ·) := by
  cases hrun : cs.foldlM Scan.step {} with
  | error fault =>
    unfold scanChars
    rw [foldlM_append_of_error hrun, hrun]
    rfl
  | ok s =>
    have hposition : s.position + w.utf8Size = byteLength (cs ++ [w]) := by
      rw [Scan.position_foldlM hrun, byteLength_append]
      simp [byteLength]
    unfold scanChars
    rw [foldlM_append_of_ok hrun, hrun]
    cases hflush : s.flush with
    | error fault =>
      rw [List.foldlM_cons, Scan.step_of_isBreak (isBreak_of_isBlank hw), hflush]
      simp only [Except.bind, hflush, Except.map]
      rfl
    | ok m =>
      rw [foldlM_cons_of_ok (Scan.step_blank hw hflush), hposition, Scan.foldlM_later,
        tokens_outcomeLater]
      simp only [Except.bind, hflush, Except.map]

theorem scan_append_blank {w : Char} (hw : isBlank w = true) (s t : String) :
    scan (s ++ String.singleton w ++ t) = (scan s).bind fun ts =>
      ((scan t).mapError (Fault.later (s ++ String.singleton w).utf8ByteSize)).map (ts ++ ·) := by
  have hchars : (s ++ String.singleton w ++ t).toList = s.toList ++ w :: t.toList := by simp
  have hbytes : (s ++ String.singleton w).utf8ByteSize = byteLength (s.toList ++ [w]) := by
    rw [← byteLength_toList]
    simp
  unfold scan
  rw [hchars, hbytes]
  exact scanChars_append_blank hw s.toList t.toList

/-- Two texts with a blank between them are read as the tokens of both. What is wrong with the first is
wrong with the whole, and if nothing is, what is wrong with the second is wrong with the whole, as many
bytes later as stand before it. -/
theorem scan_splits_at_blank (s t : String) (w : Char) (hw : isBlank w = true) :
    (∀ ts us, scan s = .ok ts → scan t = .ok us →
      scan (s ++ String.singleton w ++ t) = .ok (ts ++ us)) ∧
    (∀ fault, scan s = .error fault → scan (s ++ String.singleton w ++ t) = .error fault) ∧
    ∀ ts fault, scan s = .ok ts → scan t = .error fault →
      scan (s ++ String.singleton w ++ t) =
        .error (fault.later (s ++ String.singleton w).utf8ByteSize) := by
  rw [scan_append_blank hw]
  refine ⟨?_, ?_, ?_⟩
  · intro ts us hs ht
    rw [hs, ht]
    rfl
  · intro fault hs
    rw [hs]
    rfl
  · intro ts fault hs ht
    rw [hs, ht]
    rfl

/-- The ideographic space takes up three bytes. -/
theorem scan_splits_at_blank_of_wide :
    isBlank '\u3000' = true ∧
      scan "é" = .ok [.name "é"] ∧ scan "b" = .ok [.name "b"] ∧
      scan "1.2." = .error (.unexpectedCharacter '.' 3) ∧
      scan "b$" = .error (.unexpectedCharacter '$' 1) ∧
      scan "é\u3000b" = .ok [.name "é", .name "b"] ∧
      scan "1.2.\u3000b" = .error (.unexpectedCharacter '.' 3) ∧
      scan "é\u3000b$" = .error (.unexpectedCharacter '$' 6) := by
  have hblank : isBlank '\u3000' = true := by decide
  have hleft : scan "é" = .ok [.name "é"] := by rfl
  have hright : scan "b" = .ok [.name "b"] := by rfl
  have hbroken : scan "1.2." = .error (.unexpectedCharacter '.' 3) := by rfl
  have hstrange : scan "b$" = .error (.unexpectedCharacter '$' 1) := by rfl
  exact ⟨hblank, hleft, hright, hbroken, hstrange,
    (scan_splits_at_blank "é" "b" '\u3000' hblank).1 _ _ hleft hright,
    (scan_splits_at_blank "1.2." "b" '\u3000' hblank).2.1 _ hbroken,
    (scan_splits_at_blank "é" "b$" '\u3000' hblank).2.2 _ _ hleft hstrange⟩

end Token

end ReactiveGrid
