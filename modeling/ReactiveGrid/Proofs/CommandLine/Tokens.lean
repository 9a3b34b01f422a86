import Mathlib.Data.List.Basic
import ReactiveGrid.CommandLine
import ReactiveGrid.Proofs.Token.Spaced

/-!
# Reading back a listing of tokens

A request for the tokens of an expression prints a line for each. Main statement: what was printed, or
any other text of the tokens with blanks between them, is read as these tokens again, except that a
number too large for a finite double comes back as a name; and from the second time on nothing changes
any more.
-/

namespace ReactiveGrid.CommandLine
open Token (scan Spaced spellInfinite)

variable {s : String} {ts : List Token}

/-- What is printed for tokens. -/
theorem runTokens_of_scan (h : scan s = .ok ts) :
    runTokens s = { output := ts.foldl (fun out t => out ++ t.text ++ "\n") "" } := by
  unfold runTokens
  rw [h]

theorem toList_foldl_lines (ts : List Token) (out : String) :
    (ts.foldl (fun out t => out ++ t.text ++ "\n") out).toList =
      out.toList ++ ts.flatMap fun t => t.text.toList ++ ['\n'] := by
  induction ts generalizing out with
  | nil => simp
  | cons t ts ih => simp [ih]

theorem spaced_runTokens (h : scan s = .ok ts) : Spaced ts (runTokens s).output.toList := by
  rw [runTokens_of_scan h, toList_foldl_lines]
  exact Token.spaced_lines ts

theorem foldl_lines_spellInfinite (hts : ∀ t ∈ ts, t.Proper) (out : String) :
    (ts.map spellInfinite).foldl (fun out t => out ++ t.text ++ "\n") out =
      ts.foldl (fun out t => out ++ t.text ++ "\n") out := by
  rw [List.foldl_map]
  refine List.foldl_ext _ _ _ fun out t ht => ?_
  rw [Token.text_spellInfinite (hts t ht)]

theorem map_spellInfinite_again (hts : ∀ t ∈ ts, t.Proper) :
    (ts.map spellInfinite).map spellInfinite = ts.map spellInfinite := by
  rw [List.map_map]
  exact List.map_congr_left fun t ht => Token.spellInfinite_spellInfinite (hts t ht)

/-- The tokens of a text, written with blanks between them, are read as these tokens, except that an
infinite number comes back as a name. Read so and written again they no longer change, and a listing
of them is its own listing. -/
theorem tokens_read_back_from_listing (s : String) (ts : List Token) (h : scan s = .ok ts) :
    (∀ v, Token.number v ∈ ts → Decimal.Plain v ∨ v = Decimal.infinity) ∧
    (∀ gap : String, gap ≠ "" → gap.toList.all Text.isBlank = true →
      scan (gap.intercalate (ts.map Token.text)) = .ok (ts.map spellInfinite)) ∧
    (∀ text : String, Spaced ts text.toList → scan text = .ok (ts.map spellInfinite)) ∧
    ((runTokens s).failure = none ∧ scan (runTokens s).output = .ok (ts.map spellInfinite)) ∧
    (∀ text : String, Spaced (ts.map spellInfinite) text.toList →
      scan text = .ok (ts.map spellInfinite)) ∧
    runTokens (runTokens s).output = runTokens s := by
  have hproper := Token.proper_of_scan h
  have hlisting : scan (runTokens s).output = .ok (ts.map spellInfinite) :=
    (spaced_runTokens h).scan_eq hproper
  refine ⟨?_, ?_, ?_, ⟨?_, hlisting⟩, ?_, ?_⟩
  · intro v hv
    exact Decimal.plain_or_infinity (hproper _ hv)
  · intro gap hne hgap
    exact (Token.spaced_intercalate hne hgap ts).scan_eq hproper
  · intro text htext
    exact htext.scan_eq hproper
  · rw [runTokens_of_scan h]
  · intro text htext
    have hagain : ∀ t ∈ ts.map spellInfinite, t.Proper := by
      intro t ht
      obtain ⟨u, hu, rfl⟩ := List.mem_map.1 ht
      exact (hproper u hu).spellInfinite
    rw [htext.scan_eq hagain, map_spellInfinite_again hproper]
  · rw [runTokens_of_scan hlisting, runTokens_of_scan h, foldl_lines_spellInfinite hproper]

/-- A number of 309 nines is too large for a finite double. -/
theorem tokens_read_back_from_listing_of_nines :
    let s := String.ofList (List.replicate 309 '9')
    scan s = .ok [.number Decimal.infinity] ∧ (runTokens s).output = "inf\n" ∧
      scan (runTokens s).output = .ok [.name "inf"] := by
  intro s
  have hdigits : (List.replicate 309 '9').all Char.isDigit := by decide +kernel
  have hne : List.replicate 309 '9' ≠ [] := by decide +kernel
  have hread : Decimal.read? (List.replicate 309 '9') = some Decimal.infinity := by
    rw [Decimal.IsNumeral.read? (.whole _ hdigits hne) (Decimal.numeral?_whole hdigits hne)]
    decide +kernel
  have hscan : scan s = .ok [.number Decimal.infinity] := by
    unfold scan
    rw [String.toList_ofList]
    exact Token.scanChars_numeral (.whole _ hdigits hne) hread
  have hspelled : [Token.number Decimal.infinity].map spellInfinite = [.name "inf"] := by
    decide +kernel
  refine ⟨hscan, ?_, ?_⟩
  · rw [runTokens_of_scan hscan]
    decide +kernel
  · rw [(tokens_read_back_from_listing s _ hscan).2.2.2.1.2, hspelled]

end ReactiveGrid.CommandLine
