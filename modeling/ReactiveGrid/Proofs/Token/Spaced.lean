import ReactiveGrid.Proofs.Token.Blanks

/-!
# Tokens written apart

The written forms of tokens are put one after the other with blanks between them, in any number and of
any kind. Such a text is read as these tokens again, except that an infinite number is written as a word
and so comes back as a name.
-/

namespace ReactiveGrid.Token
open Text

/-- The token with an infinite number turned into the name that it is written as. -/
def spellInfinite : Token → Token
  | number v => if v.isInf then name "inf" else number v
  | t => t

/-- The written forms of the tokens in their order, each with a blank or the end of the text behind it,
and any further blanks around them. -/
inductive Spaced : List Token → List Char → Prop where
  | nil : Spaced [] []
  | blank (c : Char) (ts : List Token) (cs : List Char) (hc : isBlank c = true)
      (h : Spaced ts cs) : Spaced ts (c :: cs)
  | token (t : Token) (ts : List Token) (cs : List Char) (hend : ∀ c ∈ cs.head?, isBlank c = true)
      (h : Spaced ts cs) : Spaced (t :: ts) (t.text.toList ++ cs)

variable {t : Token} {ts us : List Token} {cs ds : List Char} {c : Char}

/-! ### One token -/

theorem spellInfinite_cases (h : t.Proper) :
    t = .number Decimal.infinity ∧ t.spellInfinite = .name "inf" ∨ t.spellInfinite = t := by
  cases t with
  | number v =>
    unfold spellInfinite
    rcases Decimal.plain_or_infinity h with hplain | rfl
    · exact .inr (if_neg (by simp [hplain.isInf]))
    · exact .inl ⟨rfl, if_pos Decimal.isInf_infinity⟩
  | name s => exact .inr rfl
  | operator op => exact .inr rfl
  | opening => exact .inr rfl
  | closing => exact .inr rfl

theorem text_spellInfinite (h : t.Proper) : t.spellInfinite.text = t.text := by
  rcases spellInfinite_cases h with ⟨rfl, heq⟩ | heq
  · rw [heq]
    exact Decimal.render_infinity.symm
  · rw [heq]

theorem Proper.spellInfinite (h : t.Proper) : t.spellInfinite.Proper := by
  rcases spellInfinite_cases h with ⟨-, heq⟩ | heq
  · rw [heq]
    exact isIdentifier_inf
  · rwa [heq]

theorem spellInfinite_spellInfinite (h : t.Proper) :
    t.spellInfinite.spellInfinite = t.spellInfinite := by
  rcases spellInfinite_cases h with ⟨-, heq⟩ | heq
  · rw [heq]
    rfl
  · rw [heq, heq]

theorem scanChars_symbol (h : ofSymbol? c = some t) : scanChars [c] = .ok [t] := by
  have hclear : Scan.Clear {} [] := ⟨rfl, rfl⟩
  obtain ⟨s, hstep, hs⟩ := hclear.settles.step_symbol h
  exact hs.settles.scanChars_eq (foldlM_cons_of_ok hstep [])

theorem scanChars_name {s : String} (h : IsIdentifier s) :
    scanChars s.toList = .ok [.name s] := by
  have hclear : Scan.Clear {} [] := ⟨rfl, rfl⟩
  obtain ⟨s', hrun, hs'⟩ := hclear.word h
  exact hs'.scanChars_eq hrun

theorem scanChars_numeral {v : Float} (h : Decimal.IsNumeral cs) (hv : Decimal.read? cs = some v) :
    scanChars cs = .ok [.number v] := by
  have hclear : Scan.Clear {} [] := ⟨rfl, rfl⟩
  obtain ⟨s, hrun, hs⟩ := hclear.numeral h hv
  exact hs.scanChars_eq hrun

/-- A written token is read as itself, or as the name of infinity. -/
theorem scanChars_text (h : t.Proper) : scanChars t.text.toList = .ok [t.spellInfinite] := by
  rcases spellInfinite_cases h with ⟨rfl, heq⟩ | heq
  · rw [heq, show (number Decimal.infinity).text = "inf" from Decimal.render_infinity]
    exact scanChars_name isIdentifier_inf
  · rw [heq]
    cases t with
    | number v =>
      rcases Decimal.plain_or_infinity h with hplain | rfl
      · obtain ⟨hnumeral, hread⟩ := Decimal.read?_renderChars hplain
        rw [show (number v).text.toList = Decimal.renderChars v from String.toList_ofList]
        exact scanChars_numeral hnumeral hread
      · simp [spellInfinite, Decimal.isInf_infinity] at heq
    | name s => exact scanChars_name h
    | operator op =>
      rw [show (operator op).text.toList = [op.symbol] from String.toList_singleton ..]
      exact scanChars_symbol (ofSymbol?_operator op)
    | opening => rfl
    | closing => rfl

/-! ### Many tokens -/

theorem scanChars_append_blank_eq_ok_iff (hc : isBlank c = true) :
    scanChars (cs ++ c :: ds) = .ok ts ↔
      ∃ front back, scanChars cs = .ok front ∧ scanChars ds = .ok back ∧ front ++ back = ts := by
  rw [scanChars_append_blank hc, bind_eq_ok_iff]
  refine exists_congr fun front => ?_
  rw [map_mapError_eq_ok_iff, exists_and_left]

theorem scanChars_cons_blank_eq_ok_iff (hc : isBlank c = true) :
    scanChars (c :: cs) = .ok ts ↔ scanChars cs = .ok ts := by
  have hsplit : scanChars ([] ++ c :: cs) = .ok ts ↔ _ := scanChars_append_blank_eq_ok_iff hc
  have hnone : scanChars [] = .ok [] := rfl
  simpa [hnone] using hsplit

theorem Spaced.scanChars_eq (h : Spaced ts cs) (hts : ∀ t ∈ ts, t.Proper) :
    scanChars cs = .ok (ts.map spellInfinite) := by
  induction h with
  | nil => rfl
  | blank c ts cs hc _ ih => exact (scanChars_cons_blank_eq_ok_iff hc).2 (ih hts)
  | token t ts cs hend _ ih =>
    have hfirst := scanChars_text (hts t (List.mem_cons_self ..))
    have hrest := ih fun u hu => hts u (List.mem_cons_of_mem _ hu)
    cases cs with
    | nil =>
      obtain hnone : [] = ts.map spellInfinite := Except.ok.inj hrest
      rw [List.append_nil, hfirst, List.map_cons, ← hnone]
    | cons c cs =>
      have hc := hend c rfl
      exact (scanChars_append_blank_eq_ok_iff hc).2
        ⟨_, _, hfirst, (scanChars_cons_blank_eq_ok_iff hc).1 hrest, rfl⟩

theorem Spaced.scan_eq {text : String} (h : Spaced ts text.toList) (hts : ∀ t ∈ ts, t.Proper) :
    scan text = .ok (ts.map spellInfinite) :=
  h.scanChars_eq hts

theorem Spaced.append_left (h : Spaced ts cs) (hds : ds.all isBlank = true) :
    Spaced ts (ds ++ cs) := by
  induction ds with
  | nil => exact h
  | cons d ds ih =>
    rw [List.all_cons, Bool.and_eq_true] at hds
    exact .blank d ts _ hds.1 (ih hds.2)

/-! ### Texts of this kind -/

/-- Tokens with the same blanks, one at least, between any two of them. -/
theorem spaced_intercalate {gap : String} (hne : gap ≠ "") (hgap : gap.toList.all isBlank = true)
    (ts : List Token) : Spaced ts (gap.intercalate (ts.map text)).toList := by
  obtain ⟨c, rest, heq⟩ : ∃ c rest, gap.toList = c :: rest :=
    List.exists_cons_of_ne_nil fun hnil => hne (String.toList_eq_nil_iff.1 hnil)
  have hc : isBlank c = true := by
    rw [heq, List.all_cons, Bool.and_eq_true] at hgap
    exact hgap.1
  induction ts with
  | nil => simpa using Spaced.nil
  | cons t ts ih =>
    cases ts with
    | nil => simpa using Spaced.token t [] [] (by simp) .nil
    | cons u ts =>
      have hrest : Spaced (u :: ts) (gap.toList ++ (gap.intercalate ((u :: ts).map text)).toList) :=
        ih.append_left hgap
      have hend : ∀ d ∈ (gap.toList ++ (gap.intercalate ((u :: ts).map text)).toList).head?,
          isBlank d = true := by
        intro d hd
        rw [heq] at hd
        cases hd
        exact hc
      have htoken := Spaced.token t (u :: ts) _ hend hrest
      rw [List.map_cons, List.map_cons, String.intercalate_cons_cons]
      simpa using htoken

theorem exists_scan_eq {ts : List Token} (hts : ∀ t ∈ ts, t.Proper) :
    ∃ text, scan text = .ok (ts.map spellInfinite) :=
  ⟨" ".intercalate (ts.map text),
    (spaced_intercalate (by decide) (by decide) ts).scan_eq hts⟩

/-- Tokens with a line for each. -/
theorem spaced_lines (ts : List Token) : Spaced ts (ts.flatMap fun t => t.text.toList ++ ['\n']) := by
  induction ts with
  | nil => exact .nil
  | cons t ts ih =>
    have hbreak : isBlank '\n' = true := by decide
    have htoken := Spaced.token t ts _ (fun c hc => by cases hc; exact hbreak)
      (.blank '\n' ts _ hbreak ih)
    rw [List.flatMap_cons, List.append_assoc]
    exact htoken

end ReactiveGrid.Token
