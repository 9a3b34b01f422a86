import ReactiveGrid.Proofs.Expr.Sound
import ReactiveGrid.Proofs.Token.Spaced

/-!
# Texts that can still become an expression

The parser takes tokens as long as they can be completed to an expression: an operand if one is missing
and the parentheses that are still open are enough, and neither limit stands in the way. Main statement:
a text that is refused for what is missing at its end can be completed; any other one is refused at the
first token that leaves no hope, whatever follows it.
-/

namespace ReactiveGrid.Expr
open Token (scan)

/-- The wording of what can be missing at the end of a text. -/
def endMessages : List String :=
  ["Empty expression", "Missing operand at end of expression", "Expected ')', got end of input"]

namespace Parse

/-- The ways in which a token is refused. -/
inductive Refuses (p : Parse) : Token → Malformed → Prop where
  | missingOperand (hp : p.operand = none) (t : Token)
      (ht : t = .closing ∨ t.isOperator = true) : Refuses p t (.missingOperand t)
  | nestedTooDeep (hp : p.operand = none) (hfull : p.outer.length = maxNesting) :
      Refuses p .opening .nestedTooDeep
  | tooManyOperators (e : Expr) (hp : p.operand = some e) (op : Operator)
      (hfull : p.operators = maxOperators) : Refuses p (.operator op) .tooManyOperators
  | unexpectedToken (e : Expr) (hp : p.operand = some e) (hout : p.outer = []) (t : Token)
      (ht : t.isOperator = false) : Refuses p t (.unexpectedToken t)
  | unclosed (e : Expr) (hp : p.operand = some e) (hout : p.outer ≠ []) (t : Token)
      (ht : t.isOperator = false) (hne : t ≠ .closing) : Refuses p t (.unclosed t)

variable {p q : Parse} {t : Token} {ts us : List Token} {fault : Fault} {cause : Malformed}

theorem refuses_of_takeOperand (hp : p.operand = none) (h : p.takeOperand t = .error fault) :
    ∃ cause, fault = .malformed cause ∧ Refuses p t cause := by
  cases t with
  | number v => cases h
  | name s => cases h
  | opening =>
    by_cases hfull : p.outer.length = maxNesting
    · simp only [takeOperand, if_pos hfull] at h
      cases h
      exact ⟨_, rfl, .nestedTooDeep hp hfull⟩
    · simp only [takeOperand, if_neg hfull] at h
      cases h
  | operator op =>
    cases h
    exact ⟨_, rfl, .missingOperand hp _ (.inr rfl)⟩
  | closing =>
    cases h
    exact ⟨_, rfl, .missingOperand hp _ (.inl rfl)⟩

/-- What is no operator behind a complete operand. -/
theorem refuses_of_takeAfter_of_not_isOperator {e : Expr} (hp : p.operand = some e)
    (ht : t.isOperator = false) (h : p.takeAfter e t = .error fault) :
    ∃ cause, fault = .malformed cause ∧ Refuses p t cause := by
  cases hout : p.outer with
  | nil =>
    have hafter : p.takeAfter e t = .error (.malformed (.unexpectedToken t)) := by
      cases t with
      | operator op => cases ht
      | number | name | opening | closing => simp only [takeAfter, hout]
    rw [hafter] at h
    cases h
    exact ⟨_, rfl, .unexpectedToken e hp hout t ht⟩
  | cons l ls =>
    have hafter : p.takeAfter e t =
        if t = .closing then
          .ok { p with level := l, outer := ls, operand := some (p.level.total e) }
        else .error (.malformed (.unclosed t)) := by
      cases t with
      | operator op => cases ht
      | number | name | opening | closing => simp only [takeAfter, hout]
    rw [hafter] at h
    split at h
    · cases h
    · next hne =>
      cases h
      exact ⟨_, rfl, .unclosed e hp (by simp [hout]) t ht hne⟩

theorem refuses_of_step (h : p.step t = .error fault) :
    ∃ cause, fault = .malformed cause ∧ Refuses p t cause := by
  unfold step at h
  cases hp : p.operand with
  | none =>
    rw [hp] at h
    exact refuses_of_takeOperand hp h
  | some e =>
    rw [hp] at h
    cases ht : t.isOperator with
    | false => exact refuses_of_takeAfter_of_not_isOperator hp ht h
    | true =>
      obtain ⟨op, rfl⟩ : ∃ op, t = .operator op := by
        cases t <;> simp_all [Token.isOperator]
      by_cases hfull : p.operators = maxOperators
      · simp only [takeAfter, if_pos hfull] at h
        cases h
        exact ⟨_, rfl, .tooManyOperators e hp op hfull⟩
      · simp only [takeAfter, if_neg hfull] at h
        cases h

theorem Refuses.message_not_mem (h : Refuses p t cause) : cause.message ∉ endMessages := by
  have hoperand (s : String) : "Missing operand before '" ++ s ++ "'" ∉ endMessages := by
    simp [endMessages, ← String.toList_inj]
  have hunexpected (s : String) : "Unexpected token '" ++ s ++ "' after expression" ∉ endMessages := by
    simp [endMessages, ← String.toList_inj]
  have hunclosed (s : String) : "Expected ')', got '" ++ s ++ "'" ∉ endMessages := by
    simp [endMessages, ← String.toList_inj]
  cases h with
  | missingOperand => exact hoperand _
  | nestedTooDeep => decide
  | tooManyOperators => decide
  | unexpectedToken => exact hunexpected _
  | unclosed => exact hunclosed _

theorem message_mem_of_finish (h : p.finish = .error fault) :
    ∃ cause, fault = .malformed cause ∧ cause.message ∈ endMessages := by
  unfold finish at h
  split at h
  · cases h
    exact ⟨_, rfl, by decide⟩
  · cases h
  · cases h
    exact ⟨_, rfl, by decide⟩

/-! ### Completing -/

/-- Behind a complete operand, closing what is open is enough. -/
theorem foldlM_closings {e : Expr} (hp : p.operand = some e) :
    ∃ e', ((List.replicate p.outer.length Token.closing).foldlM step p).bind finish = .ok e' := by
  induction hout : p.outer generalizing p e with
  | nil => exact ⟨_, finish_eq_ok_iff.2 ⟨e, hp, hout, rfl⟩⟩
  | cons l ls ih =>
    obtain ⟨e', he'⟩ := ih (p := { p with
      level := l, outer := ls, operand := some (p.level.total e) }) rfl rfl
    refine ⟨e', ?_⟩
    rw [List.length_cons, List.replicate_succ, foldlM_cons_of_takes (.closing e hp l ls hout)]
    exact he'

/-- From wherever the parser stands, some text leads to an expression. -/
theorem exists_completion (p : Parse) :
    ∃ t us e, scan t = .ok us ∧ (us.foldlM step p).bind finish = .ok e := by
  have hclosings : ∀ t ∈ List.replicate p.outer.length Token.closing, t.Proper := by
    intro t ht
    rw [List.eq_of_mem_replicate ht]
    trivial
  cases hp : p.operand with
  | none =>
    have hname : (Token.name "a").Proper := ⟨'a', [], rfl, by decide +kernel, rfl⟩
    obtain ⟨t, ht⟩ := Token.exists_scan_eq (List.forall_mem_cons.2 ⟨hname, hclosings⟩)
    obtain ⟨e, he⟩ := foldlM_closings (p := { p with operand := some (.name "a") }) rfl
    refine ⟨t, _, e, ht, ?_⟩
    rw [List.map_cons, List.map_replicate]
    exact (congrArg (·.bind finish) (foldlM_cons_of_takes (.name hp "a") _)).trans he
  | some f =>
    obtain ⟨t, ht⟩ := Token.exists_scan_eq hclosings
    obtain ⟨e, he⟩ := foldlM_closings hp
    refine ⟨t, _, e, ht, ?_⟩
    rw [List.map_replicate]
    exact he

end Parse

/-! ### Whole texts -/

variable {p : Parse} {ts us front : List Token} {t : Token} {e : Expr} {fault : Fault}

theorem ofTokens_append_of_completed (hrun : ts.foldlM Parse.step {} = .ok p)
    (hend : (us.foldlM Parse.step p).bind Parse.finish = .ok e) : ofTokens (ts ++ us) = .ok e := by
  rw [← foldlM_append_of_ok hrun] at hend
  unfold ofTokens
  split
  · next hempty =>
    rw [List.isEmpty_iff.1 hempty] at hend
    cases hend
  · exact hend

theorem ofTokens_append_of_refused (hrun : front.foldlM Parse.step {} = .ok p)
    (ht : p.step t = .error fault) (us : List Token) :
    ofTokens (front ++ t :: us) = .error fault := by
  have hrest : (front ++ t :: us).foldlM Parse.step {} = .error fault := by
    rw [foldlM_append_of_ok hrun, List.foldlM_cons, ht]
    rfl
  unfold ofTokens
  rw [if_neg (by simp), hrest]
  rfl

/-- Tokens are refused either at their end or at one of them. -/
theorem ofTokens_eq_error_cases (h : ofTokens ts = .error fault) :
    ∃ cause, fault = .malformed cause ∧
      ((∃ p, ts.foldlM Parse.step {} = .ok p) ∧ cause.message ∈ endMessages ∨
        ∃ front t rest p, ts = front ++ t :: rest ∧ front.foldlM Parse.step {} = .ok p ∧
          p.step t = .error fault ∧ p.Refuses t cause) := by
  unfold ofTokens at h
  split at h
  · next hempty =>
    cases h
    rw [List.isEmpty_iff.1 hempty]
    exact ⟨_, rfl, .inl ⟨⟨_, rfl⟩, by decide⟩⟩
  · rcases bind_eq_error_iff.1 h with hrun | ⟨p, hrun, hfinish⟩
    · obtain ⟨front, t, rest, p, hts, hfront, ht⟩ := exists_of_foldlM_eq_error hrun
      obtain ⟨cause, hcause, hrefuses⟩ := Parse.refuses_of_step ht
      exact ⟨cause, hcause, .inr ⟨front, t, rest, p, hts, hfront, ht, hrefuses⟩⟩
    · obtain ⟨cause, hcause, hmessage⟩ := Parse.message_mem_of_finish hfinish
      exact ⟨cause, hcause, .inl ⟨⟨p, hrun⟩, hmessage⟩⟩

theorem scan_append_space (s t : String) : scan (s ++ " " ++ t) = (scan s).bind fun ts =>
    ((scan t).mapError (Fault.later (s ++ " ").utf8ByteSize)).map (ts ++ ·) :=
  Token.scan_append_blank (w := ' ') (by decide) s t

theorem parse_append_space {s t : String} (hs : scan s = .ok ts) (ht : scan t = .ok us) :
    parse (s ++ " " ++ t) = ofTokens (ts ++ us) := by
  unfold parse
  rw [scan_append_space, hs, ht]
  rfl

theorem exists_scan_of_parse_append {s t : String} (hs : scan s = .ok ts)
    (h : parse (s ++ " " ++ t) = .ok e) : ∃ us, scan t = .ok us := by
  cases ht : scan t with
  | ok us => exact ⟨us, rfl⟩
  | error fault =>
    unfold parse at h
    rw [scan_append_space, hs, ht] at h
    cases h

/-- A refused token is refused alike whatever text follows, so that no text completes what it is in. -/
theorem parse_append_space_of_refused {s u : String} {rest : List Token}
    (hs : scan s = .ok (front ++ t :: rest)) (hrun : front.foldlM Parse.step {} = .ok p)
    (ht : p.step t = .error fault) (hu : scan u = .ok us) :
    parse (s ++ " " ++ u) = .error fault := by
  rw [parse_append_space hs hu, List.append_assoc]
  exact ofTokens_append_of_refused hrun ht _

/-- The limits are met by what has been read when the parser refuses to go beyond them. -/
theorem counts_of_refuses {cause : Malformed} (hrun : front.foldlM Parse.step {} = .ok p)
    (h : p.Refuses t cause) :
    (cause = .tooManyOperators → t.isOperator = true ∧ front.countP Token.isOperator = 1024) ∧
    (cause = .nestedTooDeep →
      t = .opening ∧ front.countP Token.isOpening = front.countP Token.isClosing + 64) := by
  obtain ⟨-, hcounted⟩ := Parse.parted_counted_of_run hrun Parse.parted_start Parse.counted_start
  have hoperators := hcounted.operators_eq
  have hdepth := hcounted.depth_eq
  constructor
  · intro hmany
    subst hmany
    cases h with
    | tooManyOperators e hp op hfull => exact ⟨rfl, hoperators.symm.trans hfull⟩
  · intro hdeep
    subst hdeep
    cases h with
    | nestedTooDeep hp hfull =>
      rw [hfull] at hdepth
      exact ⟨rfl, hdepth⟩

/-- A text of tokens that make up no expression can be completed to one exactly if it is refused for
what is missing at its end. If not, it is refused for the same cause whatever follows, and some first
token is to blame: what stands before it can be completed, and with it nothing can. For the operators
this is the 1025th, and for parentheses one behind 64 that are open. -/
theorem parse_refuses_first_hopeless_token (s : String) (ts : List Token) (fault : Fault)
    (hscan : scan s = .ok ts) (hparse : parse s = .error fault) :
    ∃ cause, fault = .malformed cause ∧
      (cause.message ∈ endMessages ↔ ∃ t e, parse (s ++ " " ++ t) = .ok e) ∧
      (cause.message ∉ endMessages →
        (∀ t us, scan t = .ok us → parse (s ++ " " ++ t) = .error fault) ∧
        ∃ front t rest, ts = front ++ t :: rest ∧
          (∃ us e, ofTokens (front ++ us) = .ok e) ∧
          (∀ us, ofTokens (front ++ t :: us) = .error fault) ∧
          (cause = .tooManyOperators →
            t.isOperator = true ∧ front.countP Token.isOperator = 1024) ∧
          (cause = .nestedTooDeep →
            t = .opening ∧
              front.countP Token.isOpening = front.countP Token.isClosing + 64)) := by
  have htokens : ofTokens ts = .error fault := by
    unfold parse at hparse
    rwa [hscan] at hparse
  obtain ⟨cause, hcause, hend | hrefused⟩ := ofTokens_eq_error_cases htokens
  · obtain ⟨⟨p, hrun⟩, hmessage⟩ := hend
    obtain ⟨t, us, e, ht, hus⟩ := p.exists_completion
    have hcompleted : parse (s ++ " " ++ t) = .ok e := by
      rw [parse_append_space hscan ht]
      exact ofTokens_append_of_completed hrun hus
    exact ⟨cause, hcause, ⟨fun _ => ⟨t, e, hcompleted⟩, fun _ => hmessage⟩,
      fun hnot => absurd hmessage hnot⟩
  · obtain ⟨front, t, rest, p, rfl, hfront, ht, hrefuses⟩ := hrefused
    have hnot := hrefuses.message_not_mem
    have hsame : ∀ u us, scan u = .ok us → parse (s ++ " " ++ u) = .error fault :=
      fun u us hu => parse_append_space_of_refused hscan hfront ht hu
    have hnone : ¬ ∃ u e, parse (s ++ " " ++ u) = .ok e := by
      intro ⟨u, e, hu⟩
      obtain ⟨us, hus⟩ := exists_scan_of_parse_append hscan hu
      rw [hsame u us hus] at hu
      cases hu
    obtain ⟨-, us, e, -, hviable⟩ := p.exists_completion
    exact ⟨cause, hcause, ⟨fun h => absurd h hnot, fun h => absurd h hnone⟩, fun _ => ⟨hsame,
      front, t, rest, rfl, ⟨us, e, ofTokens_append_of_completed hfront hviable⟩,
      ofTokens_append_of_refused hfront ht, counts_of_refuses hfront hrefuses⟩⟩

/-- A parenthesis can still be closed, and a second name is one too many. -/
theorem parse_refuses_first_hopeless_token_of_names :
    scan "(a" = .ok [.opening, .name "a"] ∧ parse "(a" = .error (.malformed .unclosedAtEnd) ∧
      (∃ t e, parse ("(a" ++ " " ++ t) = .ok e) ∧
      scan "a b" = .ok [.name "a", .name "b"] ∧
      parse "a b" = .error (.malformed (.unexpectedToken (.name "b"))) ∧
      ∀ t us, scan t = .ok us →
        parse ("a b" ++ " " ++ t) = .error (.malformed (.unexpectedToken (.name "b"))) := by
  have hopen : scan "(a" = .ok [.opening, .name "a"] := by rfl
  have hunclosed : parse "(a" = .error (.malformed .unclosedAtEnd) := by rfl
  have hnames : scan "a b" = .ok [.name "a", .name "b"] := by rfl
  have hsecond : parse "a b" = .error (.malformed (.unexpectedToken (.name "b"))) := by rfl
  refine ⟨hopen, hunclosed, ?_, hnames, hsecond, ?_⟩
  · obtain ⟨cause, hcause, hend, -⟩ := parse_refuses_first_hopeless_token _ _ _ hopen hunclosed
    cases hcause
    exact hend.1 (by decide)
  · obtain ⟨cause, hcause, -, hother⟩ := parse_refuses_first_hopeless_token _ _ _ hnames hsecond
    cases hcause
    exact (hother (by decide)).1

end ReactiveGrid.Expr
