import Mathlib.Logic.Relation
import ReactiveGrid.Proofs.Latest
import ReactiveGrid.Proofs.Text.Lines
import ReactiveGrid.Script

/-!
# What a script says

A line of a script is skipped, or it enters a text for a cell of the grid, or it is refused. A script
in which no line is refused says of each cell which text was entered for it last. Main statement:
this is all that its variants have in common with it, in which lines are skipped, swapped, spelled
differently or overridden.
-/

namespace ReactiveGrid.Script
open Relation

def linesOf (source : String) : List (List Char) :=
  source.toList.splitOn '\n'

/-! ### Lines -/

def Skipped (line : List Char) : Prop :=
  Text.trim line = [] ∨ ∃ comment, Text.trim line = '#' :: comment

/-- What the line assigns to which name: the text after the first equals sign to the name before it,
or nothing to the name that is the whole line. -/
inductive Assigns (line : List Char) : String → String → Prop where
  | text (before after : List Char) (h : Text.trim line = before ++ '=' :: after)
      (hbefore : '=' ∉ before) :
      Assigns line (String.ofList (Text.trim before)) (String.ofList (Text.trim after))
  | clear (h : '=' ∉ Text.trim line) : Assigns line (String.ofList (Text.trim line)) ""

/-- The line enters the text for the cell, which is in the grid. -/
def Enters (s : Shape) (line : List Char) (a : Address) (text : String) : Prop :=
  ¬ Skipped line ∧ ∃ name, Assigns line name text ∧ Address.parse name = .ok a ∧ s.Contains a

section

variable {number : Nat} {line : List Char}

theorem entry?_of_trim_eq {line' : List Char} (h : Text.trim line = Text.trim line') :
    entry? number line = entry? number line' := by
  unfold entry?
  rw [h]

theorem entry?_eq_none_iff : entry? number line = none ↔ Skipped line := by
  unfold entry? Skipped
  split
  · next h => simp [h]
  · next comment h => simp [h]
  · next hne hcomment =>
    refine iff_of_false ?_ ?_
    · split <;> exact Option.some_ne_none _
    · rintro (h | ⟨comment, h⟩)
      · exact hne h
      · exact hcomment comment h

theorem entry?_of_not_skipped (h : ¬ Skipped line) :
    entry? number line = match Text.splitAtFirst? '=' (Text.trim line) with
      | some (name, text) =>
        some ⟨number, String.ofList (Text.trim name), String.ofList (Text.trim text)⟩
      | none => some ⟨number, String.ofList (Text.trim line), ""⟩ := by
  unfold entry?
  split
  · next hempty => exact absurd (Or.inl hempty) h
  · next comment hcomment => exact absurd (Or.inr ⟨comment, hcomment⟩) h
  · rfl

theorem entry?_eq_some_iff {e : Entry} : entry? number line = some e ↔
    ¬ Skipped line ∧ e.line = number ∧ Assigns line e.name e.text := by
  by_cases hskip : Skipped line
  · rw [entry?_eq_none_iff.2 hskip]
    simp [hskip]
  rw [entry?_of_not_skipped hskip, and_iff_right hskip]
  constructor
  · intro he
    split at he
    · next before after hsplit =>
      obtain rfl := Option.some.inj he
      obtain ⟨htrim, hbefore⟩ := Text.splitAtFirst?_eq_some_iff.1 hsplit
      exact ⟨rfl, .text before after htrim hbefore⟩
    · next hsplit =>
      obtain rfl := Option.some.inj he
      exact ⟨rfl, .clear (Text.splitAtFirst?_eq_none_iff.1 hsplit)⟩
  · obtain ⟨_, name, text⟩ := e
    rintro ⟨rfl, hassigns⟩
    cases hassigns with
    | text before after htrim hbefore =>
      rw [Text.splitAtFirst?_eq_some_iff.2 ⟨htrim, hbefore⟩]
      rfl
    | clear h =>
      rw [Text.splitAtFirst?_eq_none_iff.2 h]
      rfl

end

section

variable {s : Shape} {line line' : List Char} {a b : Address} {text text' : String}

theorem enters_iff (number : Nat) : Enters s line a text ↔
    ∃ name, entry? number line = some ⟨number, name, text⟩ ∧ Address.parse name = .ok a ∧
      s.Contains a := by
  unfold Enters
  simp only [entry?_eq_some_iff, true_and]
  constructor
  · rintro ⟨hskip, name, hassigns, hname⟩
    exact ⟨name, ⟨hskip, hassigns⟩, hname⟩
  · rintro ⟨name, ⟨hskip, hassigns⟩, hname⟩
    exact ⟨hskip, name, hassigns, hname⟩

theorem Enters.contains (h : Enters s line a text) : s.Contains a :=
  let ⟨_, _, _, _, ha⟩ := h
  ha

/-- A line enters one text for one cell at most. -/
theorem Enters.unique (h : Enters s line a text) (h' : Enters s line b text') :
    a = b ∧ text = text' := by
  obtain ⟨name, hentry, hname, -⟩ := (enters_iff 0).1 h
  obtain ⟨name', hentry', hname', -⟩ := (enters_iff 0).1 h'
  obtain ⟨-, rfl, rfl⟩ := Entry.mk.inj (Option.some.inj (hentry.symm.trans hentry'))
  exact ⟨Except.ok.inj (hname.symm.trans hname'), rfl⟩

end

/-! ### Scripts -/

section

variable {s : Shape} {lines lines' front back : List (List Char)} {line : List Char}
  {a b : Address} {text text' : String}

/-- Every line is skipped or enters a text for a cell of the grid. -/
def Legal (s : Shape) (lines : List (List Char)) : Prop :=
  ∀ line ∈ lines, Skipped line ∨ ∃ a text, Enters s line a text

def Untouched (s : Shape) (lines : List (List Char)) (a : Address) : Prop :=
  ∀ line ∈ lines, ∀ text, ¬ Enters s line a text

/-- The text that was entered last for a cell, which is none if nothing was entered for it. -/
inductive LastText (s : Shape) (lines : List (List Char)) (a : Address) : String → Prop where
  | entered (front : List (List Char)) (line : List Char) (back : List (List Char)) (text : String)
      (h : lines = front ++ line :: back) (hline : Enters s line a text)
      (hback : Untouched s back a) : LastText s lines a text
  | never (h : Untouched s lines a) : LastText s lines a ""

theorem untouched_nil : Untouched s [] a := by
  intro line hline
  cases hline

theorem untouched_append :
    Untouched s (front ++ back) a ↔ Untouched s front a ∧ Untouched s back a :=
  List.forall_mem_append

theorem untouched_singleton : Untouched s [line] a ↔ ∀ text, ¬ Enters s line a text :=
  List.forall_mem_singleton

theorem untouched_of_skipped (h : Skipped line) : Untouched s [line] a :=
  untouched_singleton.2 fun _ hline => hline.1 h

theorem Enters.not_untouched (h : Enters s line a text) (hmem : line ∈ lines) :
    ¬ Untouched s lines a := fun hno => hno line hmem text h

theorem Enters.untouched_of_ne (h : Enters s line a text) (hne : a ≠ b) :
    Untouched s [line] b :=
  untouched_singleton.2 fun _ hline => hne (h.unique hline).1

theorem untouched_iff_silent :
    Untouched s lines a ↔ ∀ line ∈ lines, ¬ ∃ text, Enters s line a text := by
  simp only [Untouched, not_exists]

theorem lastText_iff_latest :
    LastText s lines a text ↔ Latest (fun line text => Enters s line a text) "" lines text := by
  constructor
  · rintro (⟨front, line, back, _, heq, hline, hback⟩ | hnever)
    · exact Or.inl ⟨front, line, back, heq, hline, untouched_iff_silent.1 hback⟩
    · exact Or.inr ⟨rfl, untouched_iff_silent.1 hnever⟩
  · rintro (⟨front, line, back, heq, hline, hback⟩ | ⟨rfl, hnever⟩)
    · exact .entered front line back text heq hline (untouched_iff_silent.2 hback)
    · exact .never (untouched_iff_silent.2 hnever)

theorem lastText_append_of_untouched (hback : Untouched s back a) :
    LastText s (front ++ back) a text ↔ LastText s front a text := by
  rw [lastText_iff_latest, lastText_iff_latest,
    latest_append_of_silent (untouched_iff_silent.1 hback)]

theorem lastText_append_of_touched (hback : ¬ Untouched s back a) :
    LastText s (front ++ back) a text ↔ LastText s back a text := by
  rw [untouched_iff_silent] at hback
  rw [lastText_iff_latest, lastText_iff_latest, latest_append_of_told hback]

theorem lastText_of_untouched (h : Untouched s lines a) : LastText s lines a text ↔ text = "" := by
  rw [← List.nil_append lines, lastText_append_of_untouched h, lastText_iff_latest, latest_nil]

theorem Enters.lastText_iff (h : Enters s line a text) :
    LastText s [line] a text' ↔ text' = text := by
  rw [lastText_iff_latest]
  refine latest_singleton_of_tells fun other => ⟨fun hother => (hother.unique h).2, ?_⟩
  rintro rfl
  exact h

theorem LastText.unique (h : LastText s lines a text) (h' : LastText s lines a text') :
    text = text' := by
  rw [lastText_iff_latest] at h h'
  exact h.unique (fun _ _ _ henters henters' => (henters.unique henters').2) h'

end

/-! ### Variants -/

/-- The two scripts say the same of the cell. -/
structure Agree (s : Shape) (lines lines' : List (List Char)) (a : Address) : Prop where
  untouched_iff : Untouched s lines a ↔ Untouched s lines' a
  lastText_iff : ∀ text, LastText s lines a text ↔ LastText s lines' a text

/-- One script comes from the other by a line that is skipped or that is overridden later, or by
another order or another spelling of its lines. -/
inductive Variant (s : Shape) : List (List Char) → List (List Char) → Prop where
  | skip (front back : List (List Char)) (line : List Char) (h : Skipped line) :
      Variant s (front ++ back) (front ++ line :: back)
  | override (front back : List (List Char)) (line later : List Char) (a : Address)
      (text text' : String) (h : Enters s line a text) (hmem : later ∈ back)
      (hlater : Enters s later a text') : Variant s (front ++ back) (front ++ line :: back)
  | swap (front back : List (List Char)) (line line' : List Char) (a b : Address)
      (text text' : String) (h : Enters s line a text) (h' : Enters s line' b text')
      (hne : a ≠ b) : Variant s (front ++ line :: line' :: back) (front ++ line' :: line :: back)
  | respell (front back : List (List Char)) (line line' : List Char) (a : Address) (text : String)
      (h : Enters s line a text) (h' : Enters s line' a text) :
      Variant s (front ++ line :: back) (front ++ line' :: back)

section

variable {s : Shape} {lines lines' front back : List (List Char)} {line line' : List Char}
  {a b : Address} {text text' : String}

theorem Agree.refl (s : Shape) (lines : List (List Char)) (a : Address) : Agree s lines lines a :=
  ⟨Iff.rfl, fun _ => Iff.rfl⟩

theorem Agree.symm (h : Agree s lines lines' a) : Agree s lines' lines a :=
  ⟨h.untouched_iff.symm, fun text => (h.lastText_iff text).symm⟩

theorem Agree.trans {lines'' : List (List Char)} (h : Agree s lines lines' a)
    (h' : Agree s lines' lines'' a) : Agree s lines lines'' a :=
  ⟨h.untouched_iff.trans h'.untouched_iff,
    fun text => (h.lastText_iff text).trans (h'.lastText_iff text)⟩

theorem Agree.append_right (h : Agree s lines lines' a) (back : List (List Char)) :
    Agree s (lines ++ back) (lines' ++ back) a where
  untouched_iff := by rw [untouched_append, untouched_append, h.untouched_iff]
  lastText_iff := by
    intro text
    by_cases hback : Untouched s back a
    · rw [lastText_append_of_untouched hback, lastText_append_of_untouched hback, h.lastText_iff]
    · rw [lastText_append_of_touched hback, lastText_append_of_touched hback]

theorem Agree.append_left (h : Agree s lines lines' a) (front : List (List Char)) :
    Agree s (front ++ lines) (front ++ lines') a where
  untouched_iff := by rw [untouched_append, untouched_append, h.untouched_iff]
  lastText_iff := by
    intro text
    by_cases hlines : Untouched s lines a
    · have hlines' := h.untouched_iff.1 hlines
      rw [lastText_append_of_untouched hlines, lastText_append_of_untouched hlines']
    · have hlines' := mt h.untouched_iff.2 hlines
      rw [lastText_append_of_touched hlines, lastText_append_of_touched hlines', h.lastText_iff]

/-- What says nothing of a cell may stand in front of any lines. -/
theorem agree_append_of_untouched (hfront : Untouched s front a) :
    Agree s lines (front ++ lines) a where
  untouched_iff := by rw [untouched_append, and_iff_right hfront]
  lastText_iff := by
    intro text
    by_cases hlines : Untouched s lines a
    · rw [lastText_append_of_untouched hlines, lastText_of_untouched hlines,
        lastText_of_untouched hfront]
    · rw [lastText_append_of_touched hlines]

/-- Anything may stand in front of lines that say what the text of the cell is. -/
theorem agree_append_of_touched (front : List (List Char)) (hlines : ¬ Untouched s lines a) :
    Agree s lines (front ++ lines) a where
  untouched_iff := iff_of_false hlines fun h => hlines (untouched_append.1 h).2
  lastText_iff := fun _ => (lastText_append_of_touched hlines).symm

theorem agree_append_comm (hfront : Untouched s front a) :
    Agree s (front ++ lines) (lines ++ front) a :=
  (agree_append_of_untouched hfront).symm.trans
    ⟨by rw [untouched_append, and_iff_left hfront],
      fun _ => (lastText_append_of_untouched hfront).symm⟩

/-- No cell is entered by both lines, so for each cell one of them says nothing. -/
theorem agree_swap (h : Enters s line a text) (h' : Enters s line' b text') (hne : a ≠ b)
    (c : Address) : Agree s [line, line'] [line', line] c := by
  by_cases hc : a = c
  · subst hc
    have hcomm : Agree s ([line'] ++ [line]) ([line] ++ [line']) a :=
      agree_append_comm (h'.untouched_of_ne (Ne.symm hne))
    exact hcomm.symm
  · exact agree_append_comm (h.untouched_of_ne hc)

theorem agree_respell (h : Enters s line a text) (h' : Enters s line' a text) (c : Address) :
    Agree s [line] [line'] c := by
  by_cases hc : a = c
  · subst hc
    constructor
    case untouched_iff =>
      exact iff_of_false (h.not_untouched (List.mem_singleton_self _))
        (h'.not_untouched (List.mem_singleton_self _))
    case lastText_iff => exact fun _ => h.lastText_iff.trans h'.lastText_iff.symm
  · have hline : Agree s [] [line] c := agree_append_of_untouched (h.untouched_of_ne hc)
    have hline' : Agree s [] [line'] c := agree_append_of_untouched (h'.untouched_of_ne hc)
    exact hline.symm.trans hline'

theorem Variant.agree (h : Variant s lines lines') (a : Address) : Agree s lines lines' a := by
  cases h with
  | skip front back line h =>
    exact (agree_append_of_untouched (untouched_of_skipped h)).append_left front
  | override front back line later b _ _ h hmem hlater =>
    refine Agree.append_left ?_ front
    by_cases hb : b = a
    · subst hb
      exact agree_append_of_touched [line] (hlater.not_untouched hmem)
    · exact agree_append_of_untouched (h.untouched_of_ne hb)
  | swap front back line line' b c _ _ h h' hne =>
    exact ((agree_swap h h' hne a).append_right back).append_left front
  | respell front back line line' b _ h h' =>
    exact ((agree_respell h h' a).append_right back).append_left front

/-! ### Legality of variants -/

theorem legal_append : Legal s (front ++ back) ↔ Legal s front ∧ Legal s back :=
  List.forall_mem_append

theorem legal_cons : Legal s (line :: lines) ↔
    (Skipped line ∨ ∃ a text, Enters s line a text) ∧ Legal s lines :=
  List.forall_mem_cons

theorem legal_cons_of_skipped (h : Skipped line) : Legal s (line :: lines) ↔ Legal s lines := by
  rw [legal_cons, and_iff_right (Or.inl h)]

theorem Enters.legal_cons_iff (h : Enters s line a text) :
    Legal s (line :: lines) ↔ Legal s lines := by
  rw [legal_cons, and_iff_right (Or.inr ⟨a, text, h⟩)]

theorem Variant.legal_iff (h : Variant s lines lines') : Legal s lines ↔ Legal s lines' := by
  cases h with
  | skip front back line h => rw [legal_append, legal_append, legal_cons_of_skipped h]
  | override front back line later a _ _ h => rw [legal_append, legal_append, h.legal_cons_iff]
  | swap front back line line' a b _ _ h h' =>
    simp only [legal_append, h.legal_cons_iff, h'.legal_cons_iff]
  | respell front back line line' a _ h h' =>
    rw [legal_append, legal_append, h.legal_cons_iff, h'.legal_cons_iff]

/-- Any number of variations keeps what a script says, and whether it is refused. -/
theorem agree_of_eqvGen_variant (h : EqvGen (Variant s) lines lines') :
    (Legal s lines ↔ Legal s lines') ∧ ∀ a, Agree s lines lines' a := by
  induction h with
  | rel _ _ h => exact ⟨h.legal_iff, h.agree⟩
  | refl lines => exact ⟨Iff.rfl, .refl s lines⟩
  | symm _ _ _ ih => exact ⟨ih.1.symm, fun a => (ih.2 a).symm⟩
  | trans _ _ _ _ _ ih ih' => exact ⟨ih.1.trans ih'.1, fun a => (ih.2 a).trans (ih'.2 a)⟩

end

end ReactiveGrid.Script
