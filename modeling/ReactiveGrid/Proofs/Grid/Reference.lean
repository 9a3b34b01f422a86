import Mathlib.Data.Fintype.Card
import Mathlib.Data.Finite.Prod
import Mathlib.Logic.Relation
import ReactiveGrid.Shape

/-!
# Where the references of a cell end

The texts of a grid alone say which cell refers to which. Following references from a cell, one comes
to a cell whose text refers to nothing, or to a cell on a cycle of references; the chain of the cell
ends at the first of these. A grid is finite, so every chain ends, and each cell refers to one cell at
most, so it ends in one place only.
-/

namespace ReactiveGrid.Shape
open Relation

/-- The text of the first cell refers to the second. -/
def Refers (s : Shape) (text : Address → String) (c t : Address) : Prop :=
  s.target? (text c) = some t

def RefersInCycle (s : Shape) (text : Address → String) (c : Address) : Prop :=
  TransGen (s.Refers text) c c

/-- The chain of references from the first cell ends at the second. -/
inductive EndsAt (s : Shape) (text : Address → String) : Address → Address → Prop where
  | noReference (c : Address) (h : ∀ t, ¬ s.Refers text c t) : EndsAt s text c c
  | onCycle (c : Address) (h : s.RefersInCycle text c) : EndsAt s text c c
  | follow (c t e : Address) (hct : s.Refers text c t) (hc : ¬ s.RefersInCycle text c)
      (h : EndsAt s text t e) : EndsAt s text c e

variable {s : Shape} {text : Address → String} {c t e : Address}

theorem Refers.unique {u : Address} (ht : s.Refers text c t) (hu : s.Refers text c u) : t = u :=
  Option.some.inj (ht.symm.trans hu)

/-- A cell on a cycle refers to one cell only, so the cycle goes on through that cell. -/
theorem RefersInCycle.of_refers (hc : s.RefersInCycle text c) (hct : s.Refers text c t) :
    s.RefersInCycle text t := by
  obtain ⟨u, hcu, huc⟩ := TransGen.head'_iff.1 hc
  obtain rfl := hct.unique hcu
  exact TransGen.tail' huc hct

theorem not_refersInCycle_of_no_reference (h : ∀ t, ¬ s.Refers text c t) :
    ¬ s.RefersInCycle text c := by
  intro hc
  obtain ⟨t, hct, -⟩ := TransGen.head'_iff.1 hc
  exact h t hct

theorem contains_of_resolve? {name : String} (h : s.resolve? name = some t) : s.Contains t := by
  unfold resolve? at h
  split at h
  · split at h
    · next hin =>
      obtain rfl := Option.some.inj h
      exact hin
    · cases h
  · cases h

theorem Refers.contains (h : s.Refers text c t) : s.Contains t := by
  obtain ⟨name, _, hname⟩ := Option.bind_eq_some_iff.1 h
  exact contains_of_resolve? hname

theorem EndsAt.contains (h : s.EndsAt text c e) (hc : s.Contains c) : s.Contains e := by
  induction h with
  | noReference => exact hc
  | onCycle => exact hc
  | follow _ _ _ hct _ _ ih => exact ih hct.contains

theorem EndsAt.unique {f : Address} (he : s.EndsAt text c e) (hf : s.EndsAt text c f) : e = f := by
  induction he with
  | noReference c hno =>
    cases hf with
    | noReference => rfl
    | onCycle => rfl
    | follow _ t _ hct => exact absurd hct (hno t)
  | onCycle c hcycle =>
    cases hf with
    | noReference => rfl
    | onCycle => rfl
    | follow _ _ _ _ hc => exact absurd hcycle hc
  | follow c t e hct hc _ ih =>
    cases hf with
    | noReference _ hno => exact absurd hct (hno t)
    | onCycle _ hcycle => exact absurd hcycle hc
    | follow _ u _ hcu _ hu =>
      obtain rfl := hct.unique hcu
      exact ih hu

theorem EndsAt.eq_of_refersInCycle (h : s.EndsAt text c e) (hc : s.RefersInCycle text c) : e = c :=
  h.unique (.onCycle c hc)

theorem EndsAt.of_refers (h : s.EndsAt text c e) (hct : s.Refers text c t)
    (hc : ¬ s.RefersInCycle text c) : s.EndsAt text t e := by
  cases h with
  | noReference _ hno => exact absurd hct (hno t)
  | onCycle _ hcycle => exact absurd hcycle hc
  | follow _ u _ hcu _ hue =>
    obtain rfl := hct.unique hcu
    exact hue

/-! ### Every chain ends -/

instance (s : Shape) : Finite { a // s.Contains a } :=
  Finite.of_injective (fun a => (⟨s.index a.1, index_lt a.2⟩ : Fin s.size)) fun a b h =>
    Subtype.ext ((index_inj a.2 b.2).1 (Fin.mk.inj h))

/-- Following references off the cycles cannot go on forever. -/
theorem wellFounded_follow (s : Shape) (text : Address → String) :
    WellFounded fun t c : { a // s.Contains a } =>
      TransGen (s.Refers text) c.1 t.1 ∧ ¬ s.RefersInCycle text c.1 := by
  have htrans : IsTrans { a // s.Contains a } fun t c =>
      TransGen (s.Refers text) c.1 t.1 ∧ ¬ s.RefersInCycle text c.1 :=
    ⟨fun _ _ _ hba hcb => ⟨hcb.1.trans hba.1, hcb.2⟩⟩
  have hirrefl : Std.Irrefl fun t c : { a // s.Contains a } =>
      TransGen (s.Refers text) c.1 t.1 ∧ ¬ s.RefersInCycle text c.1 :=
    ⟨fun _ h => h.2 h.1⟩
  exact Finite.wellFounded_of_trans_of_irrefl _

theorem exists_endsAt_of_contains (hc : s.Contains c) : ∃ e, s.EndsAt text c e := by
  have hall : ∀ c : { a // s.Contains a }, ∃ e, s.EndsAt text c.1 e := by
    intro c
    induction c using (wellFounded_follow s text).induction with
    | h c ih =>
      by_cases hcycle : s.RefersInCycle text c.1
      · exact ⟨c.1, .onCycle c.1 hcycle⟩
      · cases ht : s.target? (text c.1) with
        | none =>
          refine ⟨c.1, .noReference c.1 fun t hct => ?_⟩
          rw [Refers, ht] at hct
          cases hct
        | some t =>
          have hct : s.Refers text c.1 t := ht
          obtain ⟨e, he⟩ := ih ⟨t, hct.contains⟩ ⟨TransGen.single hct, hcycle⟩
          exact ⟨e, .follow c.1 t e hct hcycle he⟩
  exact hall ⟨c, hc⟩

end ReactiveGrid.Shape
