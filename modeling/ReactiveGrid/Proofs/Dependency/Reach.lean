import Mathlib.Logic.Relation
import ReactiveGrid.Dependency.Graph

/-!
# What a change of a cell can reach

A cell feeds the cells that read it. What can be reached by feeding, in any number of steps, is all
that a change of the cell may have to renew. A cell on a cycle can be reached from itself in one step
or more; a cell that reads itself is on a cycle.
-/

namespace ReactiveGrid.Dependency.Graph
open Relation

/-- The second cell reads the first. -/
def Feeds (g : Graph) (p d : Address) : Prop := d ∈ g.dependents p

instance (g : Graph) (p d : Address) : Decidable (g.Feeds p d) :=
  inferInstanceAs (Decidable (d ∈ g.dependents p))

/-- The second cell is the first, or reads it directly or through others. -/
def Reaches (g : Graph) : Address → Address → Prop := ReflTransGen g.Feeds

/-- The cell reads itself, directly or through others. -/
def OnCycle (g : Graph) (c : Address) : Prop := TransGen g.Feeds c c

theorem Reaches.refl {g : Graph} (c : Address) : g.Reaches c c := ReflTransGen.refl

theorem Reaches.trans {g : Graph} {a b c : Address} (hab : g.Reaches a b) (hbc : g.Reaches b c) :
    g.Reaches a c :=
  ReflTransGen.trans hab hbc

theorem Feeds.reaches {g : Graph} {p d : Address} (h : g.Feeds p d) : g.Reaches p d :=
  ReflTransGen.single h

theorem Reaches.onCycle {g : Graph} {c d : Address} (hd : g.Feeds c d) (hc : g.Reaches d c) :
    g.OnCycle c :=
  TransGen.head' hd hc

theorem Reaches.onCycle_of_feeds {g : Graph} {c d : Address} (hd : g.Reaches c d) (hc : g.Feeds d c) :
    g.OnCycle c :=
  TransGen.tail' hd hc

theorem onCycle_iff {g : Graph} {c : Address} : g.OnCycle c ↔ ∃ d, g.Feeds c d ∧ g.Reaches d c :=
  TransGen.head'_iff

theorem Reaches.onCycle_of_ne {g : Graph} {c d : Address} (hne : c ≠ d) (hcd : g.Reaches c d)
    (hdc : g.Reaches d c) : g.OnCycle c := by
  rcases ReflTransGen.cases_head hcd with heq | ⟨e, hce, hed⟩
  · exact absurd heq hne
  · exact Reaches.onCycle hce (hed.trans hdc)

theorem Reaches.mem_of_closed {g : Graph} {S : Address → Prop} {c d : Address}
    (hS : ∀ p q, S p → g.Feeds p q → S q) (h : g.Reaches c d) (hc : S c) : S d := by
  induction h with
  | refl => exact hc
  | tail _ hedge ih => exact hS _ _ ih hedge

/-! ### Graphs that differ only in what feeds one cell -/

section

variable {g g' : Graph} {a c : Address}

theorem Reaches.of_agree (h : ∀ p d, d ≠ a → g.Feeds p d → g'.Feeds p d) (hc : g.Reaches a c) :
    g'.Reaches a c := by
  induction hc with
  | refl => exact Reaches.refl a
  | @tail p d _ hpd ih =>
    by_cases hd : d = a
    · rw [hd]
      exact Reaches.refl a
    · exact ih.trans (h p d hd hpd).reaches

theorem OnCycle.of_agree (h : ∀ p d, d ≠ a → g.Feeds p d → g'.Feeds p d) (hc : ¬ g.Reaches a c)
    (hcycle : g.OnCycle c) : g'.OnCycle c := by
  suffices ∀ x, TransGen g.Feeds x c → TransGen g'.Feeds x c from this c hcycle
  intro x hx
  induction hx using TransGen.head_induction_on with
  | @single x hxc =>
    have hne : c ≠ a := by
      rintro rfl
      exact hc (Reaches.refl c)
    exact TransGen.single (h x c hne hxc)
  | @head x y hxy hyc ih =>
    have hne : y ≠ a := by
      rintro rfl
      exact hc hyc.to_reflTransGen
    exact TransGen.head (h x y hne hxy) ih

/-- Such graphs have the same cycles through every cell that the one cell does not reach. -/
theorem onCycle_congr (h : ∀ p d, d ≠ a → (g.Feeds p d ↔ g'.Feeds p d)) (hc : ¬ g'.Reaches a c) :
    g.OnCycle c ↔ g'.OnCycle c := by
  have hc' : ¬ g.Reaches a c := fun hreach =>
    hc (hreach.of_agree fun p d hd => (h p d hd).1)
  exact ⟨OnCycle.of_agree (fun p d hd => (h p d hd).1) hc',
    OnCycle.of_agree (fun p d hd => (h p d hd).2) hc⟩

end

end ReactiveGrid.Dependency.Graph
