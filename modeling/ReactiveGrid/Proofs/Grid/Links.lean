import ReactiveGrid.Proofs.Grid.Cells

/-!
# The links of a grid, read off its texts

A text refers to an address if it is an equals sign followed by a name of the address, and the address
lies inside the grid. In a grid that was built up by operations a cell reads that one address and no
other, both in the graph and in the names that the cell keeps itself. So the dependents of an address
are the cells whose texts refer to it, and everything that is linked lies inside.
-/

namespace ReactiveGrid

theorem formula?_eq_some_iff {text name : String} :
    formula? text = some name ↔ text = "=" ++ name := by
  have heq : text = "=" ++ name ↔ text.toList = formulaMarker :: name.toList := by
    rw [← String.toList_inj, String.toList_append]
    rfl
  rw [heq]
  unfold formula?
  split
  · next hnil =>
    rw [hnil]
    simp
  · next c rest hcons =>
    rw [hcons, List.cons.injEq]
    split
    · next hc => simp [hc, ← String.toList_inj]
    · next hc => simp [hc]

namespace Shape

variable {s : Shape} {text name : String} {t : Address}

/-- The text is an equals sign and then a name of an address inside. -/
def Names (s : Shape) (text : String) (t : Address) : Prop :=
  ∃ name, text = "=" ++ name ∧ Address.parse name = .ok t ∧ s.Contains t

/-- The text is an equals sign and then no name of an address inside. -/
def Dangles (s : Shape) (text : String) : Prop :=
  ∃ name, text = "=" ++ name ∧ ¬ ∃ t, Address.parse name = .ok t ∧ s.Contains t

theorem resolve?_eq_some_iff :
    s.resolve? name = some t ↔ Address.parse name = .ok t ∧ s.Contains t := by
  unfold resolve?
  cases Address.parse name with
  | error cause => simp
  | ok a =>
    by_cases ha : s.Contains a
    · simp only [if_pos ha, Option.some.injEq, Except.ok.injEq]
      exact ⟨fun h => ⟨h, h ▸ ha⟩, And.left⟩
    · simp only [if_neg ha, reduceCtorEq, Except.ok.injEq, false_iff]
      rintro ⟨rfl, h⟩
      exact ha h

theorem target?_eq_some_iff : s.target? text = some t ↔ s.Names text t := by
  unfold target? Names
  simp only [Option.bind_eq_some_iff, formula?_eq_some_iff, resolve?_eq_some_iff]

theorem target?_eq_none_iff : s.target? text = none ↔ ¬ ∃ t, s.Names text t := by
  rw [Option.eq_none_iff_forall_ne_some, not_exists]
  exact forall_congr' fun t => not_congr target?_eq_some_iff

theorem dangles_iff :
    s.Dangles text ↔ ∃ name, formula? text = some name ∧ s.resolve? name = none := by
  unfold Dangles
  simp only [formula?_eq_some_iff, Option.eq_none_iff_forall_ne_some, ne_eq, resolve?_eq_some_iff,
    not_exists]

instance (s : Shape) (text : String) : Decidable (s.Dangles text) :=
  decidable_of_iff ((formula? text).any (fun name => (s.resolve? name).isNone) = true) (by
    simp only [dangles_iff, Option.any_eq_true, Option.isNone_iff_eq_none])

theorem Dangles.target?_eq_none (h : s.Dangles text) : s.target? text = none := by
  obtain ⟨name, hname, hnone⟩ := dangles_iff.1 h
  rw [target?, hname, Option.bind_some, hnone]

end Shape

namespace Dependency.Graph

theorem precedents_eq_toList {g : Graph} {d : Address} {source : Option Address}
    (h : ∀ p, g.Feeds p d ↔ source = some p) : g.precedents d = source.toList := by
  have hmem : ∀ p, p ∈ g.precedents d ↔ p ∈ source.toList := by
    intro p
    rw [mem_precedents, Option.mem_toList]
    exact h p
  have hnodup : source.toList.Nodup := by
    cases source with
    | none => exact List.nodup_nil
    | some p => exact List.nodup_singleton p
  have hperm := (List.perm_ext_iff_of_nodup (g.nodup_precedents d) hnodup).2 hmem
  cases source with
  | none => exact hperm.eq_nil
  | some p => exact hperm.eq_singleton

end Dependency.Graph

namespace Grid
open Dependency

variable {g : Grid} {a p d : Address} {c : Cell}

theorem Linked.precedents_eq (h : g.Linked) (a : Address) :
    g.graph.precedents a = (g.shape.target? (g.text a)).toList :=
  Graph.precedents_eq_toList fun p => h p a

theorem Linked.contains_of_feeds (h : g.Linked) (hpd : g.graph.Feeds p d) :
    g.shape.Contains p ∧ g.shape.Contains d := by
  have hrefers : g.shape.Refers g.text d p := (h p d).1 hpd
  refine ⟨hrefers.contains, ?_⟩
  by_contra hd
  rw [Shape.Refers, text_of_not_contains hd, target?_empty] at hrefers
  cases hrefers

theorem Linked.mem_dependents_iff (h : g.Linked) :
    d ∈ g.graph.dependents a ↔ g.shape.Contains d ∧ g.shape.Names (g.text d) a := by
  rw [← Shape.target?_eq_some_iff]
  exact ⟨fun hd => ⟨(h.contains_of_feeds hd).2, (h a d).1 hd⟩, fun hd => (h a d).2 hd.2⟩

theorem Sound.referencedNames_eq (h : g.Sound) (hc : g.cell? a = some c) :
    c.referencedNames = (g.shape.target? (g.text a)).toList.map Address.name := by
  unfold Cell.referencedNames
  rw [(h.cells a c hc).reference_eq, text_of_cell? hc]

end Grid

end ReactiveGrid
