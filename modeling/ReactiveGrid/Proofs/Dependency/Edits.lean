import Mathlib.Data.List.Induction
import ReactiveGrid.Proofs.Dependency.Reach
import ReactiveGrid.Proofs.Latest
import ReactiveGrid.Dependency.Cycles
import ReactiveGrid.Dependency.Walk

/-!
# The links that edits leave

A graph is built up by linking pairs of cells and by clearing cells, in any order. A link stands if it
was made and its dependent was not cleared afterwards. Main statements: both directions of the graph
list exactly the links that stand, in address order and without empty entries, and what is computed
from a graph depends on nothing else of the edits.
-/

namespace ReactiveGrid.Dependency

inductive Edit where
  | link (precedent dependent : Address)
  | clear (cell : Address)
deriving DecidableEq

def Edit.apply (g : Graph) : Edit → Graph
  | link p d => g.link p d
  | clear c => g.clear c

/-- The link was made, and its dependent was not cleared afterwards. -/
def Stands (edits : List Edit) (p d : Address) : Prop :=
  ∃ before after, edits = before ++ .link p d :: after ∧ .clear d ∉ after

section

variable {edits : List Edit} {c p d : Address}

theorem stands_iff_since : Stands edits p d ↔ Since (· = .link p d) (· = .clear d) edits := by
  constructor
  · rintro ⟨before, after, heq, hafter⟩
    exact ⟨before, _, after, heq, rfl, fun e he hclear => hafter (hclear ▸ he)⟩
  · rintro ⟨before, _, after, heq, rfl, hafter⟩
    exact ⟨before, after, heq, fun hclear => hafter _ hclear rfl⟩

theorem not_stands_nil : ¬ Stands [] p d := by
  rw [stands_iff_since]
  exact not_since_nil

theorem stands_concat {e : Edit} :
    Stands (edits ++ [e]) p d ↔ e = .link p d ∨ (Stands edits p d ∧ e ≠ .clear d) := by
  rw [stands_iff_since, stands_iff_since, since_concat]

theorem stands_concat_clear :
    Stands (edits ++ [.clear c]) p d ↔ Stands edits p d ∧ d ≠ c := by
  rw [stands_concat]
  simp [eq_comm]

end

theorem Links.mem_sets_iff {l : Links} {source : Address} :
    source ∈ l.sets ↔ ∃ target, target ∈ l.targets source := by
  rw [Std.ExtTreeMap.mem_iff_isSome_getElem?, targets_def]
  have hne := l.ne_empty source
  cases hl : l.sets[source]? with
  | none => simp
  | some set =>
    rw [hl] at hne
    have hset : set ≠ ∅ := fun h => hne (congrArg some h)
    simpa [Std.ExtTreeSet.eq_empty_iff_forall_not_mem] using hset

/-- A list in address order is told by its members. -/
theorem eq_of_pairwise {cells cells' : List Address}
    (h : cells.Pairwise fun a b => compare a b = .lt)
    (h' : cells'.Pairwise fun a b => compare a b = .lt) (hmem : ∀ a, a ∈ cells ↔ a ∈ cells') :
    cells = cells' := by
  have hperm : cells.Perm cells' := (List.perm_ext_iff_of_nodup (Address.nodup_of_pairwise h)
    (Address.nodup_of_pairwise h')).2 hmem
  refine hperm.eq_of_pairwise (fun a b _ _ hab hba => ?_) h h'
  rw [Address.compare_eq_lt_iff] at hab hba
  omega

namespace Graph

/-- The graph that edits lead to from one without links. -/
def ofEdits (edits : List Edit) : Graph :=
  edits.foldl Edit.apply empty

variable {edits : List Edit} {c p d : Address}

theorem ofEdits_concat (edits : List Edit) (e : Edit) :
    ofEdits (edits ++ [e]) = e.apply (ofEdits edits) := by
  unfold ofEdits
  rw [List.foldl_append, List.foldl_cons, List.foldl_nil]

theorem mem_dependents_ofEdits : d ∈ (ofEdits edits).dependents p ↔ Stands edits p d := by
  induction edits using List.reverseRecOn with
  | nil => exact iff_of_false not_mem_dependents_empty not_stands_nil
  | append_singleton edits e ih =>
    rw [ofEdits_concat, stands_concat, ← ih]
    cases e with
    | link a b =>
      simp only [Edit.apply, mem_dependents_link, Edit.link.injEq, ne_eq, reduceCtorEq,
        not_false_eq_true, and_true]
      rw [eq_comm (a := p), eq_comm (a := d)]
    | clear c =>
      simp only [Edit.apply, mem_dependents_clear, ne_eq, Edit.clear.injEq, reduceCtorEq, false_or]
      rw [and_comm, eq_comm (a := d)]

theorem mem_precedents_ofEdits : p ∈ (ofEdits edits).precedents d ↔ Stands edits p d := by
  rw [mem_precedents, mem_dependents_ofEdits]

theorem ofEdits_congr {edits' : List Edit}
    (h : ∀ p d, Stands edits p d ↔ Stands edits' p d) : ofEdits edits = ofEdits edits' := by
  refine ext_dependents fun p d => ?_
  rw [mem_dependents_ofEdits, mem_dependents_ofEdits, h p d]

/-! ### Clearing, on the lists -/

theorem dependents_clear (g : Graph) (c p : Address) :
    (g.clear c).dependents p = (g.dependents p).filter (· ≠ c) := by
  refine eq_of_pairwise (pairwise_dependents ..) ((pairwise_dependents ..).filter _) fun d => ?_
  rw [mem_dependents_clear, List.mem_filter, decide_eq_true_iff, and_comm]

theorem precedents_clear (g : Graph) (c d : Address) :
    (g.clear c).precedents d = if d = c then [] else g.precedents d := by
  have hmem : ∀ p, p ∈ (g.clear c).precedents d ↔ d ≠ c ∧ p ∈ g.precedents d := by
    intro p
    rw [mem_precedents, mem_dependents_clear, mem_precedents]
  split
  · next hd => exact List.eq_nil_iff_forall_not_mem.2 fun p hp => ((hmem p).1 hp).1 hd
  · next hd =>
    refine eq_of_pairwise (pairwise_precedents ..) (pairwise_precedents ..) fun p => ?_
    rw [hmem, and_iff_right hd]

/-- Whatever the edits were, the graph lists the links that stand: for each cell its precedents and
its dependents, by rows and then columns, with an entry exactly for the cells that have some. Clearing
a cell takes away the links to it and no others. Two lists of edits that leave the same links lead to
the same order of recalculation and to the same cells on cycles. -/
theorem edits_told_by_standing_links (edits : List Edit) :
    (∀ d, ((ofEdits edits).precedents d).Pairwise
        (fun a b => a.row < b.row ∨ a.row = b.row ∧ a.column < b.column) ∧
      ∀ p, p ∈ (ofEdits edits).precedents d ↔ Stands edits p d) ∧
    (∀ p, ((ofEdits edits).dependents p).Pairwise
        (fun a b => a.row < b.row ∨ a.row = b.row ∧ a.column < b.column) ∧
      ∀ d, d ∈ (ofEdits edits).dependents p ↔ Stands edits p d) ∧
    (∀ c, (ofEdits edits).readers.sets[c]? ≠ some ∅ ∧
      (c ∈ (ofEdits edits).readers.sets ↔ ∃ d, Stands edits c d) ∧
      (ofEdits edits).sources.sets[c]? ≠ some ∅ ∧
      (c ∈ (ofEdits edits).sources.sets ↔ ∃ p, Stands edits p c)) ∧
    (∀ c, (∀ p d, Stands (edits ++ [.clear c]) p d ↔ Stands edits p d ∧ d ≠ c) ∧
      (∀ p, (ofEdits (edits ++ [.clear c])).dependents p =
        ((ofEdits edits).dependents p).filter (· ≠ c)) ∧
      ∀ d, (ofEdits (edits ++ [.clear c])).precedents d =
        if d = c then [] else (ofEdits edits).precedents d) ∧
    ∀ edits', (∀ p d, Stands edits p d ↔ Stands edits' p d) →
      ∀ c, (ofEdits edits).recalculationOrder c = (ofEdits edits').recalculationOrder c ∧
        (ofEdits edits).cyclicCells c = (ofEdits edits').cyclicCells c ∧
        (ofEdits edits).isCyclic c = (ofEdits edits').isCyclic c := by
  refine ⟨fun d => ⟨?_, fun p => mem_precedents_ofEdits⟩,
    fun p => ⟨?_, fun d => mem_dependents_ofEdits⟩, fun c => ⟨?_, ?_, ?_, ?_⟩,
    fun c => ⟨fun p d => stands_concat_clear, ?_, ?_⟩, ?_⟩
  · exact (pairwise_precedents ..).imp Address.compare_eq_lt_iff.1
  · exact (pairwise_dependents ..).imp Address.compare_eq_lt_iff.1
  · exact (ofEdits edits).readers.ne_empty c
  · rw [Links.mem_sets_iff]
    simp only [← mem_dependents, mem_dependents_ofEdits]
  · exact (ofEdits edits).sources.ne_empty c
  · rw [Links.mem_sets_iff]
    simp only [← (ofEdits edits).mirrored, ← mem_dependents, mem_dependents_ofEdits]
  · intro p
    rw [ofEdits_concat]
    exact dependents_clear ..
  · intro d
    rw [ofEdits_concat]
    exact precedents_clear ..
  · intro edits' h c
    rw [ofEdits_congr h]
    exact ⟨rfl, rfl, rfl⟩

end Graph

end ReactiveGrid.Dependency
