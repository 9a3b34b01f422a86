import ReactiveGrid.Dependency.Links

/-!
# Dependency graphs

A cell depends on the cells that it reads, its precedents; the cells that read it are its
dependents. The graph keeps both directions, and each is the mirror image of the other. Main
statements: what linking and clearing do to the dependents, and that the dependents determine the
graph.
-/

namespace ReactiveGrid.Dependency

structure Graph where
  readers : Links := {}
  sources : Links := {}
  mirrored : ∀ p d, d ∈ readers.targets p ↔ p ∈ sources.targets d := by simp

namespace Graph

def empty : Graph := {}

/-- The cells that read a cell, in address order. -/
def dependents (g : Graph) (cell : Address) : List Address :=
  (g.readers.targets cell).toList

/-- The cells that a cell reads, in address order. -/
def precedents (g : Graph) (cell : Address) : List Address :=
  (g.sources.targets cell).toList

def link (g : Graph) (precedent dependent : Address) : Graph where
  readers := g.readers.insert precedent dependent
  sources := g.sources.insert dependent precedent
  mirrored := by
    intro p d
    simp [g.mirrored p d, and_comm]

theorem mem_targets_foldl_erase {sources : List Address} {l : Links} {c s t : Address} :
    t ∈ (sources.foldl (fun l p => l.erase p c) l).targets s ↔
      ¬(s ∈ sources ∧ t = c) ∧ t ∈ l.targets s := by
  induction sources generalizing l with
  | nil => simp
  | cons p ps ih =>
    rw [List.foldl_cons, ih, Links.mem_targets_erase, List.mem_cons]
    grind

/-- The graph in which a cell reads nothing. The cells that read it are kept. -/
def clear (g : Graph) (cell : Address) : Graph where
  readers := (g.precedents cell).foldl (fun l p => l.erase p cell) g.readers
  sources := g.sources.eraseSource cell
  mirrored := by
    intro p d
    rw [mem_targets_foldl_erase, Links.mem_targets_eraseSource, precedents,
      Std.ExtTreeSet.mem_toList, g.mirrored p d]
    grind

/-! ### The links of a graph -/

@[simp] theorem mem_dependents {g : Graph} {p d : Address} :
    d ∈ g.dependents p ↔ d ∈ g.readers.targets p :=
  Std.ExtTreeSet.mem_toList

theorem not_mem_dependents_empty {p d : Address} : d ∉ empty.dependents p := by
  have hno : empty.readers.targets p = ∅ := Links.targets_empty p
  rw [mem_dependents, hno]
  exact Std.ExtTreeSet.not_mem_empty

theorem mem_precedents {g : Graph} {p d : Address} : p ∈ g.precedents d ↔ d ∈ g.dependents p := by
  rw [mem_dependents, g.mirrored, precedents, Std.ExtTreeSet.mem_toList]

theorem mem_dependents_link {g : Graph} {a b p d : Address} :
    d ∈ (g.link a b).dependents p ↔ (p = a ∧ d = b) ∨ d ∈ g.dependents p := by
  simp [link]

theorem mem_dependents_clear {g : Graph} {c p d : Address} :
    d ∈ (g.clear c).dependents p ↔ d ≠ c ∧ d ∈ g.dependents p := by
  rw [mem_dependents, clear, mem_targets_foldl_erase, mem_precedents, mem_dependents,
    mem_dependents]
  grind

theorem ext_dependents {g h : Graph} (hd : ∀ p d, d ∈ g.dependents p ↔ d ∈ h.dependents p) :
    g = h := by
  have hreaders : g.readers = h.readers := by
    apply Links.ext_mem
    intro p d
    simpa using hd p d
  have hsources : g.sources = h.sources := by
    apply Links.ext_mem
    intro d p
    rw [← g.mirrored, ← h.mirrored, hreaders]
  cases g; cases h; cases hreaders; cases hsources; rfl

/-! ### The lists of dependents and of precedents -/

theorem pairwise_dependents (g : Graph) (cell : Address) :
    (g.dependents cell).Pairwise fun a b => compare a b = .lt :=
  Std.ExtTreeSet.ordered_toList

theorem pairwise_precedents (g : Graph) (cell : Address) :
    (g.precedents cell).Pairwise fun a b => compare a b = .lt :=
  Std.ExtTreeSet.ordered_toList

theorem nodup_dependents (g : Graph) (cell : Address) : (g.dependents cell).Nodup :=
  Address.nodup_of_pairwise (g.pairwise_dependents cell)

theorem nodup_precedents (g : Graph) (cell : Address) : (g.precedents cell).Nodup :=
  Address.nodup_of_pairwise (g.pairwise_precedents cell)

end Graph

end ReactiveGrid.Dependency
