import ReactiveGrid.Address

/-!
# Links between addresses

A finite relation on addresses: for each source, the set of its targets in address order. A source
without targets has no entry, so that two relations with the same links are equal.
-/

namespace ReactiveGrid.Dependency

structure Links where
  sets : Std.ExtTreeMap Address (Std.ExtTreeSet Address) := ∅
  /-- A source without targets has no entry. -/
  ne_empty : ∀ source : Address, sets[source]? ≠ some ∅ := by simp

namespace Links

def targets (l : Links) (source : Address) : Std.ExtTreeSet Address :=
  l.sets.getD source ∅

theorem targets_def (l : Links) (source : Address) :
    l.targets source = l.sets[source]?.getD ∅ :=
  Std.ExtTreeMap.getD_eq_getD_getElem?

theorem ext_mem {l m : Links} (h : ∀ s t, t ∈ l.targets s ↔ t ∈ m.targets s) : l = m := by
  have hsets : l.sets = m.sets := by
    apply Std.ExtTreeMap.ext_getElem?
    intro s
    have hs : l.sets[s]?.getD ∅ = m.sets[s]?.getD ∅ := by
      apply Std.ExtTreeSet.ext_mem
      intro t
      simpa [targets_def] using h s t
    cases hl : l.sets[s]? with
    | none =>
      cases hm : m.sets[s]? with
      | none => rfl
      | some v =>
        rw [hl, hm] at hs
        exact absurd (hm.trans (congrArg some hs.symm)) (m.ne_empty s)
    | some u =>
      cases hm : m.sets[s]? with
      | none =>
        rw [hl, hm] at hs
        exact absurd (hl.trans (congrArg some hs)) (l.ne_empty s)
      | some v =>
        rw [hl, hm] at hs
        exact congrArg some hs
  cases l; cases m; cases hsets; rfl

def insert (l : Links) (source target : Address) : Links where
  sets := l.sets.alter source fun old => some ((old.getD ∅).insert target)
  ne_empty := by
    intro s h
    rw [Std.ExtTreeMap.getElem?_alter] at h
    split at h
    · have hmem : target ∈ (l.sets[source]?.getD ∅).insert target :=
        Std.ExtTreeSet.mem_insert_self
      rw [Option.some.inj h] at hmem
      exact Std.ExtTreeSet.not_mem_empty hmem
    · exact l.ne_empty s h

/-- The set without one target, or nothing if no target is left. -/
def without (target : Address) (targets : Std.ExtTreeSet Address) :
    Option (Std.ExtTreeSet Address) :=
  let rest := targets.erase target
  if rest.isEmpty then none else some rest

theorem without_ne_empty {target : Address} {targets : Std.ExtTreeSet Address} :
    without target targets ≠ some ∅ := by
  unfold without
  dsimp only
  split
  · simp
  · next h =>
    intro he
    rw [Option.some.inj he] at h
    exact h Std.ExtTreeSet.isEmpty_empty

def erase (l : Links) (source target : Address) : Links where
  sets := l.sets.alter source fun old => old.bind (without target)
  ne_empty := by
    intro s h
    rw [Std.ExtTreeMap.getElem?_alter] at h
    split at h
    · obtain ⟨old, _, hold⟩ := Option.bind_eq_some_iff.1 h
      exact without_ne_empty hold
    · exact l.ne_empty s h

def eraseSource (l : Links) (source : Address) : Links where
  sets := l.sets.erase source
  ne_empty := by
    intro s h
    rw [Std.ExtTreeMap.getElem?_erase] at h
    split at h
    · cases h
    · exact l.ne_empty s h

/-! ### What each operation does to the links -/

@[simp] theorem targets_empty (s : Address) : ({} : Links).targets s = ∅ := by
  simp [targets]

@[simp] theorem mem_targets_insert {l : Links} {a b s t : Address} :
    t ∈ (l.insert a b).targets s ↔ (s = a ∧ t = b) ∨ t ∈ l.targets s := by
  rw [targets_def, targets_def]
  unfold insert
  rw [Std.ExtTreeMap.getElem?_alter]
  by_cases h : a = s
  · subst h
    simp [Std.ExtTreeSet.mem_insert, eq_comm (a := t)]
  · have h' : ¬ compare a s = .eq := by simpa using h
    simp [h', Ne.symm h]

@[simp] theorem mem_targets_erase {l : Links} {a b s t : Address} :
    t ∈ (l.erase a b).targets s ↔ ¬(s = a ∧ t = b) ∧ t ∈ l.targets s := by
  rw [targets_def, targets_def]
  unfold erase
  rw [Std.ExtTreeMap.getElem?_alter]
  by_cases h : a = s
  · subst h
    cases hl : l.sets[a]? with
    | none => simp
    | some old =>
      simp only [Std.ReflCmp.compare_self, if_true, Option.bind_some, true_and, Option.getD_some]
      unfold without
      dsimp only
      split
      · next he =>
        have he' : old.erase b = ∅ := Std.ExtTreeSet.isEmpty_iff.1 he
        have : t ∉ old.erase b := by rw [he']; exact Std.ExtTreeSet.not_mem_empty
        rw [Std.ExtTreeSet.mem_erase] at this
        simpa [eq_comm (a := t)] using this
      · simp [Std.ExtTreeSet.mem_erase, eq_comm (a := t)]
  · have h' : ¬ compare a s = .eq := by simpa using h
    simp [h', Ne.symm h]

@[simp] theorem mem_targets_eraseSource {l : Links} {a s t : Address} :
    t ∈ (l.eraseSource a).targets s ↔ s ≠ a ∧ t ∈ l.targets s := by
  rw [targets_def, targets_def]
  unfold eraseSource
  rw [Std.ExtTreeMap.getElem?_erase]
  by_cases h : a = s
  · subst h
    simp
  · have h' : ¬ compare a s = .eq := by simpa using h
    simp [h', Ne.symm h]

end Links

end ReactiveGrid.Dependency
