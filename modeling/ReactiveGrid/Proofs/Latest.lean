import Mathlib.Data.List.Induction

/-!
# What was told last

In a list some elements tell something, and the last one that does decides. Here that is said by the
element and the silence behind it, and followed through lists that are put together.
-/

namespace ReactiveGrid

section

variable {α : Type} {on off : α → Prop} {xs front back : List α} {x : α}

/-- Some element turned it on, and none behind that one turned it off. -/
def Since (on off : α → Prop) (xs : List α) : Prop :=
  ∃ front x back, xs = front ++ x :: back ∧ on x ∧ ∀ y ∈ back, ¬ off y

theorem not_since_nil : ¬ Since on off [] := by
  rintro ⟨front, x, back, heq, -⟩
  exact List.cons_ne_nil _ _ (List.append_eq_nil_iff.1 heq.symm).2

theorem since_append : Since on off (front ++ back) ↔
    Since on off back ∨ Since on off front ∧ ∀ y ∈ back, ¬ off y := by
  constructor
  · rintro ⟨before, x, after, heq, hon, hafter⟩
    rcases List.append_eq_append_iff.1 heq with ⟨between, rfl, rfl⟩ | ⟨between, rfl, hcons⟩
    · exact Or.inl ⟨between, x, after, rfl, hon, hafter⟩
    · cases between with
      | nil => exact Or.inl ⟨[], x, after, hcons.symm, hon, hafter⟩
      | cons first between =>
        obtain ⟨rfl, rfl⟩ := List.cons.inj hcons
        obtain ⟨hbetween, hback⟩ := List.forall_mem_append.1 hafter
        exact Or.inr ⟨⟨before, x, between, rfl, hon, hbetween⟩, hback⟩
  · rintro (⟨before, x, after, rfl, hon, hafter⟩ | ⟨⟨before, x, after, rfl, hon, hafter⟩, hback⟩)
    · exact ⟨front ++ before, x, after, (List.append_assoc ..).symm, hon, hafter⟩
    · refine ⟨before, x, after ++ back, ?_, hon, List.forall_mem_append.2 ⟨hafter, hback⟩⟩
      rw [List.append_assoc, List.cons_append]

theorem since_singleton : Since on off [x] ↔ on x := by
  constructor
  · rintro ⟨before, y, after, heq, hon, -⟩
    have hmem : y ∈ [x] := by
      rw [heq]
      exact List.mem_append_right _ (List.mem_cons_self ..)
    rwa [← List.mem_singleton.1 hmem]
  · exact fun hon => ⟨[], x, [], rfl, hon, List.forall_mem_nil _⟩

theorem since_concat : Since on off (xs ++ [x]) ↔ on x ∨ Since on off xs ∧ ¬ off x := by
  rw [since_append, since_singleton, List.forall_mem_singleton]

end

section

variable {α β : Type} {tells : α → β → Prop} {start b b' : β} {xs front back : List α} {x : α}

/-- What the last element tells that tells anything, or what holds at the start if none does. -/
def Latest (tells : α → β → Prop) (start : β) (xs : List α) (b : β) : Prop :=
  Since (tells · b) (fun x => ∃ b', tells x b') xs ∨ b = start ∧ ∀ x ∈ xs, ¬ ∃ b', tells x b'

theorem latest_nil : Latest tells start [] b ↔ b = start := by
  rw [Latest, or_iff_right not_since_nil, and_iff_left (List.forall_mem_nil _)]

theorem latest_singleton_of_tells (h : ∀ b', tells x b' ↔ b' = b) :
    Latest tells start [x] b' ↔ b' = b := by
  have hx : ∃ b', tells x b' := ⟨b, (h b).2 rfl⟩
  rw [Latest, since_singleton, h, or_iff_left]
  exact fun hnone => hnone.2 x (List.mem_singleton_self x) hx

theorem latest_append_of_silent (h : ∀ x ∈ back, ¬ ∃ b', tells x b') :
    Latest tells start (front ++ back) b ↔ Latest tells start front b := by
  have hback : ¬ Since (tells · b) (fun x => ∃ b', tells x b') back := by
    rintro ⟨before, x, after, rfl, hx, -⟩
    exact h x (List.mem_append_right _ (List.mem_cons_self ..)) ⟨b, hx⟩
  rw [Latest, Latest, since_append, or_iff_right hback, and_iff_left h, List.forall_mem_append,
    and_iff_left h]

theorem latest_append_of_told (h : ¬ ∀ x ∈ back, ¬ ∃ b', tells x b') :
    Latest tells start (front ++ back) b ↔ Latest tells start back b := by
  rw [Latest, Latest, since_append, List.forall_mem_append]
  simp only [h, and_false, or_false]

theorem latest_concat_of_tells (h : ∀ b', tells x b' ↔ b' = b) :
    Latest tells start (xs ++ [x]) b' ↔ b' = b := by
  rw [latest_append_of_told, latest_singleton_of_tells h]
  rw [List.forall_mem_singleton, not_not]
  exact ⟨b, (h b).2 rfl⟩

theorem latest_concat_of_silent (h : ¬ ∃ b', tells x b') :
    Latest tells start (xs ++ [x]) b ↔ Latest tells start xs b :=
  latest_append_of_silent (List.forall_mem_singleton.2 h)

theorem Latest.unique (htells : ∀ x b b', tells x b → tells x b' → b = b')
    (h : Latest tells start xs b) (h' : Latest tells start xs b') : b = b' := by
  induction xs using List.reverseRecOn with
  | nil =>
    rw [latest_nil] at h h'
    rw [h, h']
  | append_singleton xs x ih =>
    by_cases hx : ∃ b, tells x b
    · obtain ⟨last, hlast⟩ := hx
      have honly : ∀ b', tells x b' ↔ b' = last :=
        fun b' => ⟨fun hb' => htells x b' last hb' hlast, fun heq => heq ▸ hlast⟩
      rw [latest_concat_of_tells honly] at h h'
      rw [h, h']
    · rw [latest_concat_of_silent hx] at h h'
      exact ih h h'

end

end ReactiveGrid
