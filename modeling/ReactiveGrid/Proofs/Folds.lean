/-!
# Folds that can fail

A fold takes elements one at a time until one of them fails. What stands behind that one is not looked
at, and what stands before it has been taken.
-/

namespace ReactiveGrid

section

variable {ε α β : Type} {x : Except ε α} {f : α → Except ε β}

theorem bind_eq_ok_iff {b : β} : x.bind f = .ok b ↔ ∃ a, x = .ok a ∧ f a = .ok b := by
  cases x <;> simp [Except.bind]

theorem bind_eq_error_iff {e : ε} :
    x.bind f = .error e ↔ x = .error e ∨ ∃ a, x = .ok a ∧ f a = .error e := by
  cases x <;> simp [Except.bind]

theorem map_mapError_eq_ok_iff {ε' : Type} {g : ε → ε'} {k : α → β} {b : β} :
    (x.mapError g).map k = .ok b ↔ ∃ a, x = .ok a ∧ k a = b := by
  cases x with
  | error cause =>
    constructor
    · intro h
      cases h
    · rintro ⟨a, h, -⟩
      cases h
  | ok a =>
    constructor
    · intro h
      exact ⟨a, rfl, Except.ok.inj h⟩
    · rintro ⟨a', ha, hb⟩
      rw [← Except.ok.inj ha] at hb
      exact congrArg Except.ok hb

end

variable {ε α σ : Type} {f : σ → α → Except ε σ} {s m s' : σ} {c : α} {cs : List α} {e : ε}

theorem foldlM_cons_of_ok (h : f s c = .ok m) (cs : List α) :
    (c :: cs).foldlM f s = cs.foldlM f m := by
  rw [List.foldlM_cons, h]
  rfl

theorem foldlM_cons_eq_ok_iff :
    (c :: cs).foldlM f s = .ok s' ↔ ∃ m, f s c = .ok m ∧ cs.foldlM f m = .ok s' := by
  rw [List.foldlM_cons]
  exact bind_eq_ok_iff

theorem foldlM_append_of_ok (h : cs.foldlM f s = .ok m) (ds : List α) :
    (cs ++ ds).foldlM f s = ds.foldlM f m := by
  rw [List.foldlM_append, h]
  rfl

theorem foldlM_append_of_error (h : cs.foldlM f s = .error e) (ds : List α) :
    (cs ++ ds).foldlM f s = .error e := by
  rw [List.foldlM_append, h]
  rfl

/-- What is kept by one more element is kept by a whole fold. -/
theorem foldlM_invariant {P : List α → σ → Prop}
    (hstep : ∀ front s c s', P front s → f s c = .ok s' → P (front ++ [c]) s') (front : List α)
    (hs : P front s) (h : cs.foldlM f s = .ok s') : P (front ++ cs) s' := by
  induction cs generalizing front s with
  | nil =>
    cases h
    rwa [List.append_nil]
  | cons c cs ih =>
    obtain ⟨m, hm, hrest⟩ := foldlM_cons_eq_ok_iff.1 h
    have hlast := ih _ (hstep front s c m hs hm) hrest
    rwa [List.append_assoc] at hlast

/-- A fold that fails does so at one of its elements. -/
theorem exists_of_foldlM_eq_error (h : cs.foldlM f s = .error e) :
    ∃ front c rest m, cs = front ++ c :: rest ∧ front.foldlM f s = .ok m ∧ f m c = .error e := by
  induction cs generalizing s with
  | nil => cases h
  | cons c cs ih =>
    rw [List.foldlM_cons] at h
    rcases bind_eq_error_iff.1 h with hc | ⟨m, hm, hrest⟩
    · exact ⟨[], c, cs, s, rfl, rfl, hc⟩
    · obtain ⟨front, d, rest, m', rfl, hfront, hd⟩ := ih hrest
      exact ⟨c :: front, d, rest, m', rfl, foldlM_cons_eq_ok_iff.2 ⟨m, hm, hfront⟩, hd⟩

end ReactiveGrid
