import Mathlib.Data.List.Basic
import ReactiveGrid.Dependency.Cycles
import ReactiveGrid.Proofs.Dependency.Reach

/-!
# Groups of unsettled cells

The search for cycles keeps the cells it has not settled in one list and marks by positions where a
group starts. Here the groups are taken out of it as values. Each step of the search then does one
simple thing to the list of groups: it puts a new group in front, it joins some groups in front, or
it drops the one in front.
-/

namespace ReactiveGrid.Dependency

/-- A group: the cell that was met first, and those met later (latest first), with positions. -/
structure Group where
  first : Address
  position : Nat
  later : List (Address × Nat) := []

namespace Group

def entries (G : Group) : List (Address × Nat) := G.later ++ [(G.first, G.position)]

def cells (G : Group) : List Address := G.entries.map (·.1)

def absorb (H : Group) (inner : List Group) : Group :=
  { H with later := inner.flatMap entries ++ H.later }

theorem entries_absorb (H : Group) (inner : List Group) :
    (H.absorb inner).entries = inner.flatMap entries ++ H.entries := by
  simp only [entries, absorb, List.append_assoc]

theorem cells_absorb (H : Group) (inner : List Group) :
    (H.absorb inner).cells = inner.flatMap cells ++ H.cells := by
  simp only [cells, entries_absorb, List.map_append, List.map_flatMap]
  rfl

theorem flatMap_entries_absorb (inner : List Group) (H : Group) (outer : List Group) :
    (H.absorb inner :: outer).flatMap entries = (inner ++ H :: outer).flatMap entries := by
  simp only [List.flatMap_cons, List.flatMap_append, entries_absorb, List.append_assoc]

theorem flatMap_cells_absorb (inner : List Group) (H : Group) (outer : List Group) :
    (H.absorb inner :: outer).flatMap cells = (inner ++ H :: outer).flatMap cells := by
  simp only [List.flatMap_cons, List.flatMap_append, cells_absorb, List.append_assoc]

theorem mem_entries_first (G : Group) : (G.first, G.position) ∈ G.entries :=
  List.mem_append_right _ (List.mem_singleton_self _)

theorem first_mem_cells (G : Group) : G.first ∈ G.cells :=
  List.mem_map_of_mem G.mem_entries_first

theorem cells_eq (G : Group) : G.cells = G.later.map (·.1) ++ [G.first] := by
  simp only [cells, entries, List.map_append, List.map_cons, List.map_nil]

theorem length_cells (G : Group) : G.cells.length = G.later.length + 1 := by
  rw [cells_eq, List.length_append, List.length_map, List.length_singleton]

end Group

namespace Components

/-! ### Sets of cells built one by one -/

theorem getElem?_foldl_erase {cells : List Address} {m : Std.ExtTreeMap Address Nat} {c : Address} :
    (cells.foldl (fun m c => m.erase c) m)[c]? = if c ∈ cells then none else m[c]? := by
  induction cells generalizing m with
  | nil => simp
  | cons d ds ih =>
    rw [List.foldl_cons, ih, Std.ExtTreeMap.getElem?_erase]
    by_cases hdc : d = c
    · subst hdc
      simp
    · simp [hdc, Ne.symm hdc]

theorem mem_foldl_insert {cells : List Address} {m : Std.ExtTreeSet Address} {c : Address} :
    c ∈ cells.foldl (fun m c => m.insert c) m ↔ c ∈ m ∨ c ∈ cells := by
  induction cells generalizing m with
  | nil => simp
  | cons d ds ih =>
    rw [List.foldl_cons, ih, Std.ExtTreeSet.mem_insert, List.mem_cons]
    simp only [Std.LawfulEqCmp.compare_eq_iff_eq, eq_comm (a := d)]
    rw [or_comm (a := c = d), or_assoc]

theorem mem_foldl_erase {cells : List Address} {m : Std.ExtTreeSet Address} {c : Address} :
    c ∈ cells.foldl (fun m c => m.erase c) m ↔ c ∈ m ∧ c ∉ cells := by
  induction cells generalizing m with
  | nil => simp
  | cons d ds ih =>
    rw [List.foldl_cons, ih, Std.ExtTreeSet.mem_erase, List.mem_cons, not_or, ne_eq,
      Std.LawfulEqCmp.compare_eq_iff_eq, eq_comm (a := d), and_comm (a := ¬ c = d), and_assoc]

/-! ### Taking off a group -/

section

variable {s : Components} {later rest : List Address} {c : Address}

theorem takeWhile_ne (hno : c ∉ later) : (later ++ c :: rest).takeWhile (· ≠ c) = later := by
  rw [List.takeWhile_append_of_pos fun x hx => decide_eq_true (ne_of_mem_of_not_mem hx hno),
    List.takeWhile_cons_of_neg (by simp), List.append_nil]

theorem dropWhile_ne (hno : c ∉ later) :
    (later ++ c :: rest).dropWhile (· ≠ c) = c :: rest := by
  rw [List.dropWhile_append_of_pos fun x hx => decide_eq_true (ne_of_mem_of_not_mem hx hno),
    List.dropWhile_cons_of_neg (by simp)]

/-- A group is the cell that it starts with and the cells that are kept before that one. -/
theorem settle_of_eq_append (g : Graph) (hsplit : s.unsettled = later ++ c :: rest)
    (hno : c ∉ later) : s.settle g c =
      { s with
        position := (later ++ [c]).foldl (fun m d => m.erase d) s.position
        unsettled := rest
        starts := s.starts.tail
        cyclic :=
          if 1 < (later ++ [c]).length ∨ c ∈ g.dependents c then
            (later ++ [c]).foldl (fun m d => m.insert d) s.cyclic
          else s.cyclic } := by
  unfold settle
  simp only [hsplit, takeWhile_ne hno, dropWhile_ne hno, List.tail_cons]

end

/-! ### How the groups are kept -/

/-- The unsettled cells are cut into these groups, innermost first. -/
structure Holds (s : Components) (gs : List Group) : Prop where
  unsettled_eq : s.unsettled = gs.flatMap Group.cells
  starts_eq : s.starts = gs.map Group.position
  position_eq_some : ∀ c i, s.position[c]? = some i ↔ (c, i) ∈ gs.flatMap Group.entries
  descending : (gs.flatMap Group.entries).Pairwise fun x y => y.2 < x.2
  lt_met : ∀ x ∈ gs.flatMap Group.entries, x.2 < s.met
  nodup : s.unsettled.Nodup

theorem holds_empty : ({} : Components).Holds [] where
  unsettled_eq := rfl
  starts_eq := rfl
  position_eq_some := by
    intro c i
    show (∅ : Std.ExtTreeMap Address Nat)[c]? = some i ↔ (c, i) ∈ []
    simp
  descending := List.Pairwise.nil
  lt_met := by
    intro x hx
    cases hx
  nodup := List.nodup_nil

namespace Holds

variable {s : Components} {gs inner outer : List Group} {G H : Group} {c d : Address} {i : Nat}

theorem position_of_mem (h : s.Holds gs) (hG : G ∈ gs) (hc : (c, i) ∈ G.entries) :
    s.position[c]? = some i :=
  (h.position_eq_some c i).2 (List.mem_flatMap.2 ⟨G, hG, hc⟩)

theorem mem_unsettled (h : s.Holds gs) : c ∈ s.unsettled ↔ ∃ G ∈ gs, c ∈ G.cells := by
  rw [h.unsettled_eq, List.mem_flatMap]

theorem mem_unsettled_iff_entry (h : s.Holds gs) :
    c ∈ s.unsettled ↔ ∃ i, (c, i) ∈ gs.flatMap Group.entries := by
  rw [h.mem_unsettled]
  constructor
  · rintro ⟨G, hG, hc⟩
    obtain ⟨⟨c', i⟩, hentry, rfl⟩ := List.mem_map.1 hc
    exact ⟨i, List.mem_flatMap.2 ⟨G, hG, hentry⟩⟩
  · rintro ⟨i, hentry⟩
    obtain ⟨G, hG, hentry⟩ := List.mem_flatMap.1 hentry
    exact ⟨G, hG, List.mem_map_of_mem hentry⟩

theorem position_eq_none (h : s.Holds gs) : s.position[c]? = none ↔ c ∉ s.unsettled := by
  rw [h.mem_unsettled_iff_entry, Option.eq_none_iff_forall_not_mem]
  simp only [Option.mem_def, h.position_eq_some, not_exists]

theorem position_lt (h : s.Holds gs) (hG : G ∈ gs) (hc : (c, i) ∈ G.later) : G.position < i := by
  have hdesc : G.entries.Pairwise fun x y => y.2 < x.2 :=
    (List.pairwise_flatMap.1 h.descending).1 G hG
  exact (List.pairwise_append.1 hdesc).2.2 _ hc _ (List.mem_singleton_self _)

theorem position_le (h : s.Holds gs) (hG : G ∈ gs) (hc : (c, i) ∈ G.entries) : G.position ≤ i := by
  rcases List.mem_append.1 hc with hc | hc
  · have hlt := h.position_lt hG hc
    omega
  · have heq : (c, i) = (G.first, G.position) := List.mem_singleton.1 hc
    have hi : i = G.position := (Prod.mk.inj heq).2
    omega

theorem outer_lt (h : s.Holds (inner ++ outer)) {x y : Address × Nat}
    (hx : x ∈ inner.flatMap Group.entries) (hy : y ∈ outer.flatMap Group.entries) : y.2 < x.2 := by
  have hdesc := h.descending
  rw [List.flatMap_append] at hdesc
  exact (List.pairwise_append.1 hdesc).2.2 x hx y hy

theorem not_mem_outer (h : s.Holds (G :: outer)) (hc : c ∈ G.cells) :
    c ∉ outer.flatMap Group.cells := by
  have hnodup := h.nodup
  rw [h.unsettled_eq, List.flatMap_cons] at hnodup
  intro hc'
  exact (List.nodup_append.1 hnodup).2.2 c hc c hc' rfl

/-! ### What a step does to the groups -/

theorem enter (h : s.Holds gs) (g : Graph) (hc : c ∉ s.unsettled) :
    (s.step g (.enter c)).Holds ({ first := c, position := s.met } :: gs) where
  unsettled_eq := by
    show c :: s.unsettled = c :: gs.flatMap Group.cells
    rw [h.unsettled_eq]
  starts_eq := by
    show s.met :: s.starts = s.met :: gs.map Group.position
    rw [h.starts_eq]
  position_eq_some := by
    intro d i
    show (s.position.insert c s.met)[d]? = some i ↔ (d, i) ∈ (c, s.met) :: gs.flatMap Group.entries
    rw [Std.ExtTreeMap.getElem?_insert, List.mem_cons]
    by_cases hcd : c = d
    · subst hcd
      have hno : (c, i) ∉ gs.flatMap Group.entries := fun hentry =>
        hc (h.mem_unsettled_iff_entry.2 ⟨i, hentry⟩)
      simp [hno, eq_comm]
    · simp [hcd, Ne.symm hcd, h.position_eq_some]
  descending := List.pairwise_cons.2 ⟨h.lt_met, h.descending⟩
  lt_met := by
    intro x hx
    show x.2 < s.met + 1
    rcases List.mem_cons.1 hx with rfl | hx
    · exact Nat.lt_succ_self _
    · have hlt := h.lt_met x hx
      omega
  nodup := List.nodup_cons.2 ⟨hc, h.nodup⟩

/-- An unsettled cell belongs to the innermost group that does not start after it. -/
theorem exists_split (h : s.Holds gs) (hd : s.position[d]? = some i) :
    ∃ inner H outer, gs = inner ++ H :: outer ∧ (d, i) ∈ H.entries := by
  obtain ⟨H, hH, hentry⟩ := List.mem_flatMap.1 ((h.position_eq_some d i).1 hd)
  obtain ⟨inner, outer, rfl⟩ := List.append_of_mem hH
  exact ⟨inner, H, outer, rfl, hentry⟩

theorem revisit_eq (g : Graph) (hd : s.position[d]? = some i) :
    s.step g (.revisit c d) = { s with starts := s.starts.dropWhile (i < ·) } := by
  simp only [step, hd]

theorem dropWhile_starts (h : s.Holds (inner ++ H :: outer)) (hd : (d, i) ∈ H.entries) :
    s.starts.dropWhile (i < ·) = H.position :: outer.map Group.position := by
  rw [h.starts_eq, List.map_append, List.map_cons, List.dropWhile_append_of_pos]
  · have hle : H.position ≤ i := h.position_le (by simp) hd
    exact List.dropWhile_cons_of_neg (by simpa using hle)
  · intro n hn
    obtain ⟨G, hG, rfl⟩ := List.mem_map.1 hn
    have hlt := h.outer_lt (List.mem_flatMap.2 ⟨G, hG, G.mem_entries_first⟩)
      (List.mem_flatMap.2 ⟨H, List.mem_cons_self .., hd⟩)
    exact decide_eq_true hlt

theorem revisit (h : s.Holds (inner ++ H :: outer)) (g : Graph) (hd : (d, i) ∈ H.entries) :
    (s.step g (.revisit c d)).Holds (H.absorb inner :: outer) := by
  rw [revisit_eq g (h.position_of_mem (by simp) hd)]
  exact {
    unsettled_eq := h.unsettled_eq.trans (Group.flatMap_cells_absorb inner H outer).symm
    starts_eq := h.dropWhile_starts hd
    position_eq_some := by
      rw [Group.flatMap_entries_absorb]
      exact h.position_eq_some
    descending := by
      rw [Group.flatMap_entries_absorb]
      exact h.descending
    lt_met := by
      rw [Group.flatMap_entries_absorb]
      exact h.lt_met
    nodup := h.nodup }

/-- When a cell of the innermost group is closed, it is settled if it is the first of the group, and
else nothing happens. -/
theorem leave_eq (h : s.Holds (G :: outer)) (g : Graph) (hc : c ∈ G.cells) :
    s.step g (.leave c) = if c = G.first then s.settle g c else s := by
  have hG : G ∈ G :: outer := List.mem_cons_self ..
  have hstart : s.starts.head? = some G.position := by
    rw [h.starts_eq]
    rfl
  have hiff : s.position[c]? = some G.position ↔ c = G.first := by
    constructor
    · intro hpos
      obtain ⟨⟨c, i⟩, hentry, rfl⟩ := List.mem_map.1 hc
      rw [h.position_of_mem hG hentry] at hpos
      rcases List.mem_append.1 hentry with hlater | hfirst
      · have hlt := h.position_lt hG hlater
        have hi : i = G.position := Option.some.inj hpos
        omega
      · exact (Prod.mk.inj (List.mem_singleton.1 hfirst)).1
    · rintro rfl
      exact h.position_of_mem hG G.mem_entries_first
  show (if s.position[c]? = s.starts.head? then s.settle g c else s) = _
  rw [hstart]
  exact if_congr hiff rfl rfl

theorem unsettled_cons (h : s.Holds (G :: outer)) :
    s.unsettled = G.later.map (·.1) ++ G.first :: outer.flatMap Group.cells := by
  rw [h.unsettled_eq, List.flatMap_cons, Group.cells_eq, List.append_assoc]
  rfl

theorem ne_first_of_mem_later (h : s.Holds (G :: outer)) (hc : c ∈ G.later.map (·.1)) :
    c ≠ G.first := by
  have hnodup := h.nodup
  rw [h.unsettled_cons] at hnodup
  rintro rfl
  exact (List.nodup_append.1 hnodup).2.2 _ hc _ (List.mem_cons_self ..) rfl

theorem settle_eq (h : s.Holds (G :: outer)) (g : Graph) :
    s.settle g G.first =
      { s with
        position := G.cells.foldl (fun m c => m.erase c) s.position
        unsettled := outer.flatMap Group.cells
        starts := outer.map Group.position
        cyclic :=
          if 1 < G.cells.length ∨ g.Feeds G.first G.first then
            G.cells.foldl (fun m c => m.insert c) s.cyclic
          else s.cyclic } := by
  have hno : G.first ∉ G.later.map (·.1) := fun hmem => h.ne_first_of_mem_later hmem rfl
  rw [settle_of_eq_append g h.unsettled_cons hno, ← Group.cells_eq, h.starts_eq]
  rfl

theorem settle (h : s.Holds (G :: outer)) (g : Graph) : (s.settle g G.first).Holds outer := by
  rw [h.settle_eq]
  constructor
  case unsettled_eq => rfl
  case starts_eq => rfl
  case position_eq_some =>
    intro c i
    show (G.cells.foldl (fun m c => m.erase c) s.position)[c]? = some i ↔ _
    rw [getElem?_foldl_erase]
    split
    · next hc =>
      have hno : (c, i) ∉ outer.flatMap Group.entries := by
        intro hentry
        obtain ⟨H, hH, hentry⟩ := List.mem_flatMap.1 hentry
        exact h.not_mem_outer hc
          (List.mem_flatMap.2 ⟨H, hH, List.mem_map_of_mem hentry⟩)
      simp [hno]
    · next hc =>
      have hno : (c, i) ∉ G.entries := fun hentry => hc (List.mem_map_of_mem hentry)
      rw [h.position_eq_some, List.flatMap_cons, List.mem_append]
      exact or_iff_right hno
  case descending =>
    have hdesc := h.descending
    rw [List.flatMap_cons] at hdesc
    exact (List.pairwise_append.1 hdesc).2.1
  case lt_met =>
    intro x hx
    refine h.lt_met x ?_
    rw [List.flatMap_cons]
    exact List.mem_append_right _ hx
  case nodup =>
    have hnodup := h.nodup
    rw [h.unsettled_eq, List.flatMap_cons] at hnodup
    exact (List.nodup_append.1 hnodup).2.1

theorem mem_cyclic_settle (h : s.Holds (G :: outer)) (g : Graph) :
    c ∈ (s.settle g G.first).cyclic ↔
      c ∈ s.cyclic ∨ c ∈ G.cells ∧ (1 < G.cells.length ∨ g.Feeds G.first G.first) := by
  rw [h.settle_eq]
  show c ∈ (if 1 < G.cells.length ∨ g.Feeds G.first G.first then _ else s.cyclic) ↔ _
  split
  · next hloop =>
    rw [mem_foldl_insert]
    simp only [hloop, and_true]
  · next hloop => simp only [hloop, and_false, or_false]

end Holds

end Components

end ReactiveGrid.Dependency
