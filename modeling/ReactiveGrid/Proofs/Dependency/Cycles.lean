import Mathlib.Tactic.Tauto
import ReactiveGrid.Proofs.Dependency.Groups
import ReactiveGrid.Proofs.Dependency.Order

/-!
# The search for cycles finds exactly the cells on cycles

At every point of the walk the cells of a group reach each other, and no link that was looked at
leads from a group to an outer one. So when the first cell of the innermost group is closed, nothing
leads out of the group but to settled cells: the group is all that the cell reaches and is reached
from. Such a group has a cell on a cycle, and then all its cells are on cycles, if it has two cells
or its only one reads itself.
-/

namespace ReactiveGrid.Dependency.Graph

/-- A cell is settled that was met and is no longer kept in a group. -/
def Settled (p : Point) (s : Components) (c : Address) : Prop := c ∈ p.met ∧ c ∉ s.unsettled

structure Grouped (g : Graph) (p : Point) (s : Components) (gs : List Group) : Prop where
  holds : s.Holds gs
  sublist : p.openCells.Sublist s.unsettled
  unsettled_met : ∀ c ∈ s.unsettled, c ∈ p.met
  first_open : ∀ G ∈ gs, G.first ∈ p.openCells
  linked : gs.Pairwise fun inner outer => g.Reaches outer.first inner.first
  connected : ∀ G ∈ gs, ∀ c ∈ G.cells, g.Reaches G.first c ∧ g.Reaches c G.first
  inward : ∀ G ∈ gs, ∀ c ∈ G.cells, ∀ d, g.Feeds c d → (∃ ds, (c, ds) ∈ p.path ∧ d ∈ ds) ∨
    Settled p s d ∨ ∃ i, (d, i) ∈ gs.flatMap Group.entries ∧ G.position ≤ i
  settled_of_feeds : ∀ c, Settled p s c → ∀ d, g.Feeds c d → Settled p s d
  mem_cyclic : ∀ c, c ∈ s.cyclic ↔ Settled p s c ∧ g.OnCycle c

theorem grouped_firstPoint (g : Graph) (start : Address) :
    g.Grouped (g.firstPoint start) (({} : Components).step g (.enter start))
      [{ first := start, position := 0 }] where
  holds := Components.holds_empty.enter g (List.not_mem_nil)
  sublist := List.Sublist.refl _
  unsettled_met := fun c hc => hc
  first_open := by
    intro G hG
    obtain rfl := List.mem_singleton.1 hG
    exact List.mem_singleton_self _
  linked := List.pairwise_singleton _ _
  connected := by
    intro G hG c hc
    obtain rfl := List.mem_singleton.1 hG
    obtain rfl : c = start := List.mem_singleton.1 hc
    exact ⟨Reaches.refl c, Reaches.refl c⟩
  inward := by
    intro G hG c hc d hd
    obtain rfl := List.mem_singleton.1 hG
    obtain rfl : c = start := List.mem_singleton.1 hc
    exact Or.inl ⟨g.dependents c, List.mem_singleton_self _, hd⟩
  settled_of_feeds := by
    rintro c ⟨hmet, hno⟩
    exact absurd hmet hno
  mem_cyclic := by
    intro c
    constructor
    · intro hc
      exact absurd hc Std.ExtTreeSet.not_mem_empty
    · rintro ⟨⟨hmet, hno⟩, _⟩
      exact absurd hmet hno

theorem pending_cons {c d x e : Address} {ds : List Address} {path : List (Address × List Address)}
    (h : ∃ xs, (x, xs) ∈ (c, d :: ds) :: path ∧ e ∈ xs) :
    (x = c ∧ e = d) ∨ ∃ xs, (x, xs) ∈ (c, ds) :: path ∧ e ∈ xs := by
  obtain ⟨xs, hxs, he⟩ := h
  rcases List.mem_cons.1 hxs with heq | hxs
  · obtain ⟨rfl, rfl⟩ := Prod.mk.inj heq
    rcases List.mem_cons.1 he with rfl | he
    · exact Or.inl ⟨rfl, rfl⟩
    · exact Or.inr ⟨ds, List.mem_cons_self .., he⟩
  · exact Or.inr ⟨xs, List.mem_cons_of_mem _ hxs, he⟩

namespace Grouped

variable {g : Graph} {start c d : Address} {ds : List Address}
  {path : List (Address × List Address)} {fresh : Std.ExtTreeMap Address (Std.ExtTreeSet Address)}
  {before : List Visit} {s : Components} {gs outer : List Group} {G : Group}

theorem exists_cons (h : g.Grouped ⟨(c, ds) :: path, fresh, before⟩ s gs) :
    ∃ G outer, gs = G :: outer ∧ c ∈ G.cells := by
  have hc : c ∈ s.unsettled := h.sublist.subset (List.mem_cons_self ..)
  cases gs with
  | nil =>
    rw [h.holds.unsettled_eq] at hc
    cases hc
  | cons G outer =>
    refine ⟨G, outer, rfl, ?_⟩
    have hsub := h.sublist
    rw [h.holds.unsettled_eq, List.flatMap_cons] at hsub
    obtain ⟨l₁, l₂, heq, hl₁, hl₂⟩ := List.sublist_append_iff.1 hsub
    cases l₁ with
    | nil =>
      -- Then no open cell is in the innermost group, not even its first.
      have hfirst : G.first ∈ l₂ := by
        rw [List.nil_append] at heq
        rw [← heq]
        exact h.first_open G (List.mem_cons_self ..)
      exact absurd (hl₂.subset hfirst) (h.holds.not_mem_outer G.first_mem_cells)
    | cons x l₁ =>
      obtain ⟨rfl, _⟩ := List.cons.inj heq
      exact hl₁.subset (List.mem_cons_self ..)

theorem enter (hw : g.Walked start ⟨(c, d :: ds) :: path, fresh, before⟩) (hd : d ∈ fresh)
    (h : g.Grouped ⟨(c, d :: ds) :: path, fresh, before⟩ s gs) :
    g.Grouped ⟨(d, g.dependents d) :: (c, ds) :: path, fresh.erase d, .enter d :: before⟩
      (s.step g (.enter d)) ({ first := d, position := s.met } :: gs) := by
  have hnew : d ∉ (Point.mk ((c, d :: ds) :: path) fresh before).met := ((hw.mem_fresh d).1 hd).2
  have hfeeds : g.Feeds c d :=
    (hw.pending c (d :: ds) (List.mem_cons_self ..)).1 d (List.mem_cons_self ..)
  have hno : d ∉ s.unsettled := fun hmem => hnew (h.unsettled_met d hmem)
  have hsettled : ∀ x, Settled ⟨(d, g.dependents d) :: (c, ds) :: path, fresh.erase d,
      .enter d :: before⟩ (s.step g (.enter d)) x ↔
      Settled ⟨(c, d :: ds) :: path, fresh, before⟩ s x := by
    intro x
    show (x ∈ d :: (Point.mk ((c, d :: ds) :: path) fresh before).met ∧ x ∉ d :: s.unsettled) ↔
      x ∈ (Point.mk ((c, d :: ds) :: path) fresh before).met ∧ x ∉ s.unsettled
    by_cases hx : x = d
    · subst hx
      simp [hnew]
    · simp [hx]
  constructor
  case holds => exact h.holds.enter g hno
  case sublist => exact h.sublist.cons_cons d
  case unsettled_met =>
    intro x hx
    rcases List.mem_cons.1 hx with rfl | hx
    · exact List.mem_cons_self ..
    · exact List.mem_cons_of_mem _ (h.unsettled_met x hx)
  case first_open =>
    intro G hG
    rcases List.mem_cons.1 hG with rfl | hG
    · exact List.mem_cons_self ..
    · exact List.mem_cons_of_mem _ (h.first_open G hG)
  case linked =>
    refine List.pairwise_cons.2 ⟨fun G hG => ?_, h.linked⟩
    exact (hw.reaches_head (h.first_open G hG)).trans hfeeds.reaches
  case connected =>
    intro G hG x hx
    rcases List.mem_cons.1 hG with rfl | hG
    · obtain rfl : x = d := List.mem_singleton.1 hx
      exact ⟨Reaches.refl x, Reaches.refl x⟩
    · exact h.connected G hG x hx
  case inward =>
    intro G hG x hx e he
    rw [hsettled]
    rcases List.mem_cons.1 hG with rfl | hold
    · obtain rfl : x = d := List.mem_singleton.1 hx
      exact Or.inl ⟨g.dependents x, List.mem_cons_self .., he⟩
    · rcases h.inward G hold x hx e he with hp | hp | ⟨i, hi, hle⟩
      · rcases pending_cons hp with ⟨-, rfl⟩ | ⟨xs, hxs, hex⟩
        · have hlt : G.position < s.met :=
            h.holds.lt_met _ (List.mem_flatMap.2 ⟨G, hold, G.mem_entries_first⟩)
          exact Or.inr (Or.inr ⟨s.met, List.mem_cons_self .., by omega⟩)
        · exact Or.inl ⟨xs, List.mem_cons_of_mem _ hxs, hex⟩
      · exact Or.inr (Or.inl hp)
      · exact Or.inr (Or.inr ⟨i, List.mem_cons_of_mem _ hi, hle⟩)
  case settled_of_feeds =>
    intro x hx e he
    rw [hsettled] at hx ⊢
    exact h.settled_of_feeds x hx e he
  case mem_cyclic =>
    intro x
    rw [hsettled]
    exact h.mem_cyclic x

theorem revisit_settled (hmet : d ∈ (Point.mk ((c, d :: ds) :: path) fresh before).met)
    (hd : d ∉ s.unsettled)
    (h : g.Grouped ⟨(c, d :: ds) :: path, fresh, before⟩ s gs) :
    g.Grouped ⟨(c, ds) :: path, fresh, .revisit c d :: before⟩ s gs := by
  constructor
  case holds => exact h.holds
  case sublist => exact h.sublist
  case unsettled_met => exact h.unsettled_met
  case first_open => exact h.first_open
  case linked => exact h.linked
  case connected => exact h.connected
  case inward =>
    intro G hG x hx e he
    rcases h.inward G hG x hx e he with hp | hp | hp
    · rcases pending_cons hp with ⟨-, rfl⟩ | hp
      · exact Or.inr (Or.inl ⟨hmet, hd⟩)
      · exact Or.inl hp
    · exact Or.inr (Or.inl hp)
    · exact Or.inr (Or.inr hp)
  case settled_of_feeds => exact h.settled_of_feeds
  case mem_cyclic => exact h.mem_cyclic

/-- What is known of the links from a group also holds of a group around it, if that starts before
the cell that the walk looks at. -/
theorem inward_of_le {n i : Nat} (h : g.Grouped ⟨(c, d :: ds) :: path, fresh, before⟩ s gs)
    (hd : (d, i) ∈ gs.flatMap Group.entries) (hni : n ≤ i) (hG : G ∈ gs) (hnG : n ≤ G.position)
    {x e : Address} (hx : x ∈ G.cells) (he : g.Feeds x e) :
    (∃ xs, (x, xs) ∈ (c, ds) :: path ∧ e ∈ xs) ∨
      Settled ⟨(c, d :: ds) :: path, fresh, before⟩ s e ∨
      ∃ j, (e, j) ∈ gs.flatMap Group.entries ∧ n ≤ j := by
  rcases h.inward G hG x hx e he with hp | hp | ⟨j, hj, hle⟩
  · rcases pending_cons hp with ⟨-, rfl⟩ | hp
    · exact Or.inr (Or.inr ⟨i, hd, hni⟩)
    · exact Or.inl hp
  · exact Or.inr (Or.inl hp)
  · exact Or.inr (Or.inr ⟨j, hj, Nat.le_trans hnG hle⟩)

variable {H : Group} {inner : List Group} {i : Nat}

/-- A link back to an unsettled cell closes a cycle through all groups inside that cell's group. -/
theorem connected_absorb (hw : g.Walked start ⟨(c, d :: ds) :: path, fresh, before⟩)
    (h : g.Grouped ⟨(c, d :: ds) :: path, fresh, before⟩ s (inner ++ H :: outer))
    (hd : d ∈ H.cells) {x : Address} (hx : x ∈ (H.absorb inner).cells) :
    g.Reaches H.first x ∧ g.Reaches x H.first := by
  have hH : H ∈ inner ++ H :: outer := List.mem_append_right _ (List.mem_cons_self ..)
  have hfeeds : g.Feeds c d :=
    (hw.pending c (d :: ds) (List.mem_cons_self ..)).1 d (List.mem_cons_self ..)
  rw [Group.cells_absorb, List.mem_append, List.mem_flatMap] at hx
  rcases hx with ⟨G, hGinner, hx⟩ | hx
  · have hG : G ∈ inner ++ H :: outer := List.mem_append_left _ hGinner
    obtain ⟨hto, hfrom⟩ := h.connected G hG x hx
    have hforth : g.Reaches H.first G.first :=
      (List.pairwise_append.1 h.linked).2.2 G hGinner H (List.mem_cons_self ..)
    have hback : g.Reaches G.first d := (hw.reaches_head (h.first_open G hG)).trans hfeeds.reaches
    exact ⟨hforth.trans hto, (hfrom.trans hback).trans (h.connected H hH d hd).2⟩
  · exact h.connected H hH x hx

theorem revisit_unsettled (hw : g.Walked start ⟨(c, d :: ds) :: path, fresh, before⟩)
    (hd : (d, i) ∈ H.entries)
    (h : g.Grouped ⟨(c, d :: ds) :: path, fresh, before⟩ s (inner ++ H :: outer)) :
    g.Grouped ⟨(c, ds) :: path, fresh, .revisit c d :: before⟩ (s.step g (.revisit c d))
      (H.absorb inner :: outer) := by
  have hH : H ∈ inner ++ H :: outer := List.mem_append_right _ (List.mem_cons_self ..)
  have hentry : (d, i) ∈ (inner ++ H :: outer).flatMap Group.entries :=
    List.mem_flatMap.2 ⟨H, hH, hd⟩
  have hHi : H.position ≤ i := h.holds.position_le hH hd
  have hholds := h.holds.revisit (c := c) g hd
  rw [Components.Holds.revisit_eq g (h.holds.position_of_mem hH hd)] at hholds ⊢
  constructor
  case holds => exact hholds
  case sublist => exact h.sublist
  case unsettled_met => exact h.unsettled_met
  case first_open =>
    intro G hG
    rcases List.mem_cons.1 hG with rfl | hG
    · exact h.first_open H hH
    · exact h.first_open G (List.mem_append_right _ (List.mem_cons_of_mem _ hG))
  case linked =>
    obtain ⟨hfirst, hrest⟩ := List.pairwise_cons.1 (List.pairwise_append.1 h.linked).2.1
    exact List.pairwise_cons.2 ⟨hfirst, hrest⟩
  case connected =>
    intro G hG x hx
    rcases List.mem_cons.1 hG with rfl | hG
    · exact connected_absorb hw h (List.mem_map_of_mem hd) hx
    · exact h.connected G (List.mem_append_right _ (List.mem_cons_of_mem _ hG)) x hx
  case inward =>
    intro G hG x hx e he
    rw [Group.flatMap_entries_absorb]
    rcases List.mem_cons.1 hG with rfl | hG
    · rw [Group.cells_absorb, List.mem_append, List.mem_flatMap] at hx
      rcases hx with ⟨G, hG, hx⟩ | hx
      · have hlt : H.position < G.position :=
          h.holds.outer_lt (List.mem_flatMap.2 ⟨G, hG, G.mem_entries_first⟩)
            (List.mem_flatMap.2 ⟨H, List.mem_cons_self .., H.mem_entries_first⟩)
        exact inward_of_le h hentry hHi (List.mem_append_left _ hG) (by omega) hx he
      · exact inward_of_le h hentry hHi hH (Nat.le_refl _) hx he
    · have hholds := h.holds
      rw [List.append_cons] at hholds
      have hlt : G.position < i :=
        hholds.outer_lt (List.mem_flatMap.2 ⟨H, by simp, hd⟩)
          (List.mem_flatMap.2 ⟨G, hG, G.mem_entries_first⟩)
      exact inward_of_le h hentry (by omega)
        (List.mem_append_right _ (List.mem_cons_of_mem _ hG)) (Nat.le_refl _) hx he
  case settled_of_feeds => exact h.settled_of_feeds
  case mem_cyclic => exact h.mem_cyclic

theorem mem_met_leave {x : Address} : x ∈ (Point.mk path fresh (.leave c :: before)).met ↔
    x ∈ (Point.mk ((c, []) :: path) fresh before).met :=
  (Point.met_leave_perm c path fresh before).mem_iff

theorem first_open_outer (h : g.Grouped ⟨(c, []) :: path, fresh, before⟩ s (G :: outer))
    (hc : c ∈ G.cells) (hH : H ∈ outer) : H.first ∈ path.map (·.1) := by
  rcases List.mem_cons.1 (h.first_open H (List.mem_cons_of_mem _ hH)) with heq | hopen
  · have hfirst : H.first = c := heq
    refine absurd ?_ (h.holds.not_mem_outer hc)
    rw [← hfirst]
    exact List.mem_flatMap.2 ⟨H, hH, H.first_mem_cells⟩
  · exact hopen

theorem pending_leave {x e : Address} (h : ∃ xs, (x, xs) ∈ (c, []) :: path ∧ e ∈ xs) :
    ∃ xs, (x, xs) ∈ path ∧ e ∈ xs := by
  obtain ⟨xs, hxs, he⟩ := h
  rcases List.mem_cons.1 hxs with heq | hxs
  · obtain ⟨rfl, rfl⟩ := Prod.mk.inj heq
    cases he
  · exact ⟨xs, hxs, he⟩

theorem leave_later (h : g.Grouped ⟨(c, []) :: path, fresh, before⟩ s (G :: outer))
    (hc : c ∈ G.cells) (hne : c ≠ G.first) :
    g.Grouped ⟨path, fresh, .leave c :: before⟩ s (G :: outer) := by
  have hsettled : ∀ x, Settled ⟨path, fresh, .leave c :: before⟩ s x ↔
      Settled ⟨(c, []) :: path, fresh, before⟩ s x := fun x => and_congr_left' mem_met_leave
  constructor
  case holds => exact h.holds
  case sublist => exact (List.sublist_cons_self ..).trans h.sublist
  case unsettled_met =>
    intro x hx
    exact mem_met_leave.2 (h.unsettled_met x hx)
  case first_open =>
    intro H hH
    rcases List.mem_cons.1 hH with rfl | hH
    · rcases List.mem_cons.1 (h.first_open H (List.mem_cons_self ..)) with heq | hopen
      · exact absurd heq.symm hne
      · exact hopen
    · exact h.first_open_outer hc hH
  case linked => exact h.linked
  case connected => exact h.connected
  case inward =>
    intro H hH x hx e he
    rw [hsettled]
    exact (h.inward H hH x hx e he).imp_left pending_leave
  case settled_of_feeds =>
    intro x hx e he
    rw [hsettled] at hx ⊢
    exact h.settled_of_feeds x hx e he
  case mem_cyclic =>
    intro x
    rw [hsettled]
    exact h.mem_cyclic x

/-! ### A complete group -/

theorem sublist_outer (h : g.Grouped ⟨(G.first, []) :: path, fresh, before⟩ s (G :: outer)) :
    (path.map (·.1)).Sublist (outer.flatMap Group.cells) := by
  have hsub : (G.first :: path.map (·.1)).Sublist s.unsettled := h.sublist
  rw [h.holds.unsettled_cons] at hsub
  obtain ⟨l₁, l₂, heq, hl₁, hl₂⟩ := List.sublist_append_iff.1 hsub
  cases l₁ with
  | nil =>
    rw [List.nil_append] at heq
    rw [← heq] at hl₂
    exact List.cons_sublist_cons.1 hl₂
  | cons x l₁ =>
    obtain ⟨rfl, _⟩ := List.cons.inj heq
    exact absurd rfl (h.holds.ne_first_of_mem_later (hl₁.subset (List.mem_cons_self ..)))

theorem mem_or_settled_of_feeds
    (h : g.Grouped ⟨(G.first, []) :: path, fresh, before⟩ s (G :: outer)) {x e : Address}
    (hx : x ∈ G.cells) (he : g.Feeds x e) :
    e ∈ G.cells ∨ Settled ⟨(G.first, []) :: path, fresh, before⟩ s e := by
  rcases h.inward G (List.mem_cons_self ..) x hx e he with hp | hp | ⟨i, hi, hle⟩
  · obtain ⟨xs, hxs, _⟩ := pending_leave hp
    have hopen : x ∈ path.map (·.1) := List.mem_map_of_mem hxs
    exact absurd (h.sublist_outer.subset hopen) (h.holds.not_mem_outer hx)
  · exact Or.inr hp
  · rw [List.flatMap_cons] at hi
    rcases List.mem_append.1 hi with hi | hi
    · exact Or.inl (List.mem_map_of_mem hi)
    · have hfirst : (G.first, G.position) ∈ [G].flatMap Group.entries := by
        simpa using G.mem_entries_first
      have hlt : i < G.position := Components.Holds.outer_lt h.holds hfirst hi
      omega

theorem not_settled_of_mem
    (h : g.Grouped ⟨(G.first, []) :: path, fresh, before⟩ s (G :: outer)) {x : Address}
    (hx : x ∈ G.cells) : ¬ Settled ⟨(G.first, []) :: path, fresh, before⟩ s x := by
  rintro ⟨_, hno⟩
  exact hno (h.holds.mem_unsettled.2 ⟨G, List.mem_cons_self .., hx⟩)

theorem exists_ne_of_one_lt
    (h : g.Grouped ⟨(G.first, []) :: path, fresh, before⟩ s (G :: outer))
    (hlen : 1 < G.cells.length) (x : Address) : ∃ y ∈ G.cells, x ≠ y := by
  by_cases hx : x = G.first
  · rw [G.length_cells] at hlen
    obtain ⟨y, hy⟩ := List.exists_mem_of_length_pos (l := G.later) (by omega)
    have hlater : y.1 ∈ G.later.map (·.1) := List.mem_map_of_mem hy
    refine ⟨y.1, ?_, ?_⟩
    · rw [G.cells_eq]
      exact List.mem_append_left _ hlater
    · rw [hx]
      exact (h.holds.ne_first_of_mem_later hlater).symm
  · exact ⟨G.first, G.first_mem_cells, hx⟩

theorem onCycle_iff_of_mem
    (h : g.Grouped ⟨(G.first, []) :: path, fresh, before⟩ s (G :: outer)) {x : Address}
    (hx : x ∈ G.cells) : g.OnCycle x ↔ 1 < G.cells.length ∨ g.Feeds G.first G.first := by
  have hG : G ∈ G :: outer := List.mem_cons_self ..
  obtain ⟨hto, hfrom⟩ := h.connected G hG x hx
  constructor
  · intro hcycle
    obtain ⟨e, hxe, hex⟩ := onCycle_iff.1 hcycle
    rcases h.mem_or_settled_of_feeds hx hxe with he | he
    · by_cases hlen : 1 < G.cells.length
      · exact Or.inl hlen
      · have hone : G.cells = [G.first] := by
          rw [G.length_cells] at hlen
          have hlater : G.later = [] := List.length_eq_zero_iff.1 (by omega)
          rw [G.cells_eq, hlater, List.map_nil, List.nil_append]
        rw [hone, List.mem_singleton] at hx he
        rw [hx, he] at hxe
        exact Or.inr hxe
    · -- What a settled cell reaches is settled, but `x` is not.
      exact absurd (hex.mem_of_closed (fun p q hp hpq => h.settled_of_feeds p hp q hpq) he)
        (h.not_settled_of_mem hx)
  · rintro (hlen | hloop)
    · obtain ⟨y, hy, hne⟩ := h.exists_ne_of_one_lt hlen x
      obtain ⟨hto', hfrom'⟩ := h.connected G hG y hy
      exact (hfrom.trans hto').onCycle_of_ne hne (hfrom'.trans hto)
    · by_cases heq : x = G.first
      · rw [heq]
        exact Reaches.onCycle hloop (Reaches.refl _)
      · exact hfrom.onCycle_of_ne heq hto

theorem settled_leave_first
    (h : g.Grouped ⟨(G.first, []) :: path, fresh, before⟩ s (G :: outer)) (x : Address) :
    Settled ⟨path, fresh, .leave G.first :: before⟩ (s.settle g G.first) x ↔
      Settled ⟨(G.first, []) :: path, fresh, before⟩ s x ∨ x ∈ G.cells := by
  have hunsettled : x ∈ s.unsettled ↔ x ∈ G.cells ∨ x ∈ outer.flatMap Group.cells := by
    rw [h.holds.unsettled_eq, List.flatMap_cons, List.mem_append]
  have hmet : x ∈ G.cells → x ∈ (Point.mk ((G.first, []) :: path) fresh before).met := fun hx =>
    h.unsettled_met x (hunsettled.2 (Or.inl hx))
  have hout : x ∈ G.cells → x ∉ outer.flatMap Group.cells := h.holds.not_mem_outer
  unfold Settled
  rw [mem_met_leave, (h.holds.settle g).unsettled_eq, hunsettled]
  tauto

theorem leave_first (h : g.Grouped ⟨(G.first, []) :: path, fresh, before⟩ s (G :: outer)) :
    g.Grouped ⟨path, fresh, .leave G.first :: before⟩ (s.settle g G.first) outer := by
  have hmem : ∀ H ∈ outer, H ∈ G :: outer := fun H hH => List.mem_cons_of_mem _ hH
  constructor
  case holds => exact h.holds.settle g
  case sublist =>
    rw [(h.holds.settle g).unsettled_eq]
    exact h.sublist_outer
  case unsettled_met =>
    intro x hx
    rw [(h.holds.settle g).mem_unsettled] at hx
    obtain ⟨H, hH, hx⟩ := hx
    exact mem_met_leave.2 (h.unsettled_met x (h.holds.mem_unsettled.2 ⟨H, hmem H hH, hx⟩))
  case first_open =>
    intro H hH
    exact h.first_open_outer G.first_mem_cells hH
  case linked => exact (List.pairwise_cons.1 h.linked).2
  case connected =>
    intro H hH
    exact h.connected H (hmem H hH)
  case inward =>
    intro H hH x hx e he
    rw [h.settled_leave_first]
    rcases h.inward H (hmem H hH) x hx e he with hp | hp | ⟨i, hi, hle⟩
    · exact Or.inl (pending_leave hp)
    · exact Or.inr (Or.inl (Or.inl hp))
    · rw [List.flatMap_cons] at hi
      rcases List.mem_append.1 hi with hi | hi
      · exact Or.inr (Or.inl (Or.inr (List.mem_map_of_mem hi)))
      · exact Or.inr (Or.inr ⟨i, hi, hle⟩)
  case settled_of_feeds =>
    intro x hx e he
    rw [h.settled_leave_first] at hx ⊢
    rcases hx with hx | hx
    · exact Or.inl (h.settled_of_feeds x hx e he)
    · exact (h.mem_or_settled_of_feeds hx he).symm
  case mem_cyclic =>
    intro x
    rw [h.holds.mem_cyclic_settle, h.settled_leave_first, h.mem_cyclic, or_and_right]
    exact or_congr_right (and_congr_right fun hx => (h.onCycle_iff_of_mem hx).symm)

theorem leave (h : g.Grouped ⟨(c, []) :: path, fresh, before⟩ s gs) :
    ∃ gs', g.Grouped ⟨path, fresh, .leave c :: before⟩ (s.step g (.leave c)) gs' := by
  obtain ⟨G, outer, rfl, hc⟩ := h.exists_cons
  rw [h.holds.leave_eq g hc]
  split
  · next heq =>
    subst heq
    exact ⟨outer, h.leave_first⟩
  · next hne => exact ⟨G :: outer, h.leave_later hc hne⟩

theorem revisit (hw : g.Walked start ⟨(c, d :: ds) :: path, fresh, before⟩) (hd : d ∉ fresh)
    (h : g.Grouped ⟨(c, d :: ds) :: path, fresh, before⟩ s gs) :
    ∃ gs', g.Grouped ⟨(c, ds) :: path, fresh, .revisit c d :: before⟩
      (s.step g (.revisit c d)) gs' := by
  cases hpos : s.position[d]? with
  | none =>
    have hstep : s.step g (.revisit c d) = s := by simp only [Components.step, hpos]
    rw [hstep]
    exact ⟨gs, h.revisit_settled (hw.met_of_not_mem_fresh hd) (h.holds.position_eq_none.1 hpos)⟩
  | some i =>
    obtain ⟨inner, H, outer, rfl, hentry⟩ := h.holds.exists_split hpos
    exact ⟨H.absorb inner :: outer, h.revisit_unsettled hw hentry⟩

end Grouped

def components (g : Graph) (p : Point) : Components :=
  p.before.foldr (fun v s => s.step g v) {}

theorem Grouped.step {g : Graph} {start : Address} {p q : Point} {gs : List Group}
    (hw : g.Walked start p) (h : g.Grouped p (g.components p) gs) (hstep : g.Step p q) :
    ∃ gs', g.Grouped q (g.components q) gs' := by
  cases hstep with
  | leave => exact h.leave
  | enter _ _ _ _ _ _ hd => exact ⟨_, h.enter hw hd⟩
  | revisit _ _ _ _ _ _ hd => exact h.revisit hw hd

theorem mem_cyclicCells {g : Graph} {start c : Address} :
    c ∈ g.cyclicCells start ↔ g.Reaches start c ∧ g.OnCycle c := by
  obtain ⟨rest, hw, gs, h⟩ := walk_invariant
    (P := fun p => g.Walked start p ∧ ∃ gs, g.Grouped p (g.components p) gs)
    ⟨walked_firstPoint g start, _, grouped_firstPoint g start⟩
    fun p q hp hstep => ⟨hp.1.step hstep, hp.2.choose_spec.step hp.1 hstep⟩
  -- No cell is open at the end, so there are no groups and all cells met are settled.
  have hgs : gs = [] := List.eq_nil_iff_forall_not_mem.2 fun G hG => by
    cases h.first_open G hG
  have hcyclic : (g.components ⟨[], rest, (g.walk start).reverse⟩).cyclic = g.cyclicCells start := by
    rw [components, List.foldr_reverse]
    rfl
  have hsettled : Settled ⟨[], rest, (g.walk start).reverse⟩
      (g.components ⟨[], rest, (g.walk start).reverse⟩) c ↔ c ∈ g.closedCells start := by
    unfold Settled
    rw [h.holds.unsettled_eq, hgs]
    show c ∈ (Point.mk [] rest (g.walk start).reverse).closed ∧ c ∉ [] ↔ _
    simp [closed_walk]
  rw [← hcyclic, h.mem_cyclic c, hsettled, mem_closedCells]

theorem isCyclic_iff {g : Graph} {c : Address} : g.isCyclic c = true ↔ g.OnCycle c := by
  unfold isCyclic
  rw [Std.ExtTreeSet.contains_iff_mem, mem_cyclicCells]
  exact and_iff_right (Reaches.refl c)

instance (g : Graph) (c : Address) : Decidable (g.OnCycle c) :=
  decidable_of_iff _ isCyclic_iff

/-- The cells found to be cyclic from a start are exactly the cells on cycles that it reaches. So a
cell is found to be cyclic by itself exactly if it is on a cycle, and what is found from the start
agrees with that for the start and all cells to recalculate. -/
theorem cyclicCells_are_cells_on_cycles (g : Graph) (start : Address) :
    (∀ c, c ∈ g.cyclicCells start ↔ g.Reaches start c ∧ g.OnCycle c) ∧
      (∀ c, g.isCyclic c = true ↔ g.OnCycle c) ∧
      ∀ c ∈ start :: g.recalculationOrder start,
        (c ∈ g.cyclicCells start ↔ g.isCyclic c = true) := by
  refine ⟨fun c => mem_cyclicCells, fun c => isCyclic_iff, ?_⟩
  intro c hc
  rw [← closedCells_eq_cons, mem_closedCells] at hc
  rw [mem_cyclicCells, isCyclic_iff]
  exact and_iff_right hc

end ReactiveGrid.Dependency.Graph
