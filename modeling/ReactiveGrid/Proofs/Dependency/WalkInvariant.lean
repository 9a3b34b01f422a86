import Mathlib.Tactic.ByContra
import ReactiveGrid.Proofs.Dependency.WalkSteps

/-!
# What holds at every point of a walk

The open cells lie on a path from the start, so each of them reaches every cell opened after it. When
a cell is closed, each cell that it feeds is either closed already or still open, and in the latter
case it reaches the closed one. At the end of the walk no cell is open, so the closed cells are
exactly the cells that the start reaches.
-/

namespace ReactiveGrid.Dependency.Graph

structure Walked (g : Graph) (start : Address) (p : Point) : Prop where
  nodup : p.met.Nodup
  mem_fresh : ∀ d, d ∈ p.fresh ↔ d ∈ g.sources.sets ∧ d ∉ p.met
  pending : ∀ c ds, (c, ds) ∈ p.path →
    (∀ d ∈ ds, g.Feeds c d) ∧ ∀ d, g.Feeds c d → d ∈ ds ∨ d ∈ p.met
  linked : p.openCells.Pairwise fun inner outer => g.Reaches outer inner
  bottom : p.openCells.getLast? = some start ∨ p.path = [] ∧ p.closed.head? = some start
  reached : ∀ c ∈ p.met, g.Reaches start c
  met_of_closed : ∀ c ∈ p.closed, ∀ d, g.Feeds c d → d ∈ p.met
  ordered : ∀ newer c older, p.closed = newer ++ c :: older →
    ∀ d, g.Feeds c d → d ∈ older ∨ g.Reaches d c

theorem mem_sources_of_feeds {g : Graph} {p d : Address} (h : g.Feeds p d) :
    d ∈ g.sources.sets := by
  have hp : p ∈ g.sources.targets d := (g.mirrored p d).1 (mem_dependents.1 h)
  by_contra hd
  rw [Links.targets, Std.ExtTreeMap.getD_eq_fallback hd] at hp
  exact Std.ExtTreeSet.not_mem_empty hp

theorem walked_firstPoint (g : Graph) (start : Address) : g.Walked start (g.firstPoint start) where
  nodup := List.pairwise_singleton _ _
  mem_fresh := by
    intro d
    show d ∈ g.sources.sets.erase start ↔ d ∈ g.sources.sets ∧ d ∉ [start]
    rw [Std.ExtTreeMap.mem_erase, List.mem_singleton]
    simp [and_comm, eq_comm (a := start)]
  pending := by
    intro c ds h
    obtain ⟨rfl, rfl⟩ : c = start ∧ ds = g.dependents start := by simpa [firstPoint] using h
    exact ⟨fun d hd => hd, fun d hd => Or.inl hd⟩
  linked := List.pairwise_singleton _ _
  bottom := Or.inl rfl
  reached := by
    intro c hc
    obtain rfl : c = start := by simpa [firstPoint, Point.met, Point.openCells, Point.closed,
      Visit.left?] using hc
    exact Reaches.refl c
  met_of_closed := by
    intro c hc
    simp [firstPoint, Point.closed, Visit.left?] at hc
  ordered := by
    intro newer c older h
    have hnil : ([] : List Address) = newer ++ c :: older := h
    simp at hnil

namespace Walked

variable {g : Graph} {start c d : Address} {ds : List Address}
  {path : List (Address × List Address)} {fresh : Std.ExtTreeMap Address (Std.ExtTreeSet Address)}
  {before : List Visit}

theorem reaches_head (h : g.Walked start ⟨(c, ds) :: path, fresh, before⟩)
    (hd : d ∈ (Point.mk ((c, ds) :: path) fresh before).openCells) : g.Reaches d c := by
  have hl : (c :: path.map (·.1)).Pairwise fun inner outer => g.Reaches outer inner := h.linked
  have hd' : d = c ∨ d ∈ path.map (·.1) := List.mem_cons.1 hd
  rcases hd' with rfl | hd'
  · exact Reaches.refl d
  · exact (List.pairwise_cons.1 hl).1 d hd'

theorem leave (h : g.Walked start ⟨(c, []) :: path, fresh, before⟩) :
    g.Walked start ⟨path, fresh, .leave c :: before⟩ := by
  have hperm := Point.met_leave_perm c path fresh before
  have hmet : ∀ x, x ∈ (Point.mk path fresh (.leave c :: before)).met ↔
      x ∈ (Point.mk ((c, []) :: path) fresh before).met := fun x => hperm.mem_iff
  have hfed : ∀ x, g.Feeds c x → x ∈ (Point.mk ((c, []) :: path) fresh before).met := by
    intro x hx
    rcases (h.pending c [] (List.mem_cons_self ..)).2 x hx with hnil | hx
    · cases hnil
    · exact hx
  constructor
  case nodup => exact hperm.nodup_iff.2 h.nodup
  case mem_fresh =>
    intro x
    rw [hmet]
    exact h.mem_fresh x
  case pending =>
    intro x xs hx
    obtain ⟨hfeeds, hrest⟩ := h.pending x xs (List.mem_cons_of_mem _ hx)
    refine ⟨hfeeds, fun y hy => ?_⟩
    rw [hmet]
    exact hrest y hy
  case linked => exact (List.pairwise_cons.1 h.linked).2
  case bottom =>
    cases path with
    | nil =>
      rcases h.bottom with hlast | ⟨hnil, _⟩
      · exact Or.inr ⟨rfl, hlast⟩
      · cases hnil
    | cons outer path =>
      rcases h.bottom with hlast | ⟨hnil, _⟩
      · exact Or.inl (List.getLast?_cons_cons.symm.trans hlast)
      · cases hnil
  case reached =>
    intro x hx
    exact h.reached x ((hmet x).1 hx)
  case met_of_closed =>
    intro x hx y hy
    rw [hmet]
    rcases List.mem_cons.1 hx with rfl | hx
    · exact hfed y hy
    · exact h.met_of_closed x hx y hy
  case ordered =>
    intro newer x older heq y hy
    cases newer with
    | nil =>
      obtain ⟨rfl, rfl⟩ := List.cons.inj heq
      -- A cell that the closed one feeds is closed before it, or open and thus above it.
      rcases List.mem_append.1 (hfed y hy) with hopen | hclosed
      · exact Or.inr (h.reaches_head hopen)
      · exact Or.inl hclosed
    | cons z newer => exact h.ordered newer x older (List.cons.inj heq).2 y hy

/-- What is left to look at after a link, once the cell that it leads to is met. -/
theorem pending_after (h : g.Walked start ⟨(c, d :: ds) :: path, fresh, before⟩)
    {met : List Address} (hd : d ∈ met)
    (hmet : ∀ y ∈ (Point.mk ((c, d :: ds) :: path) fresh before).met, y ∈ met) {x : Address}
    {xs : List Address} (hx : (x, xs) ∈ (c, ds) :: path) :
    (∀ y ∈ xs, g.Feeds x y) ∧ ∀ y, g.Feeds x y → y ∈ xs ∨ y ∈ met := by
  rcases List.mem_cons.1 hx with heq | hx
  · obtain ⟨rfl, rfl⟩ := Prod.mk.inj heq
    obtain ⟨hall, hrest⟩ := h.pending x (d :: xs) (List.mem_cons_self ..)
    refine ⟨fun y hy => hall y (List.mem_cons_of_mem _ hy), fun y hy => ?_⟩
    rcases hrest y hy with hleft | hy
    · rcases List.mem_cons.1 hleft with rfl | hy
      · exact Or.inr hd
      · exact Or.inl hy
    · exact Or.inr (hmet y hy)
  · obtain ⟨hall, hrest⟩ := h.pending x xs (List.mem_cons_of_mem _ hx)
    exact ⟨hall, fun y hy => (hrest y hy).imp_right (hmet y)⟩

theorem enter (h : g.Walked start ⟨(c, d :: ds) :: path, fresh, before⟩) (hd : d ∈ fresh) :
    g.Walked start ⟨(d, g.dependents d) :: (c, ds) :: path, fresh.erase d, .enter d :: before⟩ := by
  have hnew : d ∉ (Point.mk ((c, d :: ds) :: path) fresh before).met := ((h.mem_fresh d).1 hd).2
  have hfeeds : g.Feeds c d :=
    (h.pending c (d :: ds) (List.mem_cons_self ..)).1 d (List.mem_cons_self ..)
  constructor
  case nodup => exact List.nodup_cons.2 ⟨hnew, h.nodup⟩
  case mem_fresh =>
    intro x
    show x ∈ fresh.erase d ↔ x ∈ g.sources.sets ∧
      x ∉ d :: (Point.mk ((c, d :: ds) :: path) fresh before).met
    rw [Std.ExtTreeMap.mem_erase, h.mem_fresh x, List.mem_cons]
    simp only [ne_eq, Std.LawfulEqCmp.compare_eq_iff_eq, not_or, eq_comm (a := d)]
    exact and_left_comm
  case pending =>
    intro x xs hx
    rcases List.mem_cons.1 hx with heq | hx
    · obtain ⟨rfl, rfl⟩ := Prod.mk.inj heq
      exact ⟨fun y hy => hy, fun y hy => Or.inl hy⟩
    · exact h.pending_after (List.mem_cons_self ..) (fun y hy => List.mem_cons_of_mem _ hy) hx
  case linked =>
    have hl : (c :: path.map (·.1)).Pairwise fun inner outer => g.Reaches outer inner := h.linked
    exact List.pairwise_cons.2 ⟨fun x hx => (h.reaches_head hx).trans hfeeds.reaches, hl⟩
  case bottom =>
    rcases h.bottom with hlast | ⟨hnil, _⟩
    · exact Or.inl (List.getLast?_cons_cons.trans hlast)
    · cases hnil
  case reached =>
    intro x hx
    rcases List.mem_cons.1 hx with rfl | hx
    · exact (h.reached c (List.mem_cons_self ..)).trans hfeeds.reaches
    · exact h.reached x hx
  case met_of_closed =>
    intro x hx y hy
    exact List.mem_cons_of_mem _ (h.met_of_closed x hx y hy)
  case ordered => exact h.ordered

/-- A dependent reads something, so it is not fresh only because it was met. -/
theorem met_of_not_mem_fresh (h : g.Walked start ⟨(c, d :: ds) :: path, fresh, before⟩)
    (hd : d ∉ fresh) : d ∈ (Point.mk ((c, d :: ds) :: path) fresh before).met := by
  obtain ⟨hall, _⟩ := h.pending c (d :: ds) (List.mem_cons_self ..)
  by_contra hmet
  exact hd ((h.mem_fresh d).2 ⟨mem_sources_of_feeds (hall d (List.mem_cons_self ..)), hmet⟩)

theorem revisit (h : g.Walked start ⟨(c, d :: ds) :: path, fresh, before⟩) (hd : d ∉ fresh) :
    g.Walked start ⟨(c, ds) :: path, fresh, .revisit c d :: before⟩ := by
  have hmet := h.met_of_not_mem_fresh hd
  constructor
  case nodup => exact h.nodup
  case mem_fresh => exact h.mem_fresh
  case pending => exact fun x xs hx => h.pending_after hmet (fun y hy => hy) hx
  case linked => exact h.linked
  case bottom =>
    rcases h.bottom with hlast | ⟨hnil, _⟩
    · exact Or.inl hlast
    · cases hnil
  case reached => exact h.reached
  case met_of_closed => exact h.met_of_closed
  case ordered => exact h.ordered

theorem step {p q : Point} (h : g.Walked start p) (hstep : g.Step p q) : g.Walked start q := by
  cases hstep with
  | leave => exact h.leave
  | enter _ _ _ _ _ _ hd => exact h.enter hd
  | revisit _ _ _ _ _ _ hd => exact h.revisit hd

end Walked

end ReactiveGrid.Dependency.Graph
