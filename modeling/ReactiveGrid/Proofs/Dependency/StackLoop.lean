import Mathlib.Data.List.Nodup
import ReactiveGrid.Proofs.Dependency.Order

/-!
# Loops over a stack of open cells

A walk can be done by a loop that keeps the open cells on a stack and takes one step at each turn. Such
a loop ends, since the walk does, and it takes as many turns as the walk has steps after the first. Main
statements: the walk opens and closes each cell that it reaches once, and takes one more step for each
link between them; and the loop for the order of recalculation does what the walk does.
-/

namespace ReactiveGrid.Dependency
open Relation

def Visit.entered? : Visit → Option Address
  | enter cell => some cell
  | _ => none

/-! ### Loops -/

/-- A loop that runs its body until there is nothing on its stack. On the stack are open cells,
innermost first, each with the dependents still to look at. -/
structure StackLoop (σ : Type) where
  stack : σ → List (Address × List Address)
  body : σ → σ

/-- What the first list has behind the part with which both begin. -/
def behindCommon : List Address → List Address → List Address
  | c :: cs, d :: ds => if c = d then behindCommon cs ds else c :: cs
  | cs, _ => cs

/-- The cells on the second stack above the part that both stacks have at the bottom. -/
def raised (before after : List (Address × List Address)) : List Address :=
  (behindCommon (after.map (·.1)).reverse (before.map (·.1)).reverse).reverse

section

variable {path path' : List (Address × List Address)}

theorem behindCommon_append (cells cs ds : List Address) :
    behindCommon (cells ++ cs) (cells ++ ds) = behindCommon cs ds := by
  induction cells with
  | nil => rfl
  | cons c cells ih => exact (if_pos rfl).trans ih

theorem raised_of_map_eq (h : path'.map (·.1) = path.map (·.1)) : raised path path' = [] := by
  have hsame := behindCommon_append (path.map (·.1)).reverse [] []
  rw [List.append_nil] at hsame
  rw [raised, h, hsame]
  rfl

theorem raised_push (h : path'.map (·.1) = path.map (·.1)) (c : Address) (ds : List Address) :
    raised path ((c, ds) :: path') = [c] := by
  have hmore := behindCommon_append (path.map (·.1)).reverse [c] []
  rw [List.append_nil] at hmore
  rw [raised, List.map_cons, List.reverse_cons, h, hmore]
  rfl

theorem raised_pop (h : path'.map (·.1) = path.map (·.1)) (c : Address) (ds : List Address) :
    raised ((c, ds) :: path') path = [] := by
  have hless := behindCommon_append (path.map (·.1)).reverse [] [c]
  rw [List.append_nil] at hless
  rw [raised, List.map_cons, List.reverse_cons, h, hless]
  rfl

end

namespace StackLoop

variable {σ : Type} {L : StackLoop σ} {s last last' : σ} {n n' : Nat}
  {pushed pushed' popped popped' : List Address}

/-- From the first state the body is run so many times, until the stack is empty in the last one. On
the way it pushes the first cells and pops the second. -/
inductive Runs (L : StackLoop σ) : σ → Nat → List Address → List Address → σ → Prop where
  | done (s : σ) (h : L.stack s = []) : Runs L s 0 [] [] s
  | turn (s last : σ) (n : Nat) (pushed popped : List Address) (h : L.stack s ≠ [])
      (rest : Runs L (L.body s) n pushed popped last) :
      Runs L s (n + 1) (raised (L.stack s) (L.stack (L.body s)) ++ pushed)
        (raised (L.stack (L.body s)) (L.stack s) ++ popped) last

/-- The body decides what comes next, so a loop runs in one way only. -/
theorem Runs.unique (h : L.Runs s n pushed popped last)
    (h' : L.Runs s n' pushed' popped' last') :
    n' = n ∧ pushed' = pushed ∧ popped' = popped ∧ last' = last := by
  induction h generalizing n' pushed' popped' with
  | done s hstack =>
    cases h' with
    | done => exact ⟨rfl, rfl, rfl, rfl⟩
    | turn _ _ _ _ _ hne => exact absurd hstack hne
  | turn s last n pushed popped hne _ ih =>
    cases h' with
    | done _ hstack => exact absurd hstack hne
    | turn _ _ _ _ _ _ rest =>
      obtain ⟨rfl, rfl, rfl, rfl⟩ := ih rest
      exact ⟨rfl, rfl, rfl, rfl⟩

/-- The loop ends, and when it has ended, this holds of the turns that it took, of the cells that it
pushed and popped, and of the state in which it ended. -/
def Ends (L : StackLoop σ) (s : σ)
    (post : Nat → List Address → List Address → σ → Prop) : Prop :=
  (∃ n pushed popped last, L.Runs s n pushed popped last) ∧
    ∀ n pushed popped last, L.Runs s n pushed popped last → post n pushed popped last

theorem Runs.ends {post : Nat → List Address → List Address → σ → Prop}
    (h : L.Runs s n pushed popped last) (hpost : post n pushed popped last) : L.Ends s post := by
  refine ⟨⟨n, pushed, popped, last, h⟩, fun n' pushed' popped' last' h' => ?_⟩
  obtain ⟨rfl, rfl, rfl, rfl⟩ := h.unique h'
  exact hpost

theorem Ends.imp {post post' : Nat → List Address → List Address → σ → Prop} (h : L.Ends s post)
    (himp : ∀ n pushed popped last, post n pushed popped last → post' n pushed popped last) :
    L.Ends s post' :=
  ⟨h.1, fun n pushed popped last hrun => himp _ _ _ _ (h.2 n pushed popped last hrun)⟩

end StackLoop

/-! ### What the walk opens, closes and looks at -/

namespace Graph

/-- The links along which the walk looks are those that lead from the cells that it closes. -/
def seenLinks (g : Graph) (start : Address) : List (Address × Address) :=
  (g.closedCells start).flatMap fun c => (g.dependents c).map (c, ·)

variable {g : Graph} {start p d : Address}

theorem mem_seenLinks : (p, d) ∈ g.seenLinks start ↔ g.Reaches start p ∧ g.Feeds p d := by
  unfold seenLinks
  simp only [List.mem_flatMap, List.mem_map, Prod.mk.injEq, mem_closedCells]
  constructor
  · rintro ⟨c, hc, e, he, rfl, rfl⟩
    exact ⟨hc, he⟩
  · rintro ⟨hp, hd⟩
    exact ⟨p, hp, d, hd, rfl, rfl⟩

theorem nodup_seenLinks (g : Graph) (start : Address) : (g.seenLinks start).Nodup := by
  unfold seenLinks
  rw [List.nodup_flatMap]
  constructor
  · intro c _
    exact (g.nodup_dependents c).map fun d e h => (Prod.mk.inj h).2
  · refine (g.nodup_closedCells start).imp fun {b c} hne => ?_
    show List.Disjoint _ _
    intro link hb hc
    obtain ⟨d, -, rfl⟩ := List.mem_map.1 hb
    obtain ⟨e, -, he⟩ := List.mem_map.1 hc
    exact hne (Prod.mk.inj he).1.symm

/-- Each cell that was met was opened once. Each step behind the first closes a cell or looks along a
link, and those of the cells that were met are done but for the ones still to look at. -/
structure Tallied (g : Graph) (p : Point) : Prop where
  entered : (p.before.filterMap Visit.entered?).Perm p.met
  length_eq : p.before.length + (p.path.flatMap (·.2)).length =
    1 + p.closed.length + (p.met.flatMap g.dependents).length

theorem tallied_firstPoint (g : Graph) (start : Address) : g.Tallied (g.firstPoint start) where
  entered := List.Perm.refl _
  length_eq := by
    simp [firstPoint, Point.met, Point.openCells, Point.closed, Visit.left?, List.filterMap_cons]

theorem Tallied.step {p q : Point} (h : g.Tallied p) (hstep : g.Step p q) : g.Tallied q := by
  have hentered := h.entered
  have hlength := h.length_eq
  cases hstep with
  | leave c path fresh before =>
    have hperm := Point.met_leave_perm c path fresh before
    refine ⟨hentered.trans hperm.symm, ?_⟩
    rw [(hperm.flatMap_right g.dependents).length_eq]
    simp only [Point.closed, List.filterMap_cons, Visit.left?, List.length_cons, List.flatMap_cons,
      List.length_append, List.length_nil] at hlength ⊢
    omega
  | enter c d ds path fresh before hd =>
    refine ⟨hentered.cons d, ?_⟩
    simp only [Point.met, Point.openCells, Point.closed, List.filterMap_cons, Visit.left?,
      List.length_cons, List.map_cons, List.cons_append, List.flatMap_cons, List.length_append]
      at hlength ⊢
    omega
  | revisit c d ds path fresh before hd =>
    refine ⟨hentered, ?_⟩
    simp only [Point.met, Point.openCells, Point.closed, List.filterMap_cons, Visit.left?,
      List.length_cons, List.map_cons, List.cons_append, List.flatMap_cons, List.length_append]
      at hlength ⊢
    omega

theorem tallied_walk (g : Graph) (start : Address) :
    ∃ rest, g.Tallied ⟨[], rest, (g.walk start).reverse⟩ :=
  walk_invariant (g.tallied_firstPoint start) fun _ _ h hstep => h.step hstep

theorem filterMap_entered?_walk (g : Graph) (start : Address) :
    ((g.walk start).filterMap Visit.entered?).Perm (g.closedCells start) := by
  obtain ⟨rest, h⟩ := g.tallied_walk start
  have hentered : ((g.walk start).reverse.filterMap Visit.entered?).Perm (g.closedCells start) := by
    rw [← g.closed_walk start rest]
    exact h.entered
  rw [List.filterMap_reverse] at hentered
  exact (List.reverse_perm _).symm.trans hentered

theorem filterMap_left?_walk (g : Graph) (start : Address) :
    ((g.walk start).filterMap Visit.left?).Perm (g.closedCells start) :=
  (List.reverse_perm _).symm

theorem length_walk (g : Graph) (start : Address) :
    (g.walk start).length = 1 + (g.closedCells start).length + (g.seenLinks start).length := by
  obtain ⟨rest, h⟩ := g.tallied_walk start
  have hlength := h.length_eq
  rw [show (Point.mk [] rest (g.walk start).reverse).met = g.closedCells start from
    g.closed_walk start rest, closed_walk, List.length_reverse] at hlength
  have hlinks : (g.seenLinks start).length = ((g.closedCells start).flatMap g.dependents).length := by
    simp only [seenLinks, List.length_flatMap, List.length_map]
  rwa [hlinks]

end Graph

/-! ### Loops that follow the walk -/

namespace Graph

variable {g : Graph} {start : Address} {p q : Point}

theorem Step.path_ne_nil (h : g.Step p q) : p.path ≠ [] := by
  cases h with
  | leave | enter | revisit => exact List.cons_ne_nil _ _

/-- A step opens a cell and puts it onto the path, or closes one and takes it off, or does neither. -/
theorem Step.exists_visit (h : g.Step p q) : ∃ v, q.before = v :: p.before ∧
    raised p.path q.path = v.entered?.toList ∧ raised q.path p.path = v.left?.toList := by
  cases h with
  | leave c => exact ⟨.leave c, rfl, raised_pop rfl c _, raised_push rfl c _⟩
  | enter c d => exact ⟨.enter d, rfl, raised_push rfl d _, raised_pop rfl d _⟩
  | revisit c d => exact ⟨.revisit c d, rfl, raised_of_map_eq rfl, raised_of_map_eq rfl⟩

end Graph

namespace StackLoop

variable {σ : Type} {L : StackLoop σ} {g : Graph} {start : Address} {p q : Point} {s : σ}
  {goes : Point → σ → Prop}

/-- A state that goes with a point of the walk has the path there as its stack, and the body takes it to
a state that goes with the next point. -/
structure Follows (L : StackLoop σ) (g : Graph) (goes : Point → σ → Prop) : Prop where
  stack_eq : ∀ p s, goes p s → L.stack s = p.path
  body : ∀ p q s, goes p s → g.Step p q → goes q (L.body s)

/-- By induction on the steps of the walk, from the first one on: each is one turn of the loop. -/
theorem Follows.runs (h : L.Follows g goes) (hrun : ReflTransGen g.Step p q) (hq : q.path = [])
    (hs : goes p s) : ∃ (visits : List Visit) (last : σ),
      q.before = visits.reverse ++ p.before ∧ goes q last ∧
      L.Runs s visits.length (visits.filterMap Visit.entered?) (visits.filterMap Visit.left?)
        last := by
  induction hrun using ReflTransGen.head_induction_on generalizing s with
  | refl => exact ⟨[], s, rfl, hs, .done s ((h.stack_eq _ s hs).trans hq)⟩
  | head hstep _ ih =>
    obtain ⟨v, hbefore, hpushed, hpopped⟩ := hstep.exists_visit
    have hnext := h.body _ _ s hs hstep
    obtain ⟨visits, last, hvisits, hlast, hruns⟩ := ih hnext
    refine ⟨v :: visits, last, ?_, hlast, ?_⟩
    · rw [hvisits, hbefore, List.reverse_cons, List.append_assoc, List.singleton_append]
    · have hne : L.stack s ≠ [] := by
        rw [h.stack_eq _ s hs]
        exact hstep.path_ne_nil
      have hturn := Runs.turn s last _ _ _ hne hruns
      rw [h.stack_eq _ s hs, h.stack_eq _ _ hnext, hpushed, hpopped] at hturn
      have hcons : ∀ f : Visit → Option Address,
          (v :: visits).filterMap f = (f v).toList ++ visits.filterMap f :=
        fun f => List.filterMap_append (l := [v])
      rw [hcons, hcons]
      exact hturn

/-- The loop takes one turn for each step of the walk behind the first, in which the start is opened. -/
theorem Follows.ends (h : L.Follows g goes) (hfirst : goes (g.firstPoint start) s) :
    L.Ends s fun turns pushed popped last =>
      turns = (g.closedCells start).length + (g.seenLinks start).length ∧
      (start :: pushed).Perm (g.closedCells start) ∧ popped.Perm (g.closedCells start) ∧
      ∃ rest, goes ⟨[], rest, (g.walk start).reverse⟩ last := by
  obtain ⟨rest, hrun⟩ := g.walk_run start
  obtain ⟨visits, last, hvisits, hlast, hruns⟩ := h.runs hrun rfl hfirst
  have hwalk : g.walk start = .enter start :: visits := by
    have hreverse : (g.walk start).reverse = visits.reverse ++ [.enter start] := hvisits
    rw [← List.reverse_inj, hreverse, List.reverse_cons]
  have hlength := g.length_walk start
  have hentered := g.filterMap_entered?_walk start
  have hleft := g.filterMap_left?_walk start
  rw [hwalk] at hlength hentered hleft
  rw [List.length_cons] at hlength
  exact hruns.ends ⟨by omega, hentered, hleft, rest, hlast⟩

end StackLoop

/-! ### The loop for the order of recalculation -/

/-- What the loop for the order of recalculation keeps. -/
structure OrderSearch where
  stack : List (Address × List Address)
  /-- The cells that were popped. -/
  visited : Std.ExtTreeSet Address := ∅
  /-- The cells that were pushed and not yet popped. -/
  inStack : Std.ExtTreeSet Address
  /-- The cells in the order in which they were popped, latest first. -/
  result : List Address := []

/-- A set keeps step with a list that grows at its front. -/
theorem mem_insert_iff_mem_cons {seen : Std.ExtTreeSet Address} {cells : List Address}
    (h : ∀ c, c ∈ seen ↔ c ∈ cells) (d c : Address) : c ∈ seen.insert d ↔ c ∈ d :: cells := by
  rw [Std.ExtTreeSet.mem_insert, Std.LawfulEqCmp.compare_eq_iff_eq, h, List.mem_cons, eq_comm]

namespace OrderSearch

def first (g : Graph) (start : Address) : OrderSearch :=
  { stack := [(start, g.dependents start)], inStack := (∅ : Std.ExtTreeSet Address).insert start }

def turn (g : Graph) (s : OrderSearch) : OrderSearch :=
  match s.stack with
  | [] => s
  | (c, []) :: stack =>
    { stack := stack
      visited := s.visited.insert c
      inStack := s.inStack.erase c
      result := c :: s.result }
  | (c, d :: ds) :: stack =>
    if d ∉ s.visited ∧ d ∉ s.inStack then
      { s with
        stack := (d, g.dependents d) :: (c, ds) :: stack
        inStack := s.inStack.insert d }
    else { s with stack := (c, ds) :: stack }

def loop (g : Graph) : StackLoop OrderSearch where
  stack := OrderSearch.stack
  body := turn g

/-- The cells popped, without the one popped last, with which the loop began. -/
def order (s : OrderSearch) : List Address :=
  s.result.tail

section

variable {g : Graph} {s : OrderSearch} {c d : Address} {ds : List Address}
  {stack : List (Address × List Address)}

theorem turn_leave (h : s.stack = (c, []) :: stack) : turn g s =
    { stack := stack
      visited := s.visited.insert c
      inStack := s.inStack.erase c
      result := c :: s.result } := by
  unfold turn
  rw [h]

theorem turn_enter (h : s.stack = (c, d :: ds) :: stack) (hd : d ∉ s.visited ∧ d ∉ s.inStack) :
    turn g s =
      { s with
        stack := (d, g.dependents d) :: (c, ds) :: stack
        inStack := s.inStack.insert d } := by
  unfold turn
  simp only [h]
  exact if_pos hd

theorem turn_revisit (h : s.stack = (c, d :: ds) :: stack)
    (hd : ¬ (d ∉ s.visited ∧ d ∉ s.inStack)) : turn g s = { s with stack := (c, ds) :: stack } := by
  unfold turn
  simp only [h]
  exact if_neg hd

end

/-- The loop is where the walk is. -/
structure At (g : Graph) (start : Address) (p : Point) (s : OrderSearch) : Prop where
  walked : g.Walked start p
  stack_eq : s.stack = p.path
  mem_visited : ∀ c, c ∈ s.visited ↔ c ∈ p.closed
  mem_inStack : ∀ c, c ∈ s.inStack ↔ c ∈ p.openCells
  result_eq : s.result = p.closed

theorem at_first (g : Graph) (start : Address) : At g start (g.firstPoint start) (first g start) where
  walked := g.walked_firstPoint start
  stack_eq := rfl
  mem_visited := fun _ => iff_of_false Std.ExtTreeSet.not_mem_empty List.not_mem_nil
  mem_inStack := mem_insert_iff_mem_cons
    (fun _ => iff_of_false Std.ExtTreeSet.not_mem_empty List.not_mem_nil) start
  result_eq := rfl

namespace At

variable {g : Graph} {start : Address} {p q : Point} {s : OrderSearch}

theorem not_pushed_iff (h : At g start p s) (c : Address) :
    (c ∉ s.visited ∧ c ∉ s.inStack) ↔ c ∉ p.met := by
  rw [h.mem_visited, h.mem_inStack, Point.met, List.mem_append, not_or, and_comm]

theorem step (h : At g start p s) (hstep : g.Step p q) : At g start q (turn g s) := by
  have hwalked := h.walked.step hstep
  cases hstep with
  | leave c path fresh before =>
    rw [turn_leave h.stack_eq]
    have hc : c ∉ path.map (·.1) := (List.nodup_cons.1 (List.nodup_append.1 h.walked.nodup).1).1
    refine ⟨hwalked, rfl, mem_insert_iff_mem_cons h.mem_visited c, fun x => ?_,
      congrArg (c :: ·) h.result_eq⟩
    have hopen : x ∈ s.inStack ↔ x ∈ c :: path.map (·.1) := h.mem_inStack x
    show x ∈ s.inStack.erase c ↔ x ∈ path.map (·.1)
    rw [Std.ExtTreeSet.mem_erase, hopen, ne_eq, Std.LawfulEqCmp.compare_eq_iff_eq, List.mem_cons]
    constructor
    · rintro ⟨hne, heq | hx⟩
      · exact absurd heq.symm hne
      · exact hx
    · exact fun hx => ⟨(ne_of_mem_of_not_mem hx hc).symm, Or.inr hx⟩
  | enter c d ds path fresh before hd =>
    have hnew : d ∉ (Point.mk ((c, d :: ds) :: path) fresh before).met :=
      ((h.walked.mem_fresh d).1 hd).2
    rw [turn_enter h.stack_eq ((h.not_pushed_iff d).2 hnew)]
    exact ⟨hwalked, rfl, h.mem_visited, mem_insert_iff_mem_cons h.mem_inStack d, h.result_eq⟩
  | revisit c d ds path fresh before hd =>
    have hmet := h.walked.met_of_not_mem_fresh hd
    rw [turn_revisit h.stack_eq fun hno => (h.not_pushed_iff d).1 hno hmet]
    exact ⟨hwalked, rfl, h.mem_visited, h.mem_inStack, h.result_eq⟩

end At

theorem follows (g : Graph) (start : Address) : (loop g).Follows g (At g start) where
  stack_eq := fun _ _ h => h.stack_eq
  body := fun _ _ _ h hstep => h.step hstep

/-- The loop ends with the order of recalculation. -/
theorem At.order_eq {g : Graph} {start : Address} {s : OrderSearch}
    {rest : Std.ExtTreeMap Address (Std.ExtTreeSet Address)}
    (h : At g start ⟨[], rest, (g.walk start).reverse⟩ s) :
    s.order = g.recalculationOrder start := by
  rw [order, h.result_eq, Graph.closed_walk, Graph.recalculationOrder]

end OrderSearch

end ReactiveGrid.Dependency
