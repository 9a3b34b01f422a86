import ReactiveGrid.Proofs.Dependency.Cycles
import ReactiveGrid.Proofs.Dependency.StackLoop

/-!
# The search for cycles by low links

A loop can find the cells on cycles without keeping groups. It gives each open cell a low link, the
first position that is known to be reached from the cell through unsettled cells, and hands the low link
on when the cell is closed. A group starts at those open cells at or inside which no low link is smaller
than the position, so the loop settles a cell just when the walk by groups does. Main statement: this
loop and the one for the order of recalculation push and pop each cell that they reach once, and run
once for each of these cells and once for each link that leads from one of them.
-/

namespace ReactiveGrid.Dependency

/-! ### Where groups start -/

/-- The positions of those open cells, given innermost first, with which a group starts: no low link at
or inside such a cell is smaller than its position, and neither is the bound. -/
def groupStarts (index low : Address → Nat) : Nat → List Address → List Nat
  | _, [] => []
  | bound, c :: outer =>
    let least := min bound (low c)
    if index c ≤ least then index c :: groupStarts index low least outer
    else groupStarts index low least outer

section

variable {index index' low low' : Address → Nat} {bound i n : Nat} {c : Address}
  {cells outer : List Address}

theorem groupStarts_cons_of_le (h : index c ≤ min bound (low c)) :
    groupStarts index low bound (c :: outer) =
      index c :: groupStarts index low (min bound (low c)) outer :=
  if_pos h

theorem groupStarts_cons_of_lt (h : min bound (low c) < index c) :
    groupStarts index low bound (c :: outer) =
      groupStarts index low (min bound (low c)) outer :=
  if_neg (Nat.not_le.2 h)

theorem groupStarts_congr (hindex : ∀ c ∈ cells, index' c = index c)
    (hlow : ∀ c ∈ cells, low' c = low c) (bound : Nat) :
    groupStarts index' low' bound cells = groupStarts index low bound cells := by
  induction cells generalizing bound with
  | nil => rfl
  | cons c outer ih =>
    rw [List.forall_mem_cons] at hindex hlow
    simp only [groupStarts, hindex.1, hlow.1, ih hindex.2 hlow.2]

theorem exists_of_mem_groupStarts (h : n ∈ groupStarts index low bound cells) :
    ∃ c ∈ cells, index c = n := by
  induction cells generalizing bound with
  | nil => cases h
  | cons c outer ih =>
    rcases Nat.lt_or_ge (min bound (low c)) (index c) with hlt | hle
    · rw [groupStarts_cons_of_lt hlt] at h
      obtain ⟨d, hd, hn⟩ := ih h
      exact ⟨d, List.mem_cons_of_mem _ hd, hn⟩
    · rw [groupStarts_cons_of_le hle] at h
      rcases List.mem_cons.1 h with rfl | h
      · exact ⟨c, List.mem_cons_self .., rfl⟩
      · obtain ⟨d, hd, hn⟩ := ih h
        exact ⟨d, List.mem_cons_of_mem _ hd, hn⟩

/-- A smaller bound leaves those groups that start at or before it. -/
theorem groupStarts_min (h : cells.Pairwise fun inner outer => index outer < index inner)
    (bound i : Nat) : groupStarts index low (min bound i) cells =
      (groupStarts index low bound cells).dropWhile (i < ·) := by
  induction cells generalizing bound with
  | nil => rfl
  | cons c outer ih =>
    obtain ⟨hc, houter⟩ := List.pairwise_cons.1 h
    have hmin : min (min bound i) (low c) = min (min bound (low c)) i := by omega
    rcases Nat.lt_or_ge (min bound (low c)) (index c) with hlt | hle
    · rw [groupStarts_cons_of_lt hlt, groupStarts_cons_of_lt (by omega), hmin, ih houter]
    · rw [groupStarts_cons_of_le hle]
      by_cases hi : i < index c
      · rw [groupStarts_cons_of_lt (by omega), hmin, ih houter,
          List.dropWhile_cons_of_pos (by simpa using hi)]
      · rw [groupStarts_cons_of_le (by omega), hmin, ih houter,
          List.dropWhile_cons_of_neg (by simpa using hi)]
        -- The groups further out start before this one, so none of them is dropped.
        cases hstarts : groupStarts index low (min bound (low c)) outer with
        | nil => rfl
        | cons n starts =>
          have hn : n ∈ groupStarts index low (min bound (low c)) outer := by
            rw [hstarts]
            exact List.mem_cons_self ..
          obtain ⟨d, hd, rfl⟩ := exists_of_mem_groupStarts hn
          have hlt := hc d hd
          rw [List.dropWhile_cons_of_neg (by simp; omega)]

end

/-! ### The loop -/

/-- What the loop knows of a cell: how many cells were met before it, and its low link. -/
structure Mark where
  index : Nat := 0
  low : Nat := 0

/-- What the loop for cycles keeps. -/
structure CycleSearch where
  stack : List (Address × List Address) := []
  /-- The marks of the cells that were met. -/
  marks : Std.ExtTreeMap Address Mark := ∅
  /-- The cells that were met and not yet settled, latest first. -/
  component : List Address := []
  onComponent : Std.ExtTreeSet Address := ∅
  cyclic : Std.ExtTreeSet Address := ∅

namespace CycleSearch

def index (s : CycleSearch) (c : Address) : Nat :=
  (s.marks.getD c {}).index

def low (s : CycleSearch) (c : Address) : Nat :=
  (s.marks.getD c {}).low

/-- Pushes a cell that is met for the first time. -/
def meet (g : Graph) (s : CycleSearch) (d : Address) : CycleSearch where
  stack := (d, g.dependents d) :: s.stack
  marks := s.marks.insert d ⟨s.marks.size, s.marks.size⟩
  component := d :: s.component
  onComponent := s.onComponent.insert d
  cyclic := s.cyclic

def first (g : Graph) (start : Address) : CycleSearch :=
  meet g {} start

/-- Lowers the low link of the innermost cell on the stack, if there is one. -/
def lowerTop (s : CycleSearch) (i : Nat) : CycleSearch :=
  { s with
    marks := match s.stack with
      | [] => s.marks
      | (c, _) :: _ => s.marks.modify c fun m => { m with low := min m.low i } }

/-- Takes the unsettled cells off down to the given one. They are on cycles if there are at least two of
them, or if the only one reads itself. -/
def close (g : Graph) (s : CycleSearch) (c : Address) : CycleSearch :=
  let members := s.component.takeWhile (· ≠ c) ++ (s.component.dropWhile (· ≠ c)).take 1
  { s with
    component := (s.component.dropWhile (· ≠ c)).drop 1
    onComponent := members.foldl (fun m d => m.erase d) s.onComponent
    cyclic :=
      if 1 < members.length ∨ c ∈ g.dependents c then
        members.foldl (fun m d => m.insert d) s.cyclic
      else s.cyclic }

def turn (g : Graph) (s : CycleSearch) : CycleSearch :=
  match s.stack with
  | [] => s
  | (c, d :: ds) :: stack =>
    let s := { s with stack := (c, ds) :: stack }
    match s.marks[d]? with
    | none => s.meet g d
    | some m => if d ∈ s.onComponent then s.lowerTop m.index else s
  | (c, []) :: stack =>
    let lowered := { s with stack := stack }.lowerTop (s.low c)
    if s.index c = s.low c then lowered.close g c else lowered

def loop (g : Graph) : StackLoop CycleSearch where
  stack := CycleSearch.stack
  body := turn g

section

variable {g : Graph} {s : CycleSearch} {c d : Address} {ds later rest : List Address}
  {stack : List (Address × List Address)}

theorem turn_enter (h : s.stack = (c, d :: ds) :: stack) (hd : d ∉ s.marks) :
    turn g s = { s with stack := (c, ds) :: stack }.meet g d := by
  unfold turn
  simp only [h, Std.ExtTreeMap.getElem?_eq_none hd]

theorem turn_revisit (h : s.stack = (c, d :: ds) :: stack) (hd : d ∈ s.marks) : turn g s =
    if d ∈ s.onComponent then { s with stack := (c, ds) :: stack }.lowerTop (s.index d)
    else { s with stack := (c, ds) :: stack } := by
  have hmark : s.marks[d]? = some (s.marks.getD d {}) := Std.ExtTreeMap.getElem?_eq_some_getD hd
  unfold turn
  simp only [h, hmark]
  rfl

theorem turn_leave (h : s.stack = (c, []) :: stack) : turn g s =
    if s.index c = s.low c then ({ s with stack := stack }.lowerTop (s.low c)).close g c
    else { s with stack := stack }.lowerTop (s.low c) := by
  unfold turn
  simp only [h]

theorem close_of_eq_append (g : Graph) (hsplit : s.component = later ++ c :: rest)
    (hno : c ∉ later) : s.close g c =
      { s with
        component := rest
        onComponent := (later ++ [c]).foldl (fun m d => m.erase d) s.onComponent
        cyclic :=
          if 1 < (later ++ [c]).length ∨ c ∈ g.dependents c then
            (later ++ [c]).foldl (fun m d => m.insert d) s.cyclic
          else s.cyclic } := by
  unfold close
  simp only [hsplit, Components.takeWhile_ne hno, Components.dropWhile_ne hno, List.drop_one, List.tail_cons,
    List.take_succ_cons, List.take_zero]

end

/-! ### What meeting and lowering do to the marks -/

section

variable {g : Graph} {s : CycleSearch} {d x : Address}

theorem mem_marks_meet : x ∈ (s.meet g d).marks ↔ x = d ∨ x ∈ s.marks := by
  show x ∈ s.marks.insert d _ ↔ _
  rw [Std.ExtTreeMap.mem_insert, Std.LawfulEqCmp.compare_eq_iff_eq, eq_comm]

theorem size_meet (h : d ∉ s.marks) : (s.meet g d).marks.size = s.marks.size + 1 := by
  show (s.marks.insert d _).size = _
  rw [Std.ExtTreeMap.size_insert, if_neg]
  rwa [← Std.ExtTreeMap.mem_iff_contains]

theorem getD_meet : (s.meet g d).marks.getD x {} =
    if d = x then ⟨s.marks.size, s.marks.size⟩ else s.marks.getD x {} := by
  show (s.marks.insert d _).getD x {} = _
  simp only [Std.ExtTreeMap.getD_insert, Std.LawfulEqCmp.compare_eq_iff_eq]

theorem index_meet_self : (s.meet g d).index d = s.marks.size := by
  rw [index, getD_meet, if_pos rfl]

theorem low_meet_self : (s.meet g d).low d = s.marks.size := by
  rw [low, getD_meet, if_pos rfl]

theorem index_meet_of_ne (h : x ≠ d) : (s.meet g d).index x = s.index x := by
  rw [index, getD_meet, if_neg h.symm, index]

theorem low_meet_of_ne (h : x ≠ d) : (s.meet g d).low x = s.low x := by
  rw [low, getD_meet, if_neg h.symm, low]

end

section

variable {s : CycleSearch} {c x : Address} {ds : List Address} {i : Nat}
  {stack : List (Address × List Address)}

theorem size_lowerTop (s : CycleSearch) (i : Nat) :
    (s.lowerTop i).marks.size = s.marks.size := by
  unfold lowerTop
  split
  · rfl
  · exact Std.ExtTreeMap.size_modify

theorem mem_marks_lowerTop : x ∈ (s.lowerTop i).marks ↔ x ∈ s.marks := by
  unfold lowerTop
  split
  · exact Iff.rfl
  · exact Std.ExtTreeMap.mem_modify

theorem getD_lowerTop (h : s.stack = (c, ds) :: stack) (x : Address) :
    (s.lowerTop i).marks.getD x {} =
      ⟨s.index x, if c = x then min (s.low x) i else s.low x⟩ := by
  unfold lowerTop index low
  simp only [h, Std.ExtTreeMap.getD_modify, Std.LawfulEqCmp.compare_eq_iff_eq]
  split
  · next hc =>
    subst hc
    rw [Std.ExtTreeMap.getD_eq_getD_getElem?]
    cases s.marks[c]? with
    | none => simp
    | some m => rfl
  · rfl

theorem index_lowerTop (s : CycleSearch) (i : Nat) : (s.lowerTop i).index = s.index := by
  funext x
  cases h : s.stack with
  | nil =>
    unfold lowerTop index
    simp only [h]
  | cons frame stack =>
    rw [index, getD_lowerTop h]

theorem low_lowerTop (h : s.stack = (c, ds) :: stack) (x : Address) :
    (s.lowerTop i).low x = if c = x then min (s.low x) i else s.low x := by
  rw [low, getD_lowerTop h]

theorem low_lowerTop_le (s : CycleSearch) (i : Nat) (x : Address) :
    (s.lowerTop i).low x ≤ s.low x := by
  cases h : s.stack with
  | nil =>
    unfold lowerTop low
    simp only [h]
    exact Nat.le_refl _
  | cons frame stack =>
    rw [low_lowerTop h]
    split
    · exact Nat.min_le_left _ _
    · exact Nat.le_refl _

/-- A lower low link of the innermost open cell does to the starts what a lower bound does. -/
theorem groupStarts_lowerTop (hnodup : (s.stack.map (·.1)).Nodup) (i bound : Nat) :
    groupStarts (s.lowerTop i).index (s.lowerTop i).low bound (s.stack.map (·.1)) =
      groupStarts s.index s.low (min bound i) (s.stack.map (·.1)) := by
  rw [index_lowerTop]
  cases h : s.stack with
  | nil => rfl
  | cons frame stack =>
    obtain ⟨c, ds⟩ := frame
    rw [h, List.map_cons, List.nodup_cons] at hnodup
    have hleast : min bound (min (s.low c) i) = min (min bound i) (s.low c) := by omega
    have houter : ∀ x ∈ stack.map (·.1), (s.lowerTop i).low x = s.low x := by
      intro x hx
      rw [low_lowerTop h, if_neg]
      rintro rfl
      exact hnodup.1 hx
    rw [List.map_cons]
    simp only [groupStarts, low_lowerTop h, if_true, hleast,
      groupStarts_congr (fun _ _ => rfl) houter]

end

/-! ### What the loop keeps tells the same groups -/

/-- Both keep the same unsettled cells and the same cells on cycles, and the low links tell where the
groups start. -/
structure Agrees (t : Components) (s : CycleSearch) : Prop where
  component_eq : s.component = t.unsettled
  mem_onComponent : ∀ c, c ∈ s.onComponent ↔ c ∈ t.unsettled
  cyclic_eq : s.cyclic = t.cyclic
  size_eq : s.marks.size = t.met
  index_eq : ∀ c i, t.position[c]? = some i → s.index c = i
  low_le : ∀ c, s.low c ≤ s.index c
  descending : (s.stack.map (·.1)).Pairwise fun inner outer => s.index outer < s.index inner
  starts_eq : t.starts = groupStarts s.index s.low s.marks.size (s.stack.map (·.1))

namespace Agrees

variable {g : Graph} {t : Components} {s : CycleSearch} {gs : List Group} {c d : Address}
  {ds : List Address} {stack : List (Address × List Address)}

theorem empty : Agrees {} {} where
  component_eq := rfl
  mem_onComponent := fun _ => iff_of_false Std.ExtTreeSet.not_mem_empty List.not_mem_nil
  cyclic_eq := rfl
  size_eq := Std.ExtTreeMap.size_empty
  index_eq := by
    intro c i hi
    have hnone : (∅ : Std.ExtTreeMap Address Nat)[c]? = none := Std.ExtTreeMap.getElem?_empty
    cases hnone.symm.trans hi
  low_le := by
    intro c
    have hmark : ({} : CycleSearch).marks.getD c {} = {} := Std.ExtTreeMap.getD_empty
    exact Nat.le_of_eq (by rw [low, index, hmark])
  descending := List.Pairwise.nil
  starts_eq := rfl

theorem position_eq (h : Agrees t s) (hgs : t.Holds gs) (hc : c ∈ t.unsettled) :
    t.position[c]? = some (s.index c) := by
  cases hpos : t.position[c]? with
  | none => exact absurd hc (hgs.position_eq_none.1 hpos)
  | some i => rw [h.index_eq c i hpos]

theorem index_lt (h : Agrees t s) (hgs : t.Holds gs) (hc : c ∈ t.unsettled) :
    s.index c < s.marks.size := by
  rw [h.size_eq]
  exact hgs.lt_met _ ((hgs.position_eq_some _ _).1 (h.position_eq hgs hc))

/-- The dependents that are still to look at do not matter. -/
theorem look (h : Agrees t s) (hs : s.stack = (c, d :: ds) :: stack) :
    Agrees t { s with stack := (c, ds) :: stack } := by
  have hcells : ((c, ds) :: stack).map (·.1) = s.stack.map (·.1) := by
    rw [hs]
    rfl
  exact { h with
    descending := by
      rw [hcells]
      exact h.descending
    starts_eq := by
      rw [hcells]
      exact h.starts_eq }

theorem meet (h : Agrees t s) (hmarks : d ∉ s.marks) (hstack : d ∉ s.stack.map (·.1))
    (hlt : ∀ c ∈ s.stack.map (·.1), s.index c < s.marks.size) :
    Agrees (t.step g (.enter d)) (s.meet g d) := by
  have hne : ∀ x ∈ s.stack.map (·.1), x ≠ d := fun x hx => ne_of_mem_of_not_mem hx hstack
  constructor
  case component_eq => exact congrArg (d :: ·) h.component_eq
  case mem_onComponent => exact mem_insert_iff_mem_cons h.mem_onComponent d
  case cyclic_eq => exact h.cyclic_eq
  case size_eq =>
    rw [size_meet hmarks, h.size_eq]
    rfl
  case index_eq =>
    intro x i hi
    have hpos : (t.position.insert d t.met)[x]? = some i := hi
    simp only [Std.ExtTreeMap.getElem?_insert, Std.LawfulEqCmp.compare_eq_iff_eq] at hpos
    split at hpos
    · next heq => rw [← heq, index_meet_self, h.size_eq, Option.some.inj hpos]
    · next hne => rw [index_meet_of_ne (Ne.symm hne), h.index_eq x i hpos]
  case low_le =>
    intro x
    by_cases hx : x = d
    · exact Nat.le_of_eq (by rw [hx, low_meet_self, index_meet_self])
    · rw [low_meet_of_ne hx, index_meet_of_ne hx]
      exact h.low_le x
  case descending =>
    refine List.pairwise_cons.2 ⟨fun x hx => ?_, h.descending.imp_of_mem fun hx hy hlt => ?_⟩
    · rw [index_meet_self, index_meet_of_ne (hne x hx)]
      exact hlt x hx
    · rwa [index_meet_of_ne (hne _ hx), index_meet_of_ne (hne _ hy)]
  case starts_eq =>
    have hleast : min (s.marks.size + 1) s.marks.size = s.marks.size := by omega
    show t.met :: t.starts = groupStarts _ _ _ (d :: s.stack.map (·.1))
    rw [groupStarts_cons_of_le (by rw [index_meet_self, low_meet_self, size_meet hmarks]; omega),
      index_meet_self, low_meet_self, size_meet hmarks, hleast,
      groupStarts_congr (fun x hx => index_meet_of_ne (hne x hx))
        (fun x hx => low_meet_of_ne (hne x hx)), ← h.starts_eq, h.size_eq]

theorem nodup_open (h : Agrees t s) : (s.stack.map (·.1)).Nodup :=
  h.descending.imp fun hlt heq => by
    rw [heq] at hlt
    exact Nat.lt_irrefl _ hlt

/-- The groups that start after a cell that the innermost open cell reaches are joined. -/
theorem lower (h : Agrees t s) (i : Nat) :
    Agrees { t with starts := t.starts.dropWhile (i < ·) } (s.lowerTop i) where
  component_eq := h.component_eq
  mem_onComponent := h.mem_onComponent
  cyclic_eq := h.cyclic_eq
  size_eq := by rw [size_lowerTop, h.size_eq]
  index_eq := by
    rw [index_lowerTop]
    exact h.index_eq
  low_le := by
    intro x
    rw [index_lowerTop]
    exact Nat.le_trans (low_lowerTop_le s i x) (h.low_le x)
  descending := by
    rw [index_lowerTop]
    exact h.descending
  starts_eq := by
    show t.starts.dropWhile (i < ·) = groupStarts _ _ _ (s.stack.map (·.1))
    rw [size_lowerTop, groupStarts_lowerTop h.nodup_open, groupStarts_min h.descending, ← h.starts_eq]

theorem revisit (h : Agrees t s) (g : Graph) (c : Address) (hgs : t.Holds gs)
    (hd : d ∈ t.unsettled) :
    Agrees (t.step g (.revisit c d)) (s.lowerTop (s.index d)) := by
  rw [Components.Holds.revisit_eq g (h.position_eq hgs hd)]
  exact h.lower _

theorem revisit_settled (h : Agrees t s) (g : Graph) (c : Address) (hgs : t.Holds gs)
    (hd : d ∉ t.unsettled) :
    Agrees (t.step g (.revisit c d)) s := by
  have hstep : t.step g (.revisit c d) = t := by
    simp only [Components.step, hgs.position_eq_none.2 hd]
  rwa [hstep]

theorem descending_cons (h : Agrees t s) (hs : s.stack = (c, ds) :: stack) :
    (∀ x ∈ stack.map (·.1), s.index x < s.index c) ∧
      (stack.map (·.1)).Pairwise fun inner outer => s.index outer < s.index inner := by
  have hdescending := h.descending
  rw [hs] at hdescending
  exact List.pairwise_cons.1 hdescending

/-- Without the innermost open cell, the starts are those that the cells around it have. -/
theorem pop (h : Agrees t s) (hs : s.stack = (c, ds) :: stack) :
    Agrees { t with starts := groupStarts s.index s.low s.marks.size (stack.map (·.1)) }
      { s with stack := stack } :=
  { h with
    descending := (h.descending_cons hs).2
    starts_eq := rfl }

theorem min_low (h : Agrees t s) (hgs : t.Holds gs) (hc : c ∈ t.unsettled) :
    min s.marks.size (s.low c) = s.low c :=
  Nat.min_eq_right (Nat.le_of_lt (Nat.lt_of_le_of_lt (h.low_le c) (h.index_lt hgs hc)))

/-- A cell starts a group just when no low link at or inside it is smaller than its position. -/
theorem starts_cons (h : Agrees t s) (hgs : t.Holds gs) (hc : c ∈ t.unsettled)
    (hs : s.stack = (c, ds) :: stack) :
    t.starts =
      if s.index c = s.low c then
        s.index c :: groupStarts s.index s.low (s.low c) (stack.map (·.1))
      else groupStarts s.index s.low (s.low c) (stack.map (·.1)) := by
  have hle := h.low_le c
  rw [h.starts_eq, hs]
  show groupStarts _ _ _ (c :: stack.map (·.1)) = _
  have hleast := h.min_low hgs hc
  split
  · next heq => rw [groupStarts_cons_of_le (by omega), hleast]
  · next hne => rw [groupStarts_cons_of_lt (by omega), hleast]

theorem position_eq_head?_iff (h : Agrees t s) (hgs : t.Holds gs) (hc : c ∈ t.unsettled)
    (hs : s.stack = (c, ds) :: stack) :
    t.position[c]? = t.starts.head? ↔ s.index c = s.low c := by
  rw [h.position_eq hgs hc, h.starts_cons hgs hc hs]
  split
  · next heq => exact iff_of_true rfl heq
  · next hne =>
    refine iff_of_false (fun hhead => ?_) hne
    obtain ⟨x, hx, heq⟩ := exists_of_mem_groupStarts (List.mem_of_head? hhead.symm)
    have hlt := (h.descending_cons hs).1 x hx
    omega

/-- The low link of a closed cell is handed on to the cell around it. -/
theorem handOn (h : Agrees t s) (hgs : t.Holds gs) (hc : c ∈ t.unsettled)
    (hs : s.stack = (c, ds) :: stack) :
    Agrees { t with starts := groupStarts s.index s.low (s.low c) (stack.map (·.1)) }
      ({ s with stack := stack }.lowerTop (s.low c)) := by
  have hstarts : groupStarts s.index s.low (s.low c) (stack.map (·.1)) =
      (groupStarts s.index s.low s.marks.size (stack.map (·.1))).dropWhile (s.low c < ·) := by
    rw [← groupStarts_min (h.descending_cons hs).2, h.min_low hgs hc]
  rw [hstarts]
  exact (h.pop hs).lower (s.low c)

theorem close (h : Agrees { t with starts := t.starts.tail } s) (hnodup : t.unsettled.Nodup)
    (hc : c ∈ t.unsettled) : Agrees (t.settle g c) (s.close g c) := by
  obtain ⟨later, rest, hsplit, hno⟩ := List.eq_append_cons_of_mem hc
  rw [Components.settle_of_eq_append g hsplit hno,
    close_of_eq_append g (h.component_eq.trans hsplit) hno]
  constructor
  case component_eq => rfl
  case mem_onComponent =>
    intro x
    have hx : x ∈ s.onComponent ↔ x ∈ (later ++ [c]) ++ rest := by
      rw [List.append_cons] at hsplit
      rw [← hsplit]
      exact h.mem_onComponent x
    rw [hsplit, List.append_cons, List.nodup_append] at hnodup
    show x ∈ (later ++ [c]).foldl (fun m d => m.erase d) s.onComponent ↔ x ∈ rest
    rw [Components.mem_foldl_erase, hx, List.mem_append]
    constructor
    · rintro ⟨hmem | hmem, hno⟩
      · exact absurd hmem hno
      · exact hmem
    · exact fun hmem => ⟨Or.inr hmem, fun hmem' => hnodup.2.2 x hmem' x hmem rfl⟩
  case cyclic_eq =>
    have hcyclic : s.cyclic = t.cyclic := h.cyclic_eq
    rw [hcyclic]
  case size_eq => exact h.size_eq
  case index_eq =>
    intro x i hi
    have hpos : ((later ++ [c]).foldl (fun m d => m.erase d) t.position)[x]? = some i := hi
    rw [Components.getElem?_foldl_erase] at hpos
    split at hpos
    · cases hpos
    · exact h.index_eq x i hpos
  case low_le => exact h.low_le
  case descending => exact h.descending
  case starts_eq => exact h.starts_eq

theorem leave (h : Agrees t s) (hgs : t.Holds gs) (hc : c ∈ t.unsettled)
    (hs : s.stack = (c, []) :: stack) : Agrees (t.step g (.leave c)) (turn g s) := by
  have hstarts := h.starts_cons hgs hc hs
  have hhanded := h.handOn hgs hc hs
  rw [turn_leave hs]
  show Agrees (if t.position[c]? = t.starts.head? then t.settle g c else t) _
  by_cases heq : s.index c = s.low c
  · rw [if_pos heq, if_pos ((h.position_eq_head?_iff hgs hc hs).2 heq)]
    rw [if_pos heq] at hstarts
    refine close ?_ hgs.nodup hc
    rw [hstarts]
    exact hhanded
  · rw [if_neg heq, if_neg (mt (h.position_eq_head?_iff hgs hc hs).1 heq)]
    rw [if_neg heq] at hstarts
    rwa [← hstarts] at hhanded

end Agrees

/-! ### The loop goes where the walk goes -/

/-- The loop is where the walk is. -/
structure At (g : Graph) (start : Address) (p : Point) (s : CycleSearch) : Prop where
  walked : g.Walked start p
  grouped : ∃ gs, g.Grouped p (g.components p) gs
  stack_eq : s.stack = p.path
  mem_marks : ∀ c, c ∈ s.marks ↔ c ∈ p.met
  agrees : Agrees (g.components p) s

theorem at_first (g : Graph) (start : Address) :
    At g start (g.firstPoint start) (first g start) where
  walked := g.walked_firstPoint start
  grouped := ⟨_, g.grouped_firstPoint start⟩
  stack_eq := rfl
  mem_marks := by
    intro c
    rw [first, mem_marks_meet, or_iff_left Std.ExtTreeMap.not_mem_empty]
    exact List.mem_singleton.symm
  agrees := Agrees.empty.meet Std.ExtTreeMap.not_mem_empty List.not_mem_nil (List.forall_mem_nil _)

namespace At

variable {g : Graph} {start : Address} {p q : Point} {s : CycleSearch}

theorem step (h : At g start p s) (hstep : g.Step p q) : At g start q (turn g s) := by
  have hwalked := h.walked.step hstep
  obtain ⟨gs, hgs⟩ := h.grouped
  have hgrouped := hgs.step h.walked hstep
  cases hstep with
  | leave c path fresh before =>
    have hc : c ∈ (g.components ⟨(c, []) :: path, fresh, before⟩).unsettled :=
      hgs.sublist.subset (List.mem_cons_self ..)
    have hagrees : Agrees (g.components ⟨path, fresh, .leave c :: before⟩) (turn g s) :=
      h.agrees.leave hgs.holds hc h.stack_eq
    refine ⟨hwalked, hgrouped, ?_, fun x => ?_, hagrees⟩
    · rw [turn_leave h.stack_eq]
      split <;> rfl
    · have hmarks : x ∈ (turn g s).marks ↔ x ∈ s.marks := by
        rw [turn_leave h.stack_eq]
        split <;> exact mem_marks_lowerTop
      rw [hmarks, h.mem_marks]
      exact (Point.met_leave_perm c path fresh before).mem_iff.symm
  | enter c d ds path fresh before hd =>
    have hnew : d ∉ (Point.mk ((c, d :: ds) :: path) fresh before).met :=
      ((h.walked.mem_fresh d).1 hd).2
    have hmarks : d ∉ s.marks := mt (h.mem_marks d).1 hnew
    rw [turn_enter h.stack_eq hmarks]
    have hopen : ∀ x ∈ ((c, ds) :: path).map (·.1),
        x ∈ (Point.mk ((c, d :: ds) :: path) fresh before).openCells := fun x hx => hx
    refine ⟨hwalked, hgrouped, rfl, fun x => ?_, ?_⟩
    · rw [mem_marks_meet]
      show x = d ∨ x ∈ s.marks ↔ x ∈ d :: (Point.mk ((c, d :: ds) :: path) fresh before).met
      rw [h.mem_marks, List.mem_cons]
    · refine (h.agrees.look h.stack_eq).meet hmarks (fun hx => ?_) fun x hx => ?_
      · exact hnew (List.mem_append_left _ (hopen d hx))
      · exact h.agrees.index_lt hgs.holds (hgs.sublist.subset (hopen x hx))
  | revisit c d ds path fresh before hd =>
    have hmarks : d ∈ s.marks := (h.mem_marks d).2 (h.walked.met_of_not_mem_fresh hd)
    have hlook := h.agrees.look h.stack_eq
    rw [turn_revisit h.stack_eq hmarks]
    split
    · next hon =>
      exact ⟨hwalked, hgrouped, rfl, fun x => mem_marks_lowerTop.trans (h.mem_marks x),
        hlook.revisit g c hgs.holds ((h.agrees.mem_onComponent d).1 hon)⟩
    · next hoff =>
      exact ⟨hwalked, hgrouped, rfl, h.mem_marks,
        hlook.revisit_settled g c hgs.holds (mt (h.agrees.mem_onComponent d).2 hoff)⟩

end At

theorem follows (g : Graph) (start : Address) : (loop g).Follows g (At g start) where
  stack_eq := fun _ _ h => h.stack_eq
  body := fun _ _ _ h hstep => h.step hstep

/-- The loop ends with the cells on cycles. -/
theorem At.cyclic_eq {g : Graph} {start : Address} {s : CycleSearch}
    {rest : Std.ExtTreeMap Address (Std.ExtTreeSet Address)}
    (h : At g start ⟨[], rest, (g.walk start).reverse⟩ s) :
    s.cyclic = g.cyclicCells start := by
  rw [h.agrees.cyclic_eq, Graph.components, List.foldr_reverse]
  rfl

end CycleSearch

namespace Graph

/-- Both loops end, and do so with what the walk finds. Each pushes every cell that it reaches once and
pops it once, where the start is pushed before the first turn, and takes one turn for each of these
cells and one for each link that leads from one of them. The walk itself takes as many steps, after the
one that opens the start. -/
theorem loops_turn_once_for_each_cell_and_link (g : Graph) (start : Address) :
    ∃ (cells : List Address) (links : List (Address × Address)),
      (cells.Nodup ∧ ∀ c, c ∈ cells ↔ g.Reaches start c) ∧
      (links.Nodup ∧ ∀ p d, (p, d) ∈ links ↔ g.Reaches start p ∧ g.Feeds p d) ∧
      ((OrderSearch.loop g).Ends (OrderSearch.first g start) fun turns pushed popped last =>
        turns = cells.length + links.length ∧ (start :: pushed).Perm cells ∧ popped.Perm cells ∧
          last.order = g.recalculationOrder start) ∧
      ((CycleSearch.loop g).Ends (CycleSearch.first g start) fun turns pushed popped last =>
        turns = cells.length + links.length ∧ (start :: pushed).Perm cells ∧ popped.Perm cells ∧
          last.cyclic = g.cyclicCells start) ∧
      (g.walk start).length = 1 + cells.length + links.length := by
  refine ⟨g.closedCells start, g.seenLinks start,
    ⟨g.nodup_closedCells start, fun c => mem_closedCells⟩,
    ⟨g.nodup_seenLinks start, fun p d => mem_seenLinks⟩, ?_, ?_, g.length_walk start⟩
  · refine ((OrderSearch.follows g start).ends (OrderSearch.at_first g start)).imp ?_
    rintro turns pushed popped last ⟨hturns, hpushed, hpopped, rest, hlast⟩
    exact ⟨hturns, hpushed, hpopped, hlast.order_eq⟩
  · refine ((CycleSearch.follows g start).ends (CycleSearch.at_first g start)).imp ?_
    rintro turns pushed popped last ⟨hturns, hpushed, hpopped, rest, hlast⟩
    exact ⟨hturns, hpushed, hpopped, hlast.cyclic_eq⟩

end Graph

end ReactiveGrid.Dependency
