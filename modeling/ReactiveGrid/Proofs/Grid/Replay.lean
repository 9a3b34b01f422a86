import Mathlib.Data.List.Induction
import ReactiveGrid.Proofs.Grid.Current
import ReactiveGrid.Proofs.Grid.Renewed

/-!
# Entering all texts again

A grid with one hop can be brought up to date: the text of each cell is entered again, and that of a
cell off the cycles only after that of the cell it refers to. This changes no text, no color and no
link. A cell whose text is entered then takes the value that it has with all hops. It keeps it, since
later it is renewed only as a reader of a cell that is right by then; and on a cycle a cell shows its
own text, whenever it is renewed.
-/

namespace ReactiveGrid.Grid

/-- The cell shows the text of the cell where its chain of references ends. -/
def UpToDate (g : Grid) (c : Address) : Prop :=
  ∀ e, g.shape.EndsAt g.text c e → g.value c = g.text e

/-! ### Entering one text again -/

theorem text_assign_again {g : Grid} {a : Address} (ha : g.shape.Contains a) :
    (g.assign a (g.text a)).grid.text = g.text := by
  funext c
  by_cases hc : c = a
  · rw [hc, text_assign_self ha]
  · exact text_assign_of_ne hc

section

variable {g : Grid} {a c : Address} {text : String}

theorem upToDate_assign_self (h : g.Linked) (htext : (g.assign a text).grid.text = g.text)
    (hready : ∀ t, g.shape.Refers g.text a t → ¬ g.shape.RefersInCycle g.text a → g.UpToDate t) :
    (g.assign a text).grid.UpToDate a := by
  intro e he
  cases he with
  | noReference _ hno => exact value_assign_self_of_not_refers hno
  | onCycle _ hcycle => exact value_assign_of_refersInCycle h (List.mem_cons_self ..) hcycle
  | follow _ t _ hat hcycle hte =>
    rw [value_assign_self_of_refers h hat hcycle, htext]
    rw [shape_assign, htext] at hat hcycle hte
    exact hready t hat hcycle e hte

/-- A cell that is up to date stays so if the written cell is up to date afterwards. -/
theorem upToDate_assign (h : g.Linked) (hg : g.propagation = .singleHop)
    (htext : (g.assign a text).grid.text = g.text) (ha : (g.assign a text).grid.UpToDate a)
    (hc : g.UpToDate c) : (g.assign a text).grid.UpToDate c := by
  intro e he
  by_cases hmem : c ∈ g.renewed a text
  · rcases (mem_renewed_singleHop hg).1 hmem with rfl | hfeeds
    · exact ha e he
    · have hca := (feeds_rebound_iff h).1 hfeeds
      by_cases hcycle :
        (g.assign a text).grid.shape.RefersInCycle (g.assign a text).grid.text c
      · rw [he.eq_of_refersInCycle hcycle]
        exact value_assign_of_refersInCycle h hmem hcycle
      · rw [value_assign_of_refers h hca hcycle]
        exact ha e (he.of_refers hca hcycle)
  · rw [shape_assign, htext] at he
    rw [value_assign_of_not_mem hmem, htext]
    exact hc e he

end

/-! ### Entering many texts again -/

/-- What is kept, and what is right already, when the texts of some cells were entered again. -/
structure Replayed (g g' : Grid) (done : List Address) : Prop where
  linked : g'.Linked
  shape_eq : g'.shape = g.shape
  propagation_eq : g'.propagation = g.propagation
  graph_eq : g'.graph = g.graph
  text_eq : g'.text = g.text
  color_eq : ∀ c, (g'.cell? c).map (·.color) = (g.cell? c).map (·.color)
  upToDate : ∀ c ∈ done, g'.UpToDate c

theorem Replayed.start {g : Grid} (h : g.Linked) : Replayed g g [] where
  linked := h
  shape_eq := rfl
  propagation_eq := rfl
  graph_eq := rfl
  text_eq := rfl
  color_eq := fun _ => rfl
  upToDate := fun _ hc => absurd hc List.not_mem_nil

theorem Replayed.step {g g' : Grid} {done : List Address} {a : Address} (h : Replayed g g' done)
    (hg : g.propagation = .singleHop) (ha : g.shape.Contains a)
    (hready : ∀ t, g.shape.Refers g.text a t → ¬ g.shape.RefersInCycle g.text a → t ∈ done) :
    Replayed g (g'.assign a (g.text a)).grid (done ++ [a]) := by
  have htext : (g'.assign a (g.text a)).grid.text = g'.text := by
    rw [← h.text_eq]
    exact text_assign_again (h.shape_eq ▸ ha)
  have hlinked := linked_assign h.linked a (g.text a)
  have hself : (g'.assign a (g.text a)).grid.UpToDate a := by
    refine upToDate_assign_self h.linked htext fun t hat hcycle => h.upToDate t (hready t ?_ ?_)
    · rwa [h.shape_eq, h.text_eq] at hat
    · rwa [h.shape_eq, h.text_eq] at hcycle
  constructor
  case linked => exact hlinked
  case shape_eq => rw [shape_assign, h.shape_eq]
  case propagation_eq => rw [propagation_assign, h.propagation_eq]
  case graph_eq => rw [h.linked.graph_eq hlinked (shape_assign ..) htext, h.graph_eq]
  case text_eq => rw [htext, h.text_eq]
  case color_eq =>
    intro c
    rw [color_assign, h.color_eq c]
  case upToDate =>
    intro c hc
    rcases List.mem_append.1 hc with hc | hc
    · exact upToDate_assign h.linked (h.propagation_eq.trans hg) htext hself (h.upToDate c hc)
    · rw [List.mem_singleton.1 hc]
      exact hself

theorem mem_front_of_idxOf_lt {front back : List Address} {c t : Address}
    (h : (front ++ c :: back).idxOf t < (front ++ c :: back).idxOf c) : t ∈ front := by
  have hc : (front ++ c :: back).idxOf c ≤ front.length := by
    by_cases hmem : c ∈ front
    · rw [List.idxOf_append_of_mem hmem]
      exact (List.idxOf_lt_length_of_mem hmem).le
    · rw [List.idxOf_append_of_notMem hmem, List.idxOf_cons_self]
      omega
  by_contra ht
  rw [List.idxOf_append_of_notMem ht] at h
  omega

/-- The operation that enters the text which a cell has. -/
def again (g : Grid) (a : Address) : Operation :=
  .setText a (g.text a)

theorem replayed_run {g : Grid} (h : g.Linked) (hg : g.propagation = .singleHop)
    {order : List Address} (hin : ∀ a ∈ order, g.shape.Contains a)
    (hsorted : ∀ c t, g.shape.Refers g.text c t → ¬ g.shape.RefersInCycle g.text c →
      order.idxOf t < order.idxOf c) :
    Replayed g (g.run (order.map g.again)) order := by
  suffices hfront : ∀ front back, order = front ++ back →
      Replayed g (g.run (front.map g.again)) front from hfront order [] (List.append_nil _).symm
  intro front
  induction front using List.reverseRecOn with
  | nil =>
    intro _ _
    exact .start h
  | append_singleton front a ih =>
    intro back heq
    rw [List.append_assoc, List.singleton_append] at heq
    have hdone := ih (a :: back) heq
    have ha : g.shape.Contains a := hin a (by simp [heq])
    have hgrid : g.run ((front ++ [a]).map g.again) =
        ((g.run (front.map g.again)).assign a (g.text a)).grid := by
      rw [List.map_append, List.map_singleton, run_concat]
      exact grid_setText (hdone.shape_eq ▸ ha)
    rw [hgrid]
    refine hdone.step hg ha fun t hat hcycle => ?_
    have hlt := hsorted a t hat hcycle
    rw [heq] at hlt
    exact mem_front_of_idxOf_lt hlt

/-- After any run with one hop, let the text of each cell be entered again, in an order in which each
cell off the cycles that refers to a cell comes after it. Then every cell shows the text of the cell
where its chain of references ends, which is what it shows after any run with all hops that leads to
the same texts. No text, no color and no link was changed. -/
theorem replay_brings_up_to_date (s : Shape) (ops : List Operation) (order : List Address)
    (hcells : ∀ a, a ∈ order ↔ s.Contains a)
    (hsorted : ∀ c t, s.Refers ((blank s .singleHop).run ops).text c t →
      ¬ s.RefersInCycle ((blank s .singleHop).run ops).text c → order.idxOf t < order.idxOf c) :
    let before := (blank s .singleHop).run ops
    let after := before.run (order.map fun a => .setText a (before.text a))
    (∀ c, s.Contains c → ∃ e, s.EndsAt before.text c e ∧ after.value c = before.text e) ∧
    (∀ ops' : List Operation,
      (∀ c, s.Contains c → ((blank s .transitive).run ops').text c = before.text c) →
      ∀ c, s.Contains c → after.value c = ((blank s .transitive).run ops').value c) ∧
    (∀ c, after.text c = before.text c) ∧
    (∀ c, (after.cell? c).map (·.color) = (before.cell? c).map (·.color)) ∧
    after.graph = before.graph := by
  intro before after
  have hshape : before.shape = s := shape_run ..
  have hlinked : before.Linked := (sound_run ..).linked
  have hpropagation : before.propagation = .singleHop := propagation_run ..
  have h : Replayed before after order := by
    refine replayed_run hlinked hpropagation (fun a ha => ?_) ?_
    · rw [hshape]
      exact (hcells a).1 ha
    · rw [hshape]
      exact hsorted
  have hvalue : ∀ c e, s.Contains c → s.EndsAt before.text c e → after.value c = before.text e := by
    intro c e hc he
    rw [h.upToDate c ((hcells c).2 hc) e (by rwa [h.shape_eq, h.text_eq, hshape]), h.text_eq]
  refine ⟨fun c hc => ?_, fun ops' htexts c hc => ?_, congrFun h.text_eq, h.color_eq, h.graph_eq⟩
  · obtain ⟨e, he⟩ : ∃ e, s.EndsAt before.text c e := Shape.exists_endsAt_of_contains hc
    exact ⟨e, he, hvalue c e hc he⟩
  · have htext : ((blank s .transitive).run ops').text = before.text := by
      funext a
      by_cases ha : s.Contains a
      · exact htexts a ha
      · rw [text_of_not_contains (by rwa [shape_run]), text_of_not_contains (by rwa [hshape])]
    obtain ⟨e, he⟩ : ∃ e, s.EndsAt before.text c e := Shape.exists_endsAt_of_contains hc
    rw [hvalue c e hc he, value_run_eq_text (by rwa [htext]), htext]

/-- C1 refers to B1 and B1 to A1. With one hop the text of A1 does not get to C1 before the replay. -/
theorem replay_brings_up_to_date_of_chain :
    let before := (blank ⟨1, 3, by decide⟩ .singleHop).run
      [.setText ⟨0, 2⟩ "=B1", .setText ⟨0, 1⟩ "=A1", .setText ⟨0, 0⟩ "x"]
    let after := before.run
      ([⟨0, 0⟩, ⟨0, 1⟩, ⟨0, 2⟩].map fun a : Address => .setText a (before.text a))
    after.value ⟨0, 2⟩ = "x" := by
  intro before after
  have hA : before.text ⟨0, 0⟩ = "x" :=
    text_setText (g := (blank _ _).run [.setText ⟨0, 2⟩ "=B1", .setText ⟨0, 1⟩ "=A1"]) (by
      rw [shape_run]
      decide)
  have hB : before.text ⟨0, 1⟩ = "=A1" :=
    (text_setText_of_ne (by decide)).trans
      (text_setText (g := (blank _ _).run [.setText ⟨0, 2⟩ "=B1"]) (by
        rw [shape_run]
        decide))
  have hC : before.text ⟨0, 2⟩ = "=B1" :=
    (text_setText_of_ne (by decide)).trans
      ((text_setText_of_ne (by decide)).trans (text_setText (by decide)))
  have hcells : ∀ a : Address, a ∈ [⟨0, 0⟩, ⟨0, 1⟩, ⟨0, 2⟩] ↔
      Shape.Contains ⟨1, 3, by decide⟩ a := by
    rintro ⟨row, column⟩
    simp only [List.mem_cons, List.not_mem_nil, Address.mk.injEq, Shape.Contains, or_false]
    omega
  have hrefers : ∀ c t, Shape.Refers ⟨1, 3, by decide⟩ before.text c t →
      c = ⟨0, 1⟩ ∧ t = ⟨0, 0⟩ ∨ c = ⟨0, 2⟩ ∧ t = ⟨0, 1⟩ := by
    intro c t hct
    by_cases hc : c ∈ [(⟨0, 0⟩ : Address), ⟨0, 1⟩, ⟨0, 2⟩]
    · simp only [List.mem_cons, List.not_mem_nil, or_false] at hc
      rcases hc with rfl | rfl | rfl
      · rw [Shape.Refers, hA] at hct
        cases hct
      · rw [Shape.Refers, hB] at hct
        exact Or.inl ⟨rfl, (Option.some.inj hct).symm⟩
      · rw [Shape.Refers, hC] at hct
        exact Or.inr ⟨rfl, (Option.some.inj hct).symm⟩
    · rw [hcells] at hc
      rw [Shape.Refers, text_of_not_contains (by rwa [shape_run])] at hct
      cases hct
  have hCB : Shape.Refers ⟨1, 3, by decide⟩ before.text ⟨0, 2⟩ ⟨0, 1⟩ := by
    rw [Shape.Refers, hC]
    rfl
  have hBA : Shape.Refers ⟨1, 3, by decide⟩ before.text ⟨0, 1⟩ ⟨0, 0⟩ := by
    rw [Shape.Refers, hB]
    rfl
  have hfree : ∀ t, ¬ Shape.Refers ⟨1, 3, by decide⟩ before.text ⟨0, 0⟩ t := by
    intro t ht
    rcases hrefers _ t ht with ⟨h, -⟩ | ⟨h, -⟩ <;> cases h
  have hacyclicB : ¬ Shape.RefersInCycle ⟨1, 3, by decide⟩ before.text ⟨0, 1⟩ :=
    fun hcycle => Shape.not_refersInCycle_of_no_reference hfree (hcycle.of_refers hBA)
  have hacyclicC : ¬ Shape.RefersInCycle ⟨1, 3, by decide⟩ before.text ⟨0, 2⟩ :=
    fun hcycle => hacyclicB (hcycle.of_refers hCB)
  obtain ⟨hvalue, -⟩ := replay_brings_up_to_date ⟨1, 3, by decide⟩
    [.setText ⟨0, 2⟩ "=B1", .setText ⟨0, 1⟩ "=A1", .setText ⟨0, 0⟩ "x"]
    [⟨0, 0⟩, ⟨0, 1⟩, ⟨0, 2⟩] hcells (fun c t hct _ => by
      rcases hrefers c t hct with ⟨rfl, rfl⟩ | ⟨rfl, rfl⟩ <;> decide)
  obtain ⟨e, he, hval⟩ := hvalue ⟨0, 2⟩ (by decide)
  have hend : e = ⟨0, 0⟩ :=
    ((he.of_refers hCB hacyclicC).of_refers hBA hacyclicB).unique (.noReference _ hfree)
  exact hval.trans (by rw [hend]; exact hA)

end ReactiveGrid.Grid
