import ReactiveGrid.Proofs.Grid.Renewed

/-!
# One hop against all hops

The two modes of propagation differ in how many readers are renewed, and in nothing else. A text that
is entered in either mode, on the same cells with the same links, leads to cells that agree up to
their values, and the values agree on the written cell and on its direct readers. This needs no value
to be up to date before.
-/

namespace ReactiveGrid.Grid
open Dependency

def withPropagation (g : Grid) (m : Propagation) : Grid :=
  { g with propagation := m }

section

variable {g : Grid} {m n : Propagation} {a c : Address} {text : String}

theorem modify_withPropagation (f : Cell → Cell) :
    (g.withPropagation m).modify a f = (g.modify a f).withPropagation m := by
  unfold modify
  by_cases h : g.shape.Contains a
  · rw [dif_pos h, dif_pos (show (g.withPropagation m).shape.Contains a from h)]
    rfl
  · rw [dif_neg h, dif_neg (show ¬ (g.withPropagation m).shape.Contains a from h)]

theorem rebind_withPropagation : (g.withPropagation m).rebind a = (g.rebind a).withPropagation m := by
  unfold rebind
  dsimp only
  rw [modify_withPropagation]
  rfl

theorem rebound_withPropagation :
    (g.withPropagation m).rebound a text = (g.rebound a text).withPropagation m := by
  rw [rebound, modify_withPropagation, rebind_withPropagation]
  rfl

theorem Linked.withPropagation (h : g.Linked) (m : Propagation) : (g.withPropagation m).Linked :=
  h.of_eq rfl rfl fun _ => rfl

theorem graph_assign_withPropagation :
    ((g.withPropagation m).assign a text).grid.graph = (g.rebound a text).graph := by
  rw [graph_assign, rebound_withPropagation]
  rfl

theorem cell?_assign_withPropagation (value : String) :
    (((g.withPropagation m).assign a text).grid.cell? c).map ({ · with value := value }) =
      ((g.rebound a text).cell? c).map ({ · with value := value }) := by
  rw [cell?_assign, rebound_withPropagation, Option.map_map]
  rfl

theorem text_assign_withPropagation :
    ((g.withPropagation m).assign a text).grid.text c = (g.rebound a text).text c := by
  rw [text_assign, rebound_withPropagation]
  rfl

theorem value_assign_self_withPropagation :
    ((g.withPropagation m).assign a text).grid.value a =
      ((g.rebound a text).evaluate ((g.rebound a text).graph.cyclicCells a) a).1 := by
  rw [value_assign_self, rebound_withPropagation]
  rfl

/-- A direct reader shows its text if it is on a cycle, and else what the written cell shows. -/
theorem value_assign_reader (h : g.Linked) (hfeeds : (g.rebound a text).graph.Feeds a c) :
    ((g.rebound a text).graph.OnCycle c →
      ((g.withPropagation m).assign a text).grid.value c =
        ((g.withPropagation m).assign a text).grid.text c) ∧
    (¬ (g.rebound a text).graph.OnCycle c →
      ((g.withPropagation m).assign a text).grid.value c =
        ((g.withPropagation m).assign a text).grid.value a) := by
  have hgraph : ((g.withPropagation m).rebound a text).graph = (g.rebound a text).graph := by
    rw [rebound_withPropagation]
    rfl
  have hfeeds' : ((g.withPropagation m).rebound a text).graph.Feeds a c := by rwa [hgraph]
  constructor
  · intro hcycle
    rw [← hgraph] at hcycle
    exact value_assign_of_onCycle (mem_renewed_of_feeds hfeeds') hcycle
  · intro hcycle
    rw [← hgraph] at hcycle
    exact value_assign_of_feeds (h.withPropagation m) hfeeds' hcycle

theorem value_assign_singleHop (hc : c ≠ a) (hfeeds : ¬ (g.rebound a text).graph.Feeds a c) :
    ((g.withPropagation .singleHop).assign a text).grid.value c = g.value c := by
  refine value_assign_of_not_mem fun hmem => ?_
  rcases (mem_renewed_singleHop rfl).1 hmem with heq | hreads
  · exact hc heq
  · rw [rebound_withPropagation] at hreads
    exact hfeeds hreads

theorem value_assign_transitive (hc : ¬ (g.rebound a text).graph.Reaches a c) :
    ((g.withPropagation .transitive).assign a text).grid.value c = g.value c := by
  refine value_assign_of_not_mem fun hmem => hc ?_
  have hreach := reaches_of_mem_renewed hmem
  rwa [rebound_withPropagation] at hreach

end

/-- A text entered once with one hop and once with all hops, from the same cells and links after any
run, leaves the same cells up to their values, and the same links. The written cell shows the same,
and so does each cell that reads it: its own text if it is on a cycle, and else the value of the
written cell. With one hop every other cell keeps its value; with all hops every cell keeps it that
is not reached from the written one. -/
theorem modes_agree_on_direct_readers (s : Shape) (m : Propagation) (ops : List Operation)
    (a : Address) (text : String) :
    let g := (blank s m).run ops
    let near := ((g.withPropagation .singleHop).apply (.setText a text)).grid
    let far := ((g.withPropagation .transitive).apply (.setText a text)).grid
    (∀ c, (near.cell? c).map ({ · with value := "" }) =
      (far.cell? c).map ({ · with value := "" })) ∧
    near.graph = far.graph ∧
    near.value a = far.value a ∧
    (∀ d, far.graph.Feeds a d → near.value d = far.value d ∧
      (far.graph.OnCycle d → far.value d = far.text d) ∧
      (¬ far.graph.OnCycle d → far.value d = far.value a)) ∧
    (∀ c, c ≠ a → ¬ near.graph.Feeds a c → near.value c = g.value c) ∧
    ∀ c, ¬ far.graph.Reaches a c → far.value c = g.value c := by
  intro g near far
  have h : g.Linked := (sound_run s m ops).linked
  by_cases ha : g.shape.Contains a
  · have hnear : near = ((g.withPropagation .singleHop).assign a text).grid :=
      grid_setText (g := g.withPropagation .singleHop) ha
    have hfar : far = ((g.withPropagation .transitive).assign a text).grid :=
      grid_setText (g := g.withPropagation .transitive) ha
    have hself : near.value a = far.value a := by
      rw [hnear, hfar, value_assign_self_withPropagation, value_assign_self_withPropagation]
    have htext : ∀ c, near.text c = far.text c := by
      intro c
      rw [hnear, hfar, text_assign_withPropagation, text_assign_withPropagation]
    have hgraph : near.graph = (g.rebound a text).graph := by
      rw [hnear, graph_assign_withPropagation]
    have hgraph' : far.graph = (g.rebound a text).graph := by
      rw [hfar, graph_assign_withPropagation]
    refine ⟨?_, hgraph.trans hgraph'.symm, hself, ?_, ?_, ?_⟩
    · intro c
      rw [hnear, hfar, cell?_assign_withPropagation, cell?_assign_withPropagation]
    · intro d hd
      rw [hgraph'] at hd ⊢
      have hvalue := value_assign_reader (m := .singleHop) h hd
      have hvalue' := value_assign_reader (m := .transitive) h hd
      rw [← hnear] at hvalue
      rw [← hfar] at hvalue'
      refine ⟨?_, hvalue'⟩
      by_cases hcycle : (g.rebound a text).graph.OnCycle d
      · rw [hvalue.1 hcycle, hvalue'.1 hcycle, htext]
      · rw [hvalue.2 hcycle, hvalue'.2 hcycle, hself]
    · intro c hc hfeeds
      rw [hgraph] at hfeeds
      rw [hnear]
      exact value_assign_singleHop hc hfeeds
    · intro c hreach
      rw [hgraph'] at hreach
      rw [hfar]
      exact value_assign_transitive hreach
  · -- A refused text changes nothing, and nothing reads an address outside.
    have hnear : near = g.withPropagation .singleHop :=
      grid_setText_of_not_contains (g := g.withPropagation .singleHop) ha
    have hfar : far = g.withPropagation .transitive :=
      grid_setText_of_not_contains (g := g.withPropagation .transitive) ha
    rw [hnear, hfar]
    refine ⟨fun _ => rfl, rfl, rfl, ?_, fun _ _ _ => rfl, fun _ _ => rfl⟩
    intro d hd
    exact absurd (h.contains_of_feeds hd).1 ha

/-- B1 refers to A1, so it shows what is entered there, in either mode. -/
theorem modes_agree_on_direct_readers_of_reference :
    let g := (blank ⟨1, 2, by decide⟩ .transitive).run [.setText ⟨0, 1⟩ "=A1"]
    let near := ((g.withPropagation .singleHop).apply (.setText ⟨0, 0⟩ "x")).grid
    let far := ((g.withPropagation .transitive).apply (.setText ⟨0, 0⟩ "x")).grid
    far.graph.Feeds ⟨0, 0⟩ ⟨0, 1⟩ ∧ near.value ⟨0, 1⟩ = far.value ⟨0, 1⟩ := by
  intro g near far
  have hshape : g.shape = ⟨1, 2, by decide⟩ := shape_run ..
  have hcontains : (g.withPropagation .transitive).shape.Contains ⟨0, 0⟩ := by
    rw [show (g.withPropagation .transitive).shape = _ from hshape]
    decide
  have htext : g.text ⟨0, 1⟩ = "=A1" := text_setText (by decide)
  have hreads : g.graph.Feeds ⟨0, 0⟩ ⟨0, 1⟩ := by
    rw [(sound_run ..).linked _ _, Shape.Refers, htext, hshape]
    decide
  have hfeeds : far.graph.Feeds ⟨0, 0⟩ ⟨0, 1⟩ := by
    rw [show far = _ from grid_setText hcontains, graph_assign_withPropagation]
    exact (feeds_rebound_of_ne (by decide)).1 hreads
  obtain ⟨-, -, -, hreaders, -⟩ := modes_agree_on_direct_readers ⟨1, 2, by decide⟩ .transitive
    [.setText ⟨0, 1⟩ "=A1"] ⟨0, 0⟩ "x"
  exact ⟨hfeeds, (hreaders _ hfeeds).1⟩

end ReactiveGrid.Grid
