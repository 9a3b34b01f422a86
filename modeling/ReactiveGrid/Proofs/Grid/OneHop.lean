import ReactiveGrid.Proofs.Grid.Renewed

/-!
# What one hop keeps up to date

With one hop, a change is not pushed beyond the direct readers of the written cell, so values grow
stale. Yet some never do. A cell that refers to no other cell shows its text, and whoever refers to
such a cell shows that text; two cells that refer to each other show their own texts. For each of these
cells the texts that decide its value are its own and that of the cell it refers to, and a change of
either of the two renews it.
-/

namespace ReactiveGrid

namespace Shape

variable {s : Shape} {text : Address → String} {c t e : Address}

/-- The cell refers to nothing, or to itself. -/
def RefersToNoOther (s : Shape) (text : Address → String) (c : Address) : Prop :=
  ∀ t, s.Refers text c t → t = c

theorem RefersToNoOther.not_refersInCycle (ht : s.RefersToNoOther text t) (hct : s.Refers text c t)
    (hne : t ≠ c) : ¬ s.RefersInCycle text c := by
  intro hcycle
  -- Every chain from the cell goes to the one it refers to, and stays there.
  have hstay : ∀ e, Relation.TransGen (s.Refers text) c e → e = t := by
    intro e he
    induction he with
    | single hce => exact hce.unique hct
    | tail _ hde ih =>
      rw [ih] at hde
      exact ht _ hde
  exact hne (hstay c hcycle).symm

end Shape

namespace Grid

structure NearCurrent (g : Grid) : Prop where
  linked : g.Linked
  value_own : ∀ c, g.shape.RefersToNoOther g.text c → g.value c = g.text c
  value_mutual : ∀ c t, g.shape.Refers g.text c t → g.shape.Refers g.text t c → g.value c = g.text c
  value_target : ∀ c t, g.shape.Refers g.text c t → g.shape.RefersToNoOther g.text t →
    g.value c = g.text t

theorem nearCurrent_blank (s : Shape) (m : Propagation) : (blank s m).NearCurrent where
  linked := linked_blank s m
  value_own := by
    intro c _
    rw [value_blank, text_blank]
  value_mutual := by
    intro c t _ _
    rw [value_blank, text_blank]
  value_target := by
    intro c t _ _
    rw [value_blank, text_blank]

theorem NearCurrent.of_alike {g g' : Grid} (h : g.NearCurrent) (hsame : g.Alike g') :
    g'.NearCurrent := by
  have htext : g'.text = g.text := funext hsame.text_eq
  constructor
  case linked => exact h.linked.of_eq hsame.shape_eq hsame.graph_eq hsame.text_eq
  case value_own =>
    intro c hc
    rw [hsame.shape_eq, htext] at hc
    rw [hsame.value_eq, htext]
    exact h.value_own c hc
  case value_mutual =>
    intro c t hct htc
    rw [hsame.shape_eq, htext] at hct htc
    rw [hsame.value_eq, htext]
    exact h.value_mutual c t hct htc
  case value_target =>
    intro c t hct ht
    rw [hsame.shape_eq, htext] at hct ht
    rw [hsame.value_eq, htext]
    exact h.value_target c t hct ht

/-! ### Entering a text -/

section

variable {g : Grid} {a c t : Address} {text : String}

theorem refersToNoOther_assign_of_ne (hc : c ≠ a) :
    (g.assign a text).grid.shape.RefersToNoOther (g.assign a text).grid.text c ↔
      g.shape.RefersToNoOther g.text c :=
  forall_congr' fun _ => imp_congr_left (refers_assign_of_ne hc)

namespace NearCurrent

theorem value_own_assign (h : g.NearCurrent) (hg : g.propagation = .singleHop)
    (hc : (g.assign a text).grid.shape.RefersToNoOther (g.assign a text).grid.text c) :
    (g.assign a text).grid.value c = (g.assign a text).grid.text c := by
  by_cases hca : c = a
  · subst hca
    by_cases hself : (g.assign c text).grid.shape.Refers (g.assign c text).grid.text c c
    · exact value_assign_of_refersInCycle h.linked (List.mem_cons_self ..)
        (Relation.TransGen.single hself)
    · refine value_assign_self_of_not_refers fun t hct => hself ?_
      rwa [hc t hct] at hct
  · rw [value_assign_of_ne_of_not_refers h.linked hg hca fun hrefers => hca (hc a hrefers).symm,
      text_assign_of_ne hca]
    exact h.value_own c ((refersToNoOther_assign_of_ne hca).1 hc)

theorem value_mutual_assign (h : g.NearCurrent) (hg : g.propagation = .singleHop)
    (hct : (g.assign a text).grid.shape.Refers (g.assign a text).grid.text c t)
    (htc : (g.assign a text).grid.shape.Refers (g.assign a text).grid.text t c) :
    (g.assign a text).grid.value c = (g.assign a text).grid.text c := by
  by_cases hc : c ∈ g.renewed a text
  · exact value_assign_of_refersInCycle h.linked hc ((Relation.TransGen.single hct).tail htc)
  · rw [mem_renewed_singleHop hg, not_or, feeds_rebound_iff h.linked] at hc
    obtain ⟨hca, hrefers⟩ := hc
    have hta : t ≠ a := by
      rintro rfl
      exact hrefers hct
    rw [value_assign_of_ne_of_not_refers h.linked hg hca hrefers, text_assign_of_ne hca]
    exact h.value_mutual c t ((refers_assign_of_ne hca).1 hct) ((refers_assign_of_ne hta).1 htc)

theorem value_target_assign (h : g.NearCurrent) (hg : g.propagation = .singleHop)
    (hct : (g.assign a text).grid.shape.Refers (g.assign a text).grid.text c t)
    (ht : (g.assign a text).grid.shape.RefersToNoOther (g.assign a text).grid.text t) :
    (g.assign a text).grid.value c = (g.assign a text).grid.text t := by
  by_cases htc : t = c
  · subst htc
    exact h.value_own_assign hg ht
  have hcycle := ht.not_refersInCycle hct htc
  by_cases hta : t = a
  · subst hta
    rw [value_assign_of_refers h.linked hct hcycle, h.value_own_assign hg ht]
  have ht' : g.shape.RefersToNoOther g.text t := (refersToNoOther_assign_of_ne hta).1 ht
  rw [text_assign_of_ne hta]
  by_cases hca : c = a
  · -- The written cell takes the value of a cell that this text does not touch.
    subst hca
    rw [value_assign_self_of_refers h.linked hct hcycle, h.value_own t ht']
  · have hrefers : ¬ (g.assign a text).grid.shape.Refers (g.assign a text).grid.text c a :=
      fun hrefers => hta (hct.unique hrefers)
    rw [value_assign_of_ne_of_not_refers h.linked hg hca hrefers]
    exact h.value_target c t ((refers_assign_of_ne hca).1 hct) ht'

theorem assign (h : g.NearCurrent) (hg : g.propagation = .singleHop) (a : Address)
    (text : String) : (g.assign a text).grid.NearCurrent where
  linked := linked_assign h.linked a text
  value_own := fun _ hc => h.value_own_assign hg hc
  value_mutual := fun _ _ hct htc => h.value_mutual_assign hg hct htc
  value_target := fun _ _ hct ht => h.value_target_assign hg hct ht

theorem move {g' : Grid} (h : g.NearCurrent) (hg : g.propagation = .singleHop)
    (hmove : g.Move g') : g'.NearCurrent := by
  rcases hmove.assign_or_alike with ⟨a, text, heq⟩ | hsame
  · rw [heq]
    exact h.assign hg a text
  · exact h.of_alike hsame

end NearCurrent

end

theorem nearCurrent_run (s : Shape) (ops : List Operation) :
    ((blank s .singleHop).run ops).NearCurrent :=
  run_invariant_of_propagation (fun _ _ h hg hmove => h.move hg hmove) (blank s .singleHop) ops rfl
    (nearCurrent_blank s .singleHop)

/-- After any run with one hop, however stale other values are: a cell that refers to nothing shows its
text, and a cell that refers to such a cell shows that text. A cell that refers to itself, or to a cell
that refers back to it, shows its own text; and a cell that refers to a cell that refers to itself shows
the text of that cell. -/
theorem values_told_by_near_texts (s : Shape) (ops : List Operation) :
    let g := (blank s .singleHop).run ops
    ∀ c, s.Contains c →
      ((∀ t, ¬ s.Refers g.text c t) → g.value c = g.text c) ∧
      (∀ t, s.Refers g.text c t → (∀ u, ¬ s.Refers g.text t u) → g.value c = g.text t) ∧
      (s.Refers g.text c c → g.value c = g.text c) ∧
      (∀ t, s.Refers g.text c t → s.Refers g.text t c → g.value c = g.text c) ∧
      ∀ t, s.Refers g.text c t → s.Refers g.text t t → g.value c = g.text t := by
  intro g c _
  have h : g.NearCurrent := nearCurrent_run s ops
  have hshape : g.shape = s := shape_run ..
  rw [← hshape]
  refine ⟨fun hno => h.value_own c fun t ht => absurd ht (hno t), fun t hct hno => ?_,
    fun hself => h.value_mutual c c hself hself, fun t hct htc => h.value_mutual c t hct htc,
    fun t hct hself => h.value_target c t hct fun u hu => hu.unique hself⟩
  exact h.value_target c t hct fun u hu => absurd hu (hno u)

/-- A1 refers to itself, and B1 to A1, so both show the text of A1. -/
theorem values_told_by_near_texts_of_self_reference :
    let g := (blank ⟨1, 2, by decide⟩ .singleHop).run
      [.setText ⟨0, 1⟩ "=A1", .setText ⟨0, 0⟩ "=A1"]
    g.shape.Refers g.text ⟨0, 1⟩ ⟨0, 0⟩ ∧ g.shape.Refers g.text ⟨0, 0⟩ ⟨0, 0⟩ ∧
      g.value ⟨0, 1⟩ = "=A1" := by
  intro g
  have hshape : g.shape = ⟨1, 2, by decide⟩ := shape_run ..
  have hA : g.text ⟨0, 0⟩ = "=A1" :=
    text_setText (g := (blank ⟨1, 2, by decide⟩ .singleHop).run [.setText ⟨0, 1⟩ "=A1"]) (by
      rw [shape_run]
      decide)
  have hB : g.text ⟨0, 1⟩ = "=A1" := by
    refine (text_setText_of_ne (by decide)).trans ?_
    exact text_setText (g := blank ⟨1, 2, by decide⟩ .singleHop) (by decide)
  have hBA : g.shape.Refers g.text ⟨0, 1⟩ ⟨0, 0⟩ := by
    rw [Shape.Refers, hB, hshape]
    decide
  have hAA : g.shape.Refers g.text ⟨0, 0⟩ ⟨0, 0⟩ := by
    rw [Shape.Refers, hA, hshape]
    decide
  obtain ⟨-, -, -, -, hvalue⟩ := values_told_by_near_texts ⟨1, 2, by decide⟩
    [.setText ⟨0, 1⟩ "=A1", .setText ⟨0, 0⟩ "=A1"] ⟨0, 1⟩ (by decide)
  refine ⟨hBA, hAA, (hvalue ⟨0, 0⟩ ?_ ?_).trans hA⟩
  · rwa [hshape] at hBA
  · rwa [hshape] at hAA

end Grid

end ReactiveGrid
