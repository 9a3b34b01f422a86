import ReactiveGrid.Proofs.Address.Name
import ReactiveGrid.Proofs.Grid.Links

/-!
# The table of cells

The cells of a grid stand row by row: each at the place that its address tells, in the order of the
addresses, and with a name of its own by which it is found. No operation moves a cell.
-/

namespace ReactiveGrid

namespace Shape

/-- The cells of a grid, row by row. -/
def addresses (s : Shape) : List Address :=
  (List.range s.rows).flatMap fun row => (List.range s.columns).map fun column => ⟨row, column⟩

theorem mem_addresses {s : Shape} {a : Address} : a ∈ s.addresses ↔ s.Contains a := by
  obtain ⟨row, column⟩ := a
  simp [addresses, Contains]

theorem flatMap_range_eq_map (s : Shape) (rows : Nat) :
    ((List.range rows).flatMap fun row => (List.range s.columns).map fun column => ⟨row, column⟩) =
      (List.range (rows * s.columns)).map s.addressAt := by
  induction rows with
  | zero => rw [Nat.zero_mul, List.range_zero, List.flatMap_nil, List.map_nil]
  | succ row ih =>
    rw [List.range_succ, List.flatMap_append, ih, Nat.succ_mul, List.range_add, List.map_append,
      List.flatMap_singleton, List.map_map]
    refine congrArg _ (List.map_congr_left fun column hcolumn => ?_)
    exact (addressAt_mul_add (List.mem_range.1 hcolumn)).symm

theorem addresses_eq_map (s : Shape) : s.addresses = (List.range s.size).map s.addressAt :=
  flatMap_range_eq_map s s.rows

theorem addressAt_lt_addressAt {s : Shape} {i j : Nat} (h : i < j) :
    compare (s.addressAt i) (s.addressAt j) = .lt := by
  rw [Address.compare_eq_lt_iff]
  have hi := Nat.div_add_mod i s.columns
  have hj := Nat.div_add_mod j s.columns
  rcases Nat.lt_or_eq_of_le (Nat.div_le_div_right (c := s.columns) h.le) with hrow | hrow
  · exact .inl hrow
  · refine .inr ⟨hrow, ?_⟩
    show i % s.columns < j % s.columns
    rw [hrow] at hi
    omega

theorem pairwise_addresses (s : Shape) : s.addresses.Pairwise fun a b => compare a b = .lt := by
  rw [addresses_eq_map, List.pairwise_map]
  exact List.pairwise_lt_range.imp addressAt_lt_addressAt

end Shape

namespace Grid

theorem cell?_addressAt {g : Grid} {i : Nat} (h : i < g.shape.size) :
    g.cell? (g.shape.addressAt i) = some (getElem g.cells i h) := by
  rw [cell?_of_contains (Shape.contains_addressAt h), cellAt]
  simp only [Shape.index_addressAt]

theorem Sound.address_getElem {g : Grid} (h : g.Sound) {i : Nat} (hi : i < g.shape.size) :
    (getElem g.cells i hi).address = g.shape.addressAt i :=
  (h.cells _ _ (cell?_addressAt hi)).address_eq

theorem Sound.map_address_cells {g : Grid} (h : g.Sound) :
    g.cells.toList.map Cell.address = g.shape.addresses := by
  rw [Shape.addresses_eq_map]
  refine List.ext_getElem (by simp) fun i hi hi' => ?_
  have hsize : i < g.shape.size := by simpa using hi'
  rw [List.getElem_map, List.getElem_map, List.getElem_range, Vector.getElem_toList]
  exact h.address_getElem hsize

theorem Sound.cell?_of_mem {g : Grid} (h : g.Sound) {c : Cell} (hc : c ∈ g.cells.toList) :
    g.cell? c.address = some c := by
  obtain ⟨i, hi, rfl⟩ := Vector.mem_iff_getElem.1 (Vector.mem_toList_iff.1 hc)
  rw [h.address_getElem hi]
  exact cell?_addressAt hi

theorem cellByName?_eq (g : Grid) (name : String) :
    g.cellByName? name = match Address.ofName name with
      | .ok a => g.cell? a
      | .error _ => none := by
  unfold cellByName? Shape.resolve?
  cases hparse : Address.parse name with
  | error cause =>
    rw [Address.ofName_of_parse_eq_error hparse]
    rfl
  | ok a =>
    rw [Address.ofName_of_parse_eq_ok hparse]
    by_cases ha : g.shape.Contains a
    · simp [if_pos ha]
    · have hnone : g.cell? a = none := dif_neg ha
      simp [if_neg ha, hnone]

theorem cellByName?_isSome_iff {g : Grid} {name : String} : (g.cellByName? name).isSome ↔
    ∃ a, Address.ofName name = .ok a ∧ g.shape.Contains a := by
  rw [cellByName?_eq]
  cases Address.ofName name with
  | error cause => simp
  | ok a => simp [cell?_isSome]

/-- On a grid with no more rows than row numbers, each cell is found by its name. -/
theorem Sound.cellByName?_name {g : Grid} (h : g.Sound) (hrows : g.shape.rows < 2 ^ 32) {c : Cell}
    (hc : c ∈ g.cells.toList) : g.cellByName? c.name = some c := by
  have hcell := h.cell?_of_mem hc
  obtain ⟨hrow, hcolumn⟩ : g.shape.Contains c.address := by
    rw [← cell?_isSome, hcell]
    rfl
  have hname : Address.ofName c.name = .ok c.address :=
    Address.ofName_eq_ok_iff.2 (Address.spells_name_iff.2
      ⟨rfl, Nat.lt_of_lt_of_le hcolumn g.shape.columns_le, by omega⟩)
  rw [cellByName?_eq, hname]
  exact hcell

theorem Sound.nodup_names {g : Grid} (h : g.Sound) : (g.cells.toList.map Cell.name).Nodup := by
  have hnames : g.cells.toList.map Cell.name = g.shape.addresses.map Address.name := by
    rw [← h.map_address_cells, List.map_map]
    rfl
  rw [hnames]
  exact (Address.nodup_of_pairwise g.shape.pairwise_addresses).map fun _ _ => Address.eq_of_name_eq

/-- A grid is created with any number of rows and at most as many columns as there are letters. After
every run it has a cell for each of its addresses and no other, in the order of the addresses. No two
cells have the same name, and by its name each cell is found. Nothing is found by what is no name of an
address inside. -/
theorem cells_told_by_address_and_name (rows columns : Nat) (m : Propagation)
    (hrows : rows < 2 ^ 32) (hcolumns : columns ≤ 26) :
    ∃ start, create rows columns m = .ok start ∧ ∀ ops,
      let g := start.run ops
      g.cells.toList.length = rows * columns ∧
      (∀ a, ((g.cell? a).isSome ↔ a.row < rows ∧ a.column < columns) ∧
        ∀ c, g.cell? a = some c → c.address = a) ∧
      (g.cells.toList.map Cell.address).Pairwise (fun a b => compare a b = .lt) ∧
      (∀ a, a ∈ g.cells.toList.map Cell.address ↔ a.row < rows ∧ a.column < columns) ∧
      (g.cells.toList.map Cell.name).Nodup ∧
      (∀ c ∈ g.cells.toList, g.cellByName? c.name = some c) ∧
      ∀ name, (g.cellByName? name).isSome ↔
        ∃ a, Address.ofName name = .ok a ∧ a.row < rows ∧ a.column < columns := by
  refine ⟨blank ⟨rows, columns, hcolumns⟩ m, dif_pos hcolumns, fun ops => ?_⟩
  intro g
  have h : g.Sound := sound_run _ m ops
  have hshape : g.shape = ⟨rows, columns, hcolumns⟩ := shape_run _ ops
  have hcontains : ∀ a, g.shape.Contains a ↔ a.row < rows ∧ a.column < columns := by
    intro a
    rw [hshape]
    rfl
  refine ⟨?_, fun a => ⟨?_, fun c hc => (h.cells a c hc).address_eq⟩, ?_, ?_, h.nodup_names, ?_, ?_⟩
  · rw [Vector.length_toList, hshape]
    rfl
  · rw [cell?_isSome, hcontains]
  · rw [h.map_address_cells]
    exact g.shape.pairwise_addresses
  · intro a
    rw [h.map_address_cells, Shape.mem_addresses, hcontains]
  · intro c hc
    refine h.cellByName?_name ?_ hc
    rwa [hshape]
  · intro name
    simp only [cellByName?_isSome_iff, hcontains]

/-- The last cell of the largest grid is found by its name. -/
theorem cells_told_by_address_and_name_of_largest :
    2 ^ 32 - 1 < 2 ^ 32 ∧ 26 ≤ 26 ∧
      ∃ start, create (2 ^ 32 - 1) 26 .singleHop = .ok start ∧
        ∀ ops, ((start.run ops).cellByName? "Z4294967295").isSome := by
  have hname : Address.ofName "Z4294967295" = .ok ⟨4294967294, 25⟩ := rfl
  obtain ⟨start, hcreate, hrun⟩ :=
    cells_told_by_address_and_name (2 ^ 32 - 1) 26 .singleHop (by decide) (by decide)
  refine ⟨by decide, by decide, start, hcreate, fun ops => ?_⟩
  obtain ⟨-, -, -, -, -, -, hfound⟩ := hrun ops
  exact (hfound _).2 ⟨_, hname, by decide, by decide⟩

end Grid

end ReactiveGrid
