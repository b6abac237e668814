import SpotCheck.Proving
import SpotCheck.Proofs.Steps

/-!
# Windows of a trace

A window of rows is a list of cells, row after row. The same list comes from three sides: from the
rows of a frame, from the places that a prover opens, and from the numbers that a verifier gives to
the openings. The places are the common ground.
-/

namespace SpotCheck

/-! ### Places -/

/-- The number of a place gives the place back. -/
theorem place_of_number {columns column : Nat} (offset : Nat) (h : column < columns) :
    ((offset * columns + column) / columns, (offset * columns + column) % columns) =
      (offset, column) := by
  have hpos : 0 < columns := Nat.zero_lt_of_lt h
  have hdiv : (offset * columns + column) / columns = offset := by
    rw [Nat.mul_comm, Nat.mul_add_div hpos, Nat.div_eq_of_lt h, Nat.add_zero]
  have hmod : (offset * columns + column) % columns = column := by
    rw [Nat.mul_comm, Nat.mul_add_mod, Nat.mod_eq_of_lt h]
  rw [hdiv, hmod]

/-- The places in the order of their numbers, which are taken apart by the number of columns. -/
theorem windowPlaces_eq_map (window columns : Nat) :
    windowPlaces window columns =
      (List.range (window * columns)).map fun number => (number / columns, number % columns) := by
  induction window with
  | zero => simp [windowPlaces]
  | succ window ih =>
    have hlast : (List.range columns).map (fun column => (window, column)) =
        (List.range columns).map
          (fun column => ((window * columns + column) / columns,
            (window * columns + column) % columns)) := by
      refine List.map_congr_left fun column hmem => ?_
      exact (place_of_number window (List.mem_range.1 hmem)).symm
    have hrows : windowPlaces (window + 1) columns =
        windowPlaces window columns ++ (List.range columns).map fun column => (window, column) := by
      simp [windowPlaces, List.range_succ]
    rw [hrows, ih, Nat.succ_mul, List.range_add, List.map_append, hlast, List.map_map]
    rfl

theorem getElem?_windowPlaces {window columns offset column : Nat} (hoffset : offset < window)
    (hcolumn : column < columns) :
    (windowPlaces window columns)[offset * columns + column]? = some (offset, column) := by
  have hnumber : offset * columns + column < window * columns := by
    have hnext : (offset + 1) * columns ≤ window * columns := Nat.mul_le_mul_right _ hoffset
    rw [Nat.succ_mul] at hnext
    omega
  rw [windowPlaces_eq_map, List.getElem?_map, List.getElem?_range hnumber, Option.map_some,
    place_of_number offset hcolumn]

@[simp] theorem length_windowPlaces (window columns : Nat) :
    (windowPlaces window columns).length = window * columns := by
  rw [windowPlaces_eq_map, List.length_map, List.length_range]

theorem mem_windowPlaces {window columns offset column : Nat} :
    (offset, column) ∈ windowPlaces window columns ↔ offset < window ∧ column < columns := by
  simp [windowPlaces]

theorem windowPlaces_succ (window columns : Nat) :
    windowPlaces (window + 1) columns =
      (List.range columns).map (fun column => (0, column)) ++
        (windowPlaces window columns).map fun place => (place.1 + 1, place.2) := by
  simp [windowPlaces, List.range_succ_eq_map, List.flatMap_map, List.map_flatMap,
    Function.comp_def]

/-! ### Rows -/

/-- A traversal that may find nothing, by positions. -/
theorem mapM_eq_mapM_range {α β : Type} (f : α → Option β) (xs : List α) :
    xs.mapM f = (List.range xs.length).mapM fun i => xs[i]?.bind f := by
  induction xs with
  | nil => rfl
  | cons x xs ih =>
    rw [List.length_cons, List.range_succ_eq_map, List.mapM_cons, List.mapM_cons, List.mapM_map,
      ih]
    rfl

namespace Trace

theorem cell?_eq_bind (t : Trace) (column row : Nat) :
    t.cell? column row = t.columns[column]?.bind (·.values[row]?) := by
  unfold cell?
  cases t.columns[column]? <;> rfl

theorem row?_eq_mapM (t : Trace) (row : Nat) :
    t.row? row = (List.range t.numColumns).mapM fun column => t.cell? column row := by
  rw [row?, mapM_eq_mapM_range]
  simp only [cell?_eq_bind]
  rfl

/-- The cells of consecutive rows are those at the places of the window. -/
theorem rows?_eq_mapM (t : Trace) (row count : Nat) :
    t.rows? row count =
      (windowPlaces count t.numColumns).mapM fun place => t.cell? place.2 (row + place.1) := by
  induction count generalizing row with
  | zero => rfl
  | succ count ih =>
    have hshift : ∀ place : Nat × Nat, row + 1 + place.1 = row + (place.1 + 1) := by
      intro place
      omega
    rw [rows?, row?_eq_mapM, ih, windowPlaces_succ, List.mapM_append, List.mapM_map,
      List.mapM_map]
    simp only [hshift]
    rfl

theorem rows?_eq_some_iff {t : Trace} {row count : Nat} {values : List Felt} :
    t.rows? row count = some values ↔
      List.Forall₂ (fun place value => t.cell? place.2 (row + place.1) = some value)
        (windowPlaces count t.numColumns) values := by
  rw [rows?_eq_mapM, mapM_eq_some_iff]

/-! ### Rectangles -/

/-- Every column has as many cells as the trace has rows, and there are columns. -/
structure IsTable (t : Trace) : Prop where
  nonempty : t.columns ≠ []
  size : ∀ column ∈ t.columns, column.values.size = t.numRows

theorem validate_eq_ok_iff {t : Trace} :
    t.validate = .ok () ↔ t.IsTable ∧ Word.IsPowerOfTwo t.numRows := by
  unfold validate
  constructor
  · intro h
    split at h
    · cases h
    · rename_i hne
      split at h
      · cases h
      · rename_i hpow
        split at h
        · cases h
        · rename_i hfind
          refine ⟨⟨by simpa using hne, fun column hmem => ?_⟩, Classical.not_not.1 hpow⟩
          simpa using List.find?_eq_none.1 hfind column hmem
  · intro h
    obtain ⟨⟨hne, hsize⟩, hpow⟩ := h
    have hfind : t.columns.find? (·.values.size ≠ t.numRows) = none :=
      List.find?_eq_none.2 fun column hmem => by simp [hsize column hmem]
    rw [if_neg (by simpa using hne), if_neg (by simpa using hpow), hfind]

theorem IsTable.validate {t : Trace} (h : t.IsTable) {k : Nat} (hrows : t.numRows = 2 ^ k) :
    t.validate = .ok () := by
  refine validate_eq_ok_iff.2 ⟨h, ?_⟩
  rw [hrows]
  exact Word.isPowerOfTwo_two_pow k

theorem IsTable.cell? {t : Trace} (h : t.IsTable) {column row : Nat}
    (hcolumn : column < t.numColumns) (hrow : row < t.numRows) :
    ∃ value, t.cell? column row = some value := by
  have hget : t.columns[column]? = some t.columns[column] := List.getElem?_eq_getElem hcolumn
  have hsize := h.size _ (List.getElem_mem hcolumn)
  refine ⟨t.columns[column].values[row], ?_⟩
  rw [cell?_eq_bind, hget]
  exact Array.getElem?_eq_getElem (hsize ▸ hrow)

/-- The cell at a place; zero at a place outside the trace. -/
def value (t : Trace) (column row : Nat) : Felt := (t.cell? column row).getD Felt.zero

theorem IsTable.cell?_eq_some {t : Trace} (h : t.IsTable) {column row : Nat}
    (hcolumn : column < t.numColumns) (hrow : row < t.numRows) :
    t.cell? column row = some (t.value column row) := by
  obtain ⟨value, hcell⟩ := h.cell? hcolumn hrow
  rw [Trace.value, hcell, Option.getD_some]

theorem IsTable.lt_of_cell? {t : Trace} (h : t.IsTable) {column row : Nat} {value : Felt}
    (hcell : t.cell? column row = some value) : column < t.numColumns ∧ row < t.numRows := by
  rw [cell?_eq_bind] at hcell
  obtain ⟨c, hc, hvalue⟩ := Option.bind_eq_some_iff.1 hcell
  obtain ⟨hrow, -⟩ := Array.getElem?_eq_some_iff.1 hvalue
  rw [h.size c (List.mem_of_getElem? hc)] at hrow
  exact ⟨(List.getElem?_eq_some_iff.1 hc).1, hrow⟩

/-- Two tables of one size with the same cells inside have the same cells everywhere. -/
theorem IsTable.cell?_congr {t other : Trace} (ht : t.IsTable) (hother : other.IsTable)
    (hcolumns : other.numColumns = t.numColumns) (hrows : other.numRows = t.numRows)
    (h : ∀ column < t.numColumns, ∀ row < t.numRows, other.value column row = t.value column row)
    (column row : Nat) : other.cell? column row = t.cell? column row := by
  by_cases hinside : column < t.numColumns ∧ row < t.numRows
  · obtain ⟨hcolumn, hrow⟩ := hinside
    rw [hother.cell?_eq_some (hcolumns ▸ hcolumn) (hrows ▸ hrow), h column hcolumn row hrow,
      ht.cell?_eq_some hcolumn hrow]
  · have hnone : t.cell? column row = none :=
      Option.eq_none_iff_forall_ne_some.2 fun _ hcell => hinside (ht.lt_of_cell? hcell)
    rw [hnone]
    refine Option.eq_none_iff_forall_ne_some.2 fun _ hcell => hinside ?_
    rw [← hcolumns, ← hrows]
    exact hother.lt_of_cell? hcell

theorem IsTable.rows? {t : Trace} (h : t.IsTable) {row count : Nat}
    (hrows : row + count ≤ t.numRows) : ∃ values, t.rows? row count = some values := by
  simp only [rows?_eq_some_iff]
  refine forall₂_of_forall_exists fun place hplace => ?_
  obtain ⟨hoffset, hcolumn⟩ := mem_windowPlaces.1 hplace
  exact h.cell? hcolumn (by omega)

end Trace

/-! ### Frames -/

namespace Frame

/-- A frame that is made holds the cells of its window, all inside the trace. -/
theorem ofTrace_eq_some {t : Trace} {row window : Nat} {frame : Frame}
    (h : ofTrace t row window = .ok (some frame)) :
    row + window ≤ t.numRows ∧ frame.width = t.numColumns ∧
      t.rows? row window = some frame.values := by
  rw [ofTrace_eq] at h
  obtain ⟨stop, hstop, h⟩ := bind_eq_ok_iff.1 h
  obtain ⟨rfl, -⟩ := Word.add_eq_ok_iff.1 hstop
  split at h
  · cases h
  · rename_i hle
    obtain ⟨cells, -, h⟩ := bind_eq_ok_iff.1 h
    obtain ⟨_, -, h⟩ := bind_eq_ok_iff.1 h
    obtain ⟨values, hvalues, hframe⟩ := Option.map_eq_some_iff.1 (Except.ok.inj h)
    subst hframe
    exact ⟨Nat.not_lt.1 hle, rfl, hvalues⟩

/-- There was room for the cells of a frame. -/
theorem room_of_ofTrace {t : Trace} {row window : Nat} {frame : Frame}
    (h : ofTrace t row window = .ok (some frame)) :
    window * t.numColumns * Felt.width ≤ Word.maxAllocation := by
  rw [ofTrace_eq] at h
  obtain ⟨stop, -, h⟩ := bind_eq_ok_iff.1 h
  split at h
  · cases h
  · obtain ⟨cells, hcells, h⟩ := bind_eq_ok_iff.1 h
    obtain ⟨_, hroom, -⟩ := bind_eq_ok_iff.1 h
    obtain ⟨rfl, -⟩ := Word.mul_eq_ok_iff.1 hcells
    exact Word.reserve_eq_ok_iff.1 hroom

/-- A window inside the trace gives the frame of its cells when there is room for them. -/
theorem ofTrace_eq_ok {t : Trace} {row window : Nat} {values : List Felt}
    (hword : row + window < Word.limit) (hle : row + window ≤ t.numRows)
    (hroom : window * t.numColumns * Felt.width ≤ Word.maxAllocation)
    (hvalues : t.rows? row window = some values) :
    ofTrace t row window = .ok (some ⟨values, t.numColumns⟩) := by
  have hstop := Word.add_eq_ok_iff.2 ⟨rfl, hword⟩
  have hcells : Word.mul window t.numColumns = .ok (window * t.numColumns) := by
    refine Word.mul_eq_ok_iff.2 ⟨rfl, ?_⟩
    unfold Felt.width Word.maxAllocation at hroom
    unfold Word.limit
    omega
  have hreserve := Word.reserve_eq_ok_iff.2 hroom
  rw [ofTrace_eq, hstop]
  simp only [bind, Except.bind]
  rw [if_neg (Nat.not_lt.2 hle), hcells]
  simp [hreserve, hvalues]

/-- In a table there is a frame at every row from which the window fits, if there is one at all. -/
theorem exists_ofTrace {t : Trace} {window first row : Nat} {frame : Frame} (ht : t.IsTable)
    (hrows : t.numRows < Word.limit) (h : ofTrace t first window = .ok (some frame))
    (hle : row + window ≤ t.numRows) : ∃ frame, ofTrace t row window = .ok (some frame) := by
  obtain ⟨values, hvalues⟩ := ht.rows? hle
  exact ⟨_, ofTrace_eq_ok (Nat.lt_of_le_of_lt hle hrows) hle (room_of_ofTrace h) hvalues⟩

end Frame

end SpotCheck
