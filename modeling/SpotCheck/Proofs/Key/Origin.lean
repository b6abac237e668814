import SpotCheck.Proofs.Key.Codec

/-!
# Stored keys that a setup makes

A setup succeeds with the one key that its circuit, parameters and string determine. Read backwards,
this tells of each key whether any setup makes it: the key has to be bound to the string and to have
a column. A stored key is read without the second condition, so that there are stored keys which no
setup makes.
-/

namespace SpotCheck.Key

variable {c : Circuit} {logRows : Nat} {inputs : PublicInputs} {config : ProverConfig}
  {string : ReferenceString} {key other : Key}

/-- The circuit, the parameters and the string leave nothing open. -/
theorem IsOf.eq (h : key.IsOf c logRows inputs config string)
    (h' : other.IsOf c logRows inputs config string) : key = other := by
  have hrows : key.numRows = other.numRows := by
    rw [numRows_eq, numRows_eq, h.logRows_eq, h'.logRows_eq]
  obtain ⟨assertions, hassertions, hcount⟩ := h.assertions
  obtain ⟨assertions', hassertions', hcount'⟩ := h'.assertions
  rw [hrows] at hassertions
  obtain rfl := Except.ok.inj (hassertions.symm.trans hassertions')
  have hdigest := h.stringDigest
  have hweights := h.rowWeights
  have hqueries := h.numQueries
  rw [hrows] at hdigest hweights hqueries
  rw [mk.injEq]
  exact ⟨h.circuitId.trans h'.circuitId.symm, h.logRows_eq.trans h'.logRows_eq.symm,
    h.numColumns.trans h'.numColumns.symm, h.window.trans h'.window.symm,
    h.numConstraints.trans h'.numConstraints.symm, hcount.symm.trans hcount',
    hqueries.trans h'.numQueries.symm, Except.ok.inj (hdigest.symm.trans h'.stringDigest),
    Except.ok.inj (hweights.symm.trans h'.rowWeights)⟩

theorem setup_eq_ok_iff :
    setup c logRows inputs config string = .ok key ↔ key.IsOf c logRows inputs config string := by
  refine ⟨isOf_of_setup, fun h => ?_⟩
  have hwindow := key.window_le
  have hone := key.one_le_window
  obtain ⟨assertions, hassertions, -⟩ := h.assertions
  obtain ⟨-, hrows⟩ := ReferenceString.take?_eq_ok_iff.1 h.rowWeights
  rw [← numRows, numRows_eq, h.logRows_eq, h.window] at hwindow
  rw [h.window] at hone
  rw [numRows_eq, h.logRows_eq] at hassertions hrows
  obtain ⟨made, hmade⟩ := setup_isOk (h.logRows_eq ▸ ⟨key.one_le_logRows, key.logRows_le⟩)
    h.columns_ne ⟨hone, hwindow⟩ h.queries_ne ⟨assertions, hassertions⟩ hrows
  rw [hmade, (isOf_of_setup hmade).eq h]

/-! ### A circuit for a key -/

/-- A circuit of the shape that the key is for; its constraints hold everywhere. -/
def shapedCircuit (key : Key) : Circuit where
  id := key.circuitId
  numColumns := key.numColumns
  window := key.window
  evaluate _ := .ok []
  constraintNames := List.replicate key.numConstraints ""
  assertions _ _ := .ok (List.replicate key.numBoundary ⟨0, 0, Felt.zero⟩)

theorem isOf_shapedCircuit (hbound : key.IsBoundTo string) (hcolumns : key.numColumns ≠ 0) :
    key.IsOf key.shapedCircuit key.logRows .empty ⟨key.numQueries⟩ string where
  circuitId := rfl
  logRows_eq := rfl
  numColumns := rfl
  window := rfl
  numConstraints := List.length_replicate.symm
  numQueries := (Nat.min_eq_left hbound.queriesFit).symm
  columns_ne := hcolumns
  queries_ne := Nat.one_le_iff_ne_zero.1 hbound.one_le_numQueries
  assertions := ⟨_, rfl, List.length_replicate⟩
  stringDigest := ReferenceString.prefixDigest_eq_ok_iff.2
    ⟨_, hbound.rowWeights, hbound.stringDigest⟩
  rowWeights := hbound.rowWeights

/-- Some setup from the string makes the key, for a circuit that enforces its constraints on all
rows at which a frame starts. -/
def HasSetup (key : Key) (string : ReferenceString) : Prop :=
  ∃ c inputs config, (∀ rows, c.enforcedRows rows = rows - (c.window - 1)) ∧
    setup c key.logRows inputs config string = .ok key

theorem hasSetup_iff : key.HasSetup string ↔ key.IsBoundTo string ∧ key.numColumns ≠ 0 := by
  constructor
  · intro h
    obtain ⟨c, inputs, config, hdefault, hsetup⟩ := h
    have hkey := isOf_of_setup hsetup
    exact ⟨hkey.isBoundTo (hkey.enforcedRows_eq hdefault) rfl, hkey.numColumns ▸ hkey.columns_ne⟩
  · intro h
    obtain ⟨hbound, hcolumns⟩ := h
    exact ⟨key.shapedCircuit, .empty, ⟨key.numQueries⟩, fun _ => rfl,
      setup_eq_ok_iff.2 (isOf_shapedCircuit hbound hcolumns)⟩

/-! ### Main theorem -/

/-- Reading a stored key checks its rows, its window, its queries and its weights as a setup does,
but not that it has a column: it is the key of a setup if and only if it has one. -/
theorem hasSetup_iff_of_ofBytes {bytes : Bytes} {string : ReferenceString} {key : Key}
    (h : ofBytes bytes string = .ok key) :
    (1 ≤ key.logRows ∧ key.logRows ≤ 24) ∧ (1 ≤ key.window ∧ key.window ≤ 2 ^ key.logRows) ∧
      (1 ≤ key.numQueries ∧ key.numQueries ≤ key.transitionRows) ∧
      string.take? key.transitionRows = .ok key.rowWeights ∧
      (key.HasSetup string ↔ 1 ≤ key.numColumns) := by
  obtain ⟨-, hbound, -⟩ := ofBytes_eq_ok_iff.1 h
  have hwindow := key.window_le
  rw [← numRows, numRows_eq] at hwindow
  refine ⟨⟨key.one_le_logRows, key.logRows_le⟩, ⟨key.one_le_window, hwindow⟩,
    ⟨hbound.one_le_numQueries, hbound.queriesFit⟩, hbound.rowWeights, ?_⟩
  rw [hasSetup_iff, and_iff_right hbound, Nat.one_le_iff_ne_zero]

/-- The key of a column of two equal cells is read, and is that of a setup. -/
theorem hasSetup_iff_of_ofBytes_constant :
    ofBytes Constant.key.toBytes Constant.string = .ok Constant.key ∧
      Constant.key.HasSetup Constant.string := by
  have hread : ofBytes Constant.key.toBytes Constant.string = .ok Constant.key := by
    decide +kernel
  obtain ⟨-, -, -, -, hsetup⟩ := hasSetup_iff_of_ofBytes hread
  exact ⟨hread, hsetup.2 (by decide)⟩

/-- The same key without its column. -/
def withoutColumns : Key := { Constant.key with numColumns := 0 }

/-- It is read from its stored form, and no setup makes it. -/
theorem ofBytes_without_columns :
    ofBytes withoutColumns.toBytes Constant.string = .ok withoutColumns ∧
      ¬ ∃ c inputs config, (∀ rows, c.enforcedRows rows = rows - (c.window - 1)) ∧
        setup c withoutColumns.logRows inputs config Constant.string = .ok withoutColumns := by
  have hread : ofBytes withoutColumns.toBytes Constant.string = .ok withoutColumns := by
    decide +kernel
  refine ⟨hread, fun h => ?_⟩
  obtain ⟨-, hcolumns⟩ := hasSetup_iff.1 h
  exact hcolumns rfl

end SpotCheck.Key
