import SpotCheck.Key.Codec
import SpotCheck.Verification
import SpotCheck.Proofs.Steps

/-!
# Where keys come from

A key comes from the setup of a circuit or from its stored form. Both leave the number of queries
between one and the number of rows at which a frame starts, unless the circuit of the setup
enforces its constraints on other rows than these.
-/

namespace SpotCheck.Key

theorem numRows_eq (key : Key) : key.numRows = 2 ^ key.logRows := Nat.one_shiftLeft _

theorem numRows_le (key : Key) : key.numRows ≤ 2 ^ 24 := by
  rw [numRows_eq]
  exact Nat.pow_le_pow_right (by decide) key.logRows_le

theorem numRows_pos (key : Key) : 0 < key.numRows := by
  rw [numRows_eq]
  exact Nat.two_pow_pos _

theorem numRows_lt_limit (key : Key) : key.numRows < Word.limit :=
  Nat.lt_of_le_of_lt key.numRows_le (by decide)

/-! ### Windows -/

/-- A window fits from each row at which a frame starts, and from no other row. -/
theorem lt_transitionRows_iff (key : Key) {row : Nat} :
    row < key.transitionRows ↔ row + key.window ≤ key.numRows := by
  have hone := key.one_le_window
  have hle : key.window ≤ key.numRows := key.window_le
  unfold transitionRows
  omega

/-! ### Keys from a setup -/

/-- What a key takes from the circuit, the parameters and the reference string of its setup. -/
structure IsOf (key : Key) (c : Circuit) (logRows : Nat) (inputs : PublicInputs)
    (config : ProverConfig) (string : ReferenceString) : Prop where
  circuitId : key.circuitId = c.id
  logRows_eq : key.logRows = logRows
  numColumns : key.numColumns = c.numColumns
  window : key.window = c.window
  numConstraints : key.numConstraints = c.constraintNames.length
  numQueries : key.numQueries = min config.numQueries (c.enforcedRows key.numRows)
  columns_ne : c.numColumns ≠ 0
  queries_ne : config.numQueries ≠ 0
  assertions : ∃ assertions, c.assertions inputs key.numRows = .ok assertions ∧
    assertions.length = key.numBoundary
  stringDigest : string.prefixDigest (c.enforcedRows key.numRows) = .ok key.stringDigest
  rowWeights : string.take? (c.enforcedRows key.numRows) = .ok key.rowWeights

variable {c : Circuit} {logRows : Nat} {inputs : PublicInputs} {config : ProverConfig}
  {string : ReferenceString} {key : Key}

theorem isOf_of_setup (h : setup c logRows inputs config string = .ok key) :
    key.IsOf c logRows inputs config string := by
  unfold setup at h
  split at h
  · split at h
    · rename_i hshape
      split at h
      · cases h
      · rename_i hqueries
        obtain ⟨assertions, hassertions, h⟩ := bind_eq_ok_iff.1 h
        obtain ⟨digest, hdigest, h⟩ := bind_eq_ok_iff.1 h
        obtain ⟨weights, hweights, h⟩ := bind_eq_ok_iff.1 h
        cases h
        simp only [Outcome.relabel_eq_ok_iff, Outcome.ofResult_eq_ok_iff]
          at hassertions hdigest hweights
        exact ⟨rfl, rfl, rfl, rfl, rfl, rfl, hshape.1, hqueries, ⟨assertions, hassertions, rfl⟩,
          hdigest, hweights⟩
    · cases h
  · cases h

/-- A setup succeeds when its parameters are in range, the circuit accepts the public inputs and
the reference string is long enough. -/
theorem setup_isOk (hlog : 1 ≤ logRows ∧ logRows ≤ maxLogRows) (hcolumns : c.numColumns ≠ 0)
    (hwindow : 1 ≤ c.window ∧ c.window ≤ 2 ^ logRows) (hqueries : config.numQueries ≠ 0)
    (hassertions : ∃ assertions, c.assertions inputs (2 ^ logRows) = .ok assertions)
    (hstring : c.enforcedRows (2 ^ logRows) ≤ string.size) :
    ∃ key, setup c logRows inputs config string = .ok key := by
  obtain ⟨assertions, hassertions⟩ := hassertions
  rw [← Nat.one_shiftLeft] at hwindow hassertions hstring
  have hweights : string.take? (c.enforcedRows (1 <<< logRows)) =
      .ok (string.points.take (c.enforcedRows (1 <<< logRows))) := by
    rw [ReferenceString.take?, if_pos hstring]
  unfold setup
  rw [dif_pos hlog, dif_pos ⟨hcolumns, hwindow⟩, if_neg hqueries, hassertions]
  simp only [ReferenceString.prefixDigest, hweights, bind, Except.bind, Except.map,
    Outcome.relabel_ok, Outcome.ofResult_ok]
  exact ⟨_, rfl⟩

theorem IsOf.matches (h : key.IsOf c logRows inputs config string) : key.matches c = true := by
  simp [Key.matches, h.circuitId, h.numColumns, h.window, h.numConstraints]

theorem matches_iff : key.matches c = true ↔
    c.id = key.circuitId ∧ c.numColumns = key.numColumns ∧ c.window = key.window ∧
      c.constraintNames.length = key.numConstraints := by
  simp [Key.matches, and_assoc]

theorem IsOf.enforcedRows_eq (h : key.IsOf c logRows inputs config string)
    (hdefault : ∀ rows, c.enforcedRows rows = rows - (c.window - 1)) :
    c.enforcedRows key.numRows = key.transitionRows := by
  rw [hdefault, transitionRows, h.window]

/-! ### Keys with as many queries as rows allow -/

/-- No row has to be queried twice. -/
def QueriesFit (key : Key) : Prop := key.numQueries ≤ key.transitionRows

theorem IsOf.queriesFit (h : key.IsOf c logRows inputs config string)
    (hrows : c.enforcedRows key.numRows ≤ key.transitionRows) : key.QueriesFit := by
  unfold QueriesFit
  rw [h.numQueries]
  exact Nat.le_trans (Nat.min_le_right ..) hrows

theorem queriesFit_of_ofBytes {bytes : Bytes} {length : Nat}
    (h : ofBytes bytes string length = .ok key) : key.QueriesFit := by
  obtain ⟨f, -, h⟩ := bind_eq_ok_iff.1 h
  unfold ofFields at h
  split at h
  · dsimp only at h
    split at h
    · cases h
    · rename_i hcount
      obtain ⟨digest, -, h⟩ := bind_eq_ok_iff.1 h
      split at h
      · cases h
      · obtain ⟨weights, -, h⟩ := bind_eq_ok_iff.1 h
        cases h
        exact Nat.not_lt.1 fun hlt => hcount (.inr hlt)
  · cases h

end SpotCheck.Key
