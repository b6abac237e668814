import SpotCheck.Proofs.Key.RowWeights

/-!
# The rows that are sampled

A setup takes the weights and the number of queries from the rows on which its circuit enforces the
constraints, and a proof is asked for rows at which a frame starts. A circuit may say that it
enforces fewer of them, or more. With fewer, rows are sampled that weigh nothing, on which whatever
the constraints give is composed to zero; with more, a key may ask for more rows than there are. The
two agree if and only if the circuit says what it would say by default.
-/

namespace SpotCheck

namespace Key

variable {c : Circuit} {logRows : Nat} {inputs : PublicInputs} {config : ProverConfig}
  {string : ReferenceString} {key : Key}

/-- Each row at which a frame starts has a weight of its own, a point of the string. -/
def WeighsRows (key : Key) (string : ReferenceString) : Prop :=
  ∀ row < key.transitionRows, ∃ weight,
    key.rowWeights[row]? = some weight ∧ string.points[row]? = some weight

/-- The rows from which a proof is sampled are those on which the circuit enforces its constraints:
they are as many, no more of them are asked for, and each has its weight. -/
structure SamplesRowsOf (key : Key) (c : Circuit) (string : ReferenceString) : Prop where
  rows : key.transitionRows = c.enforcedRows key.numRows
  queriesFit : key.QueriesFit
  weights : key.WeighsRows string

/-! ### Enforced rows and weights -/

theorem IsOf.getElem?_rowWeights (h : key.IsOf c logRows inputs config string) (row : Nat) :
    key.rowWeights[row]? =
      if row < c.enforcedRows key.numRows then string.points[row]? else none := by
  obtain ⟨hpoints, -⟩ := ReferenceString.take?_eq_ok_iff.1 h.rowWeights
  rw [← hpoints, List.getElem?_take]

theorem IsOf.weighsRows_iff (h : key.IsOf c logRows inputs config string) :
    key.WeighsRows string ↔ key.transitionRows ≤ c.enforcedRows key.numRows := by
  constructor
  · intro hweights
    by_contra hlt
    obtain ⟨weight, hweight, -⟩ := hweights _ (Nat.not_le.1 hlt)
    rw [h.getElem?_rowWeights, if_neg (Nat.lt_irrefl _)] at hweight
    cases hweight
  · intro hle row hrow
    obtain ⟨-, hpoints⟩ := ReferenceString.take?_eq_ok_iff.1 h.rowWeights
    have hpoint : string.points[row]? = some string.points[row] :=
      List.getElem?_eq_getElem (by omega)
    refine ⟨_, ?_, hpoint⟩
    rw [h.getElem?_rowWeights, if_pos (Nat.lt_of_lt_of_le hrow hle), hpoint]

theorem IsOf.queriesFit_iff (h : key.IsOf c logRows inputs config string) :
    key.QueriesFit ↔
      config.numQueries ≤ key.transitionRows ∨ c.enforcedRows key.numRows ≤ key.transitionRows := by
  rw [QueriesFit, h.numQueries, min_le_iff]

theorem IsOf.rowWeight_of_le (h : key.IsOf c logRows inputs config string) {row : Nat}
    (hrow : c.enforcedRows key.numRows ≤ row) : key.rowWeight row = Felt.zero := by
  rw [rowWeight, List.getD_eq_getElem?_getD, h.getElem?_rowWeights, if_neg (Nat.not_lt.2 hrow)]
  rfl

/-- A row that is not enforced hides what the constraints give on it. -/
theorem IsOf.isZero_composeRow_of_le (h : key.IsOf c logRows inputs config string) {row : Nat}
    (hrow : c.enforcedRows key.numRows ≤ row) (evals coefficients : List Felt) :
    (composeRow evals coefficients (key.rowWeight row)).isZero = true := by
  rw [h.rowWeight_of_le hrow, composeRow, Felt.mul_zero]
  rfl

theorem IsOf.samplesRowsOf_iff (h : key.IsOf c logRows inputs config string) :
    key.SamplesRowsOf c string ↔ c.enforcedRows key.numRows = key.transitionRows := by
  constructor
  · intro hsamples
    exact hsamples.rows.symm
  · intro hrows
    exact ⟨hrows.symm, h.queriesFit_iff.2 (.inr (Nat.le_of_eq hrows)),
      h.weighsRows_iff.2 (Nat.le_of_eq hrows.symm)⟩

theorem IsOf.transitionRows_eq (h : key.IsOf c logRows inputs config string) :
    key.transitionRows = key.numRows - (c.window - 1) := by
  rw [transitionRows, h.window]

/-- Weights that are points of a string come from all rows at which a frame starts. -/
theorem SamplesRowsOf.rowWeight_ne_zero (h : key.SamplesRowsOf c string)
    (hstring : string.IsMade) {row : Nat} (hrow : row < key.transitionRows) :
    key.rowWeight row ≠ Felt.zero := by
  obtain ⟨weight, hweight, hpoint⟩ := h.weights row hrow
  obtain ⟨-, -, hne⟩ := hstring.isProgression.getElem? hpoint
  rw [rowWeight, List.getD_eq_getElem?_getD, hweight, Option.getD_some]
  intro hzero
  rw [hzero] at hne
  exact hne rfl

/-! ### Main theorem -/

/-- A key that a setup makes samples the rows of its circuit if and only if the circuit enforces its
constraints, of as many rows as the key has, on those at which a frame starts. With fewer, rows go
without a weight; with more, a key can ask for more rows than there are. When the two agree, a trace
without violations is one whose constraints hold on every row that can be sampled, and no sampled
row weighs nothing. A row that is not enforced hides whatever the constraints give on it. -/
theorem samplesRowsOf_iff_of_setup {c : Circuit} {logRows : Nat} {keyInputs : PublicInputs}
    {config : ProverConfig} {string : ReferenceString} {key : Key}
    (hsetup : setup c logRows keyInputs config string = .ok key) :
    (key.SamplesRowsOf c string ↔
      c.enforcedRows key.numRows = key.numRows - (c.window - 1)) ∧
    (key.WeighsRows string ↔ key.transitionRows ≤ c.enforcedRows key.numRows) ∧
    (key.QueriesFit ↔
      config.numQueries ≤ key.transitionRows ∨ c.enforcedRows key.numRows ≤ key.transitionRows) ∧
    (key.SamplesRowsOf c string →
      (∀ t : Trace, t.numRows = key.numRows →
        (c.violations t = .ok [] ↔ ∀ row < key.transitionRows, c.HoldsAt t row)) ∧
      (string.IsMade → ∀ inputs roots ch, Challenges.draw key inputs roots = .ok ch →
        ∀ row ∈ ch.rows, row < c.enforcedRows key.numRows ∧ key.rowWeight row ≠ Felt.zero)) ∧
    ∀ row, c.enforcedRows key.numRows ≤ row → ∀ evals coefficients,
      (composeRow evals coefficients (key.rowWeight row)).isZero = true := by
  have hkey := isOf_of_setup hsetup
  refine ⟨?_, hkey.weighsRows_iff, hkey.queriesFit_iff, fun hsamples => ⟨fun t ht => ?_,
    fun hstring inputs roots ch hdraw row hrow => ?_⟩, fun row hrow =>
      hkey.isZero_composeRow_of_le hrow⟩
  · rw [hkey.samplesRowsOf_iff, hkey.transitionRows_eq]
  · rw [Circuit.violations_eq_nil_iff, ht, hsamples.rows]
  · have hbelow := (Challenges.suits_of_draw hdraw).below row hrow
    exact ⟨hsamples.rows ▸ hbelow, hsamples.rowWeight_ne_zero hstring hbelow⟩

/-- The key for four rows samples three of them, as many as its string has points, and the row that
it asks for has a weight. -/
theorem samplesRowsOf_iff_of_setup_three_points :
    setup Constant.circuit 2 .empty ⟨1⟩ ⟨[⟨1⟩, ⟨3⟩, ⟨9⟩]⟩ = .ok Constant.threePointsKey ∧
      Constant.threePointsKey.SamplesRowsOf Constant.circuit ⟨[⟨1⟩, ⟨3⟩, ⟨9⟩]⟩ ∧
      ∃ ch, Challenges.draw Constant.threePointsKey .empty [] = .ok ch ∧
        ∀ row ∈ ch.rows, Constant.threePointsKey.rowWeight row ≠ Felt.zero := by
  have hmade : ReferenceString.IsMade ⟨[⟨1⟩, ⟨3⟩, ⟨9⟩]⟩ :=
    .inr (.inl ⟨[⟨1⟩, ⟨3⟩, ⟨9⟩], by decide⟩)
  obtain ⟨hiff, -, -, hrows, -⟩ := samplesRowsOf_iff_of_setup Constant.setup_eq_threePointsKey
  have hsamples := hiff.2 rfl
  have hdraws : ∃ ch, Challenges.draw Constant.threePointsKey .empty [] = .ok ch :=
    Challenges.draw_isOk .empty [] rfl (by decide)
  obtain ⟨ch, hdraw⟩ := hdraws
  exact ⟨Constant.setup_eq_threePointsKey, hsamples, ch, hdraw, fun row hrow =>
    ((hrows hsamples).2 hmade _ _ ch hdraw row hrow).2⟩

end Key

/-! ### A circuit that enforces one row of two -/

namespace FirstCell

/-- One column, whose first cell has to be zero; the second row is not enforced. -/
def circuit : Circuit where
  id := "first cell"
  numColumns := 1
  window := 1
  evaluate frame := do
    let cell ← frame.get 0 0
    .ok [cell]
  constraintNames := ["zero"]
  assertions _ _ := .ok []
  enforcedRows _ := 1

def key : Key where
  circuitId := "first cell"
  logRows := 1
  numColumns := 1
  window := 1
  numConstraints := 1
  numBoundary := 0
  numQueries := 1
  stringDigest := ReferenceString.pointsDigest [.one]
  rowWeights := [.one]
  one_le_logRows := Nat.succ_pos 0
  logRows_le := Nat.le_add_right 1 23
  one_le_window := Nat.succ_pos 0
  window_le := Nat.succ_pos 1

theorem setup_eq_key : Key.setup circuit 1 .empty ⟨1⟩ Constant.string = .ok key := rfl

end FirstCell

/-- The second of two rows can be sampled, and has no weight: the circuit enforces the first one
only. -/
theorem Key.samples_row_without_weight :
    setup FirstCell.circuit 1 .empty ⟨1⟩ Constant.string = .ok FirstCell.key ∧
      FirstCell.circuit.enforcedRows FirstCell.key.numRows = 1 ∧
      FirstCell.key.transitionRows = 2 ∧ FirstCell.key.rowWeights[1]? = none ∧
      FirstCell.key.rowWeight 1 = Felt.zero ∧
      ¬ FirstCell.key.SamplesRowsOf FirstCell.circuit Constant.string :=
  ⟨FirstCell.setup_eq_key, rfl, rfl, rfl, rfl, fun h => absurd h.rows (by decide)⟩

end SpotCheck
