import SpotCheck.Proofs.Completeness
import SpotCheck.Proofs.Fibonacci.Witness

/-!
# What the constraints say

On canonical cells the three constraints of a window vanish if and only if its third value is the
sum of the two before, and the squares at both ends are right. A window starts at every row but the
last two, and these end a window each. So the constraints hold if and only if column 0 goes on as a
Fibonacci sequence and column 1 holds its squares, on every row; the first two values determine the
trace.
-/

namespace SpotCheck.Fibonacci

/-- Two columns of at least four canonical cells. -/
structure IsCandidate (t : Trace) : Prop where
  table : t.IsTable
  numColumns : t.numColumns = 2
  four_le : 4 ≤ t.numRows
  /-- The number of rows is a word. -/
  numRows_lt : t.numRows < Word.limit
  canonical : t.IsCanonical

/-- The constraints and the assertions for the public inputs hold on the trace. -/
structure IsWitnessFor (t : Trace) (inputs : PublicInputs) : Prop where
  constraints : circuit.violations t = .ok []
  boundary : ∃ claims, circuit.assertions inputs t.numRows = .ok claims ∧
    checkBoundary t claims = .ok ()

/-! ### One window -/

theorem step_eq_iff {f0 f1 f2 step : Felt} (h0 : f0.IsCanonical) (h1 : f1.IsCanonical)
    (h2 : f2.IsCanonical) (hstep : f2.sub f1 = .ok step) : step = f0 ↔ f2 = f1 + f0 := by
  have hsum : f1 + step = f2 := Felt.add_of_sub h2 h1 hstep
  constructor
  · intro h
    rw [← h, hsum]
  · intro h
    have hback : (f1 + f0).sub f1 = .ok f0 := Felt.add_sub_cancel_left h1 h0
    rw [← h, hstep] at hback
    exact Except.ok.inj hback

theorem evaluate_vanishes_iff (s1 : Felt) {f0 s0 f1 f2 s2 : Felt} (h0 : f0.IsCanonical)
    (hs0 : s0.IsCanonical) (h1 : f1.IsCanonical) (h2 : f2.IsCanonical) (hs2 : s2.IsCanonical) :
    (∃ evals, evaluate ⟨[f0, s0, f1, s1, f2, s2], 2⟩ = .ok evals ∧ ∀ e ∈ evals, e = Felt.zero) ↔
      f2 = f1 + f0 ∧ s0 = f0.square ∧ s2 = f2.square := by
  obtain ⟨step, hstep⟩ := Felt.sub_isOk (a := f2) h1
  have hrecurrence : step.sub f0 = .ok Felt.zero ↔ f2 = f1 + f0 :=
    (Felt.sub_eq_zero_iff (Felt.isCanonical_of_sub hstep) h0).trans (step_eq_iff h0 h1 h2 hstep)
  rw [← hrecurrence, ← Felt.sub_eq_zero_iff hs0 (Felt.isCanonical_square f0),
    ← Felt.sub_eq_zero_iff hs2 (Felt.isCanonical_square f2)]
  simp only [evaluate_cells, hstep, bind_eq_ok_iff, Except.ok.injEq, exists_eq_left']
  constructor
  · intro h
    obtain ⟨_, ⟨recurrence, hrecurrence, square, hsquare, tail, htail, rfl⟩, hzero⟩ := h
    simp only [List.forall_mem_cons] at hzero
    obtain ⟨rfl, rfl, rfl, -⟩ := hzero
    exact ⟨hrecurrence, hsquare, htail⟩
  · intro h
    obtain ⟨hrecurrence, hsquare, htail⟩ := h
    exact ⟨_, ⟨_, hrecurrence, _, hsquare, _, htail, rfl⟩, by simp⟩

/-- The cells of the window at a row, row after row. -/
def windowAt (t : Trace) (row : Nat) : List Felt :=
  [t.value 0 row, t.value 1 row, t.value 0 (row + 1), t.value 1 (row + 1), t.value 0 (row + 2),
    t.value 1 (row + 2)]

variable {t : Trace}

theorem IsCandidate.cell?_eq_some (h : IsCandidate t) {column row : Nat} (hcolumn : column < 2)
    (hrow : row < t.numRows) : t.cell? column row = some (t.value column row) :=
  h.table.cell?_eq_some (h.numColumns ▸ hcolumn) hrow

theorem IsCandidate.isCanonical_value (h : IsCandidate t) {column row : Nat} (hcolumn : column < 2)
    (hrow : row < t.numRows) : (t.value column row).IsCanonical :=
  h.canonical.cell? (h.cell?_eq_some hcolumn hrow)

theorem IsCandidate.ofTrace_eq (h : IsCandidate t) {row : Nat} (hrow : row + 2 < t.numRows) :
    Frame.ofTrace t row circuit.window = .ok (some ⟨windowAt t row, 2⟩) := by
  have hplaces : windowPlaces 3 t.numColumns =
      [(0, 0), (0, 1), (1, 0), (1, 1), (2, 0), (2, 1)] := by
    rw [h.numColumns]
    rfl
  have hcells : t.rows? row 3 = some (windowAt t row) := by
    rw [Trace.rows?_eq_some_iff, hplaces]
    have hcell : ∀ column < 2, ∀ offset < 3,
        t.cell? column (row + offset) = some (t.value column (row + offset)) :=
      fun column hcolumn offset hoffset => h.cell?_eq_some hcolumn (by omega)
    exact .cons (hcell 0 (by decide) 0 (by decide)) (.cons (hcell 1 (by decide) 0 (by decide))
      (.cons (hcell 0 (by decide) 1 (by decide)) (.cons (hcell 1 (by decide) 1 (by decide))
        (.cons (hcell 0 (by decide) 2 (by decide)) (.cons (hcell 1 (by decide) 2 (by decide))
          .nil)))))
  have hroom : 3 * t.numColumns * Felt.width ≤ Word.maxAllocation := by
    rw [h.numColumns]
    decide
  have hword := h.numRows_lt
  have hframe := Frame.ofTrace_eq_ok (by omega) hrow hroom hcells
  rw [h.numColumns] at hframe
  exact hframe

theorem IsCandidate.holdsAt_iff (h : IsCandidate t) {row : Nat} (hrow : row + 2 < t.numRows) :
    circuit.HoldsAt t row ↔
      t.value 0 (row + 2) = t.value 0 (row + 1) + t.value 0 row ∧
        t.value 1 row = (t.value 0 row).square ∧
        t.value 1 (row + 2) = (t.value 0 (row + 2)).square := by
  have hcanonical : ∀ column row, column < 2 → row < t.numRows →
      (t.value column row).IsCanonical := fun _ _ => h.isCanonical_value
  rw [← evaluate_vanishes_iff (t.value 1 (row + 1))
    (hcanonical 0 row (by decide) (by omega)) (hcanonical 1 row (by decide) (by omega))
    (hcanonical 0 (row + 1) (by decide) (by omega)) (hcanonical 0 (row + 2) (by decide) hrow)
    (hcanonical 1 (row + 2) (by decide) hrow)]
  simp only [Circuit.HoldsAt, h.ofTrace_eq hrow, Except.ok.injEq, Option.some.injEq,
    exists_and_left, exists_eq_left']
  rfl

/-! ### All rows -/

theorem IsCandidate.rowViolations_isOk (h : IsCandidate t) {row : Nat}
    (hrow : row + 2 < t.numRows) : ∃ here, circuit.rowViolations t row = .ok here := by
  have hevaluable : ∃ evals, circuit.evaluate ⟨windowAt t row, 2⟩ = .ok evals :=
    evaluate_isOk (h.isCanonical_value (by decide) (show row < t.numRows by omega))
      (h.isCanonical_value (by decide) (show row + 1 < t.numRows by omega))
  obtain ⟨evals, hevals⟩ := hevaluable
  exact ⟨_, bind_eq_ok_iff.2 ⟨_, h.ofTrace_eq hrow, bind_eq_ok_iff.2 ⟨evals, hevals, rfl⟩⟩⟩

theorem lt_enforcedRows_iff {row : Nat} :
    row < circuit.enforcedRows t.numRows ↔ row + 2 < t.numRows := by
  show row < t.numRows - 2 ↔ row + 2 < t.numRows
  omega

theorem IsCandidate.violations_isOk (h : IsCandidate t) :
    ∃ found, circuit.violations t = .ok found := by
  have hrows : ∀ row ∈ List.range (circuit.enforcedRows t.numRows), ∃ here,
      circuit.rowViolations t row = .ok here := fun row hrow =>
    h.rowViolations_isOk (lt_enforcedRows_iff.1 (List.mem_range.1 hrow))
  obtain ⟨found, hfound⟩ := forall₂_of_forall_exists hrows
  rw [Circuit.violations_eq_flatten]
  exact ⟨found.flatten, map_eq_ok_iff.2 ⟨found, mapM_eq_ok_iff.2 hfound, rfl⟩⟩

theorem IsCandidate.violations_eq_nil_iff (h : IsCandidate t) :
    circuit.violations t = .ok [] ↔
      (∀ row, row + 2 < t.numRows →
        t.value 0 (row + 2) = t.value 0 (row + 1) + t.value 0 row) ∧
      ∀ row < t.numRows, t.value 1 row = (t.value 0 row).square := by
  simp only [Circuit.violations_eq_nil_iff, lt_enforcedRows_iff]
  constructor
  · intro hholds
    refine ⟨fun row hrow => ((h.holdsAt_iff hrow).1 (hholds row hrow)).1, fun row hrow => ?_⟩
    by_cases hstarts : row + 2 < t.numRows
    · exact ((h.holdsAt_iff hstarts).1 (hholds row hstarts)).2.1
    · -- No window starts at the last two rows: they end the windows two rows before.
      have hfour := h.four_le
      obtain ⟨start, rfl⟩ := Nat.exists_eq_add_of_le' (show 2 ≤ row by omega)
      exact ((h.holdsAt_iff hrow).1 (hholds start hrow)).2.2
  · intro hvalues row hrow
    obtain ⟨hsum, hsquare⟩ := hvalues
    exact (h.holdsAt_iff hrow).2 ⟨hsum row hrow, hsquare row (by omega), hsquare (row + 2) hrow⟩

/-! ### The sequence -/

theorem violations_traceOf {first second : Felt} {rows : Nat} (hrows : 2 ≤ rows)
    (h : IsCandidate (traceOf first second rows)) :
    circuit.violations (traceOf first second rows) = .ok [] := by
  have hsize : (traceOf first second rows).numRows = rows := numRows_traceOf hrows
  rw [h.violations_eq_nil_iff, hsize]
  refine ⟨fun row hrow => ?_, fun row hrow => ?_⟩
  · rw [value_zero hrows hrow, value_zero hrows (by omega), value_zero hrows (by omega), term]
  · rw [value_one hrows hrow, value_zero hrows hrow]

theorem value_eq_term {first second : Felt} (hfirst : t.value 0 0 = first)
    (hsecond : t.value 0 1 = second)
    (hsum : ∀ row, row + 2 < t.numRows →
      t.value 0 (row + 2) = t.value 0 (row + 1) + t.value 0 row) :
    ∀ row < t.numRows, t.value 0 row = term first second row := by
  intro row
  induction row using Nat.strongRecOn with
  | ind row ih =>
    intro hrow
    match row with
    | 0 => exact hfirst
    | 1 => exact hsecond
    | row + 2 =>
      rw [hsum row hrow, ih (row + 1) (by omega) (by omega), ih row (by omega) (by omega), term]

theorem IsCandidate.checkBoundary_iff (h : IsCandidate t) {first second output : Felt} :
    (∃ claims, circuit.assertions ⟨[first, second], [output]⟩ t.numRows = .ok claims ∧
        checkBoundary t claims = .ok ()) ↔
      t.value 0 0 = first ∧ t.value 0 1 = second ∧ t.value 0 (t.numRows - 1) = output := by
  have hfour := h.four_le
  have hclaims := assertions_eq first second output (show 0 < t.numRows by omega)
  have hcell : ∀ row < t.numRows, t.cell? 0 row = some (t.value 0 row) :=
    fun row hrow => h.cell?_eq_some (by decide) hrow
  simp only [hclaims, Except.ok.injEq, exists_eq_left', checkBoundary_eq_ok_iff,
    List.forall_mem_cons, hcell 0 (by omega), hcell 1 (by omega),
    hcell (t.numRows - 1) (by omega), Option.some.injEq]
  simp

theorem IsCandidate.isWitnessFor_iff (h : IsCandidate t) {first second output : Felt} :
    IsWitnessFor t ⟨[first, second], [output]⟩ ↔
      (∀ row < t.numRows, t.value 0 row = term first second row ∧
        t.value 1 row = (term first second row).square) ∧
      output = term first second (t.numRows - 1) := by
  have hfour := h.four_le
  constructor
  · intro hwitness
    obtain ⟨hsum, hsquare⟩ := h.violations_eq_nil_iff.1 hwitness.constraints
    obtain ⟨hfirst, hsecond, houtput⟩ := h.checkBoundary_iff.1 hwitness.boundary
    have hvalue := value_eq_term hfirst hsecond hsum
    refine ⟨fun row hrow => ⟨hvalue row hrow, ?_⟩, ?_⟩
    · rw [hsquare row hrow, hvalue row hrow]
    · rw [← houtput, hvalue (t.numRows - 1) (by omega)]
  · intro hvalues
    obtain ⟨hrows, houtput⟩ := hvalues
    refine ⟨h.violations_eq_nil_iff.2 ⟨fun row hrow => ?_, fun row hrow => ?_⟩,
      h.checkBoundary_iff.2 ⟨(hrows 0 (by omega)).1, (hrows 1 (by omega)).1, ?_⟩⟩
    · rw [(hrows (row + 2) hrow).1, (hrows (row + 1) (by omega)).1, (hrows row (by omega)).1, term]
    · rw [(hrows row hrow).1, (hrows row hrow).2]
    · rw [houtput, (hrows (t.numRows - 1) (by omega)).1]

theorem IsCandidate.cell?_unique {other : Trace} (h : IsCandidate t) (hother : IsCandidate other)
    (hrows : other.numRows = t.numRows) {first second output : Felt}
    (hwitness : IsWitnessFor t ⟨[first, second], [output]⟩)
    (hother' : IsWitnessFor other ⟨[first, second], [output]⟩) (column row : Nat) :
    other.cell? column row = t.cell? column row := by
  have hvalues := (h.isWitnessFor_iff.1 hwitness).1
  have hvalues' := (hother.isWitnessFor_iff.1 hother').1
  rw [hrows] at hvalues'
  refine h.table.cell?_congr hother.table (hother.numColumns.trans h.numColumns.symm) hrows ?_
    column row
  intro column hcolumn row hrow
  rw [h.numColumns] at hcolumn
  match column, hcolumn with
  | 0, _ => rw [(hvalues' row hrow).1, (hvalues row hrow).1]
  | 1, _ => rw [(hvalues' row hrow).2, (hvalues row hrow).2]

/-! ### Main theorem -/

/-- On two columns of at least four canonical cells the constraints can be evaluated, and hold if
and only if every value of column 0 from the third on is the sum of the two before and column 1
holds the squares of column 0, on all rows. Hence a trace satisfies constraints and assertions if
and only if its columns are the Fibonacci numbers of the two public values and their squares, and
the public output is the last of these numbers. No other trace of that many rows does. -/
theorem constraints_determine_trace {t : Trace} (h : IsCandidate t) :
    (∃ found, circuit.violations t = .ok found) ∧
    (circuit.violations t = .ok [] ↔
      (∀ row, row + 2 < t.numRows → (t.value 0 (row + 2)).toNat =
        ((t.value 0 (row + 1)).toNat + (t.value 0 row).toNat) % modulus) ∧
      ∀ row < t.numRows, (t.value 1 row).toNat = (t.value 0 row).toNat ^ 2 % modulus) ∧
    ∀ first second output : Felt, first.IsCanonical → second.IsCanonical →
      (IsWitnessFor t ⟨[first, second], [output]⟩ ↔
        (∀ row < t.numRows,
          (t.value 0 row).toNat = fibonacci first.toNat second.toNat row % modulus ∧
          (t.value 1 row).toNat = fibonacci first.toNat second.toNat row ^ 2 % modulus) ∧
        output.toNat = fibonacci first.toNat second.toNat (t.numRows - 1) % modulus) ∧
      (IsWitnessFor t ⟨[first, second], [output]⟩ → ∀ other : Trace, IsCandidate other →
        other.numRows = t.numRows → IsWitnessFor other ⟨[first, second], [output]⟩ →
          ∀ column row, other.cell? column row = t.cell? column row) := by
  refine ⟨h.violations_isOk, ?_, fun first second output hfirst hsecond => ⟨?_, ?_⟩⟩
  · simp only [h.violations_eq_nil_iff, ← Felt.toNat_inj, Felt.toNat_add, Felt.toNat_square]
  · have hterm := toNat_term hfirst hsecond
    have hsquare : ∀ row, (term first second row).square.toNat =
        fibonacci first.toNat second.toNat row ^ 2 % modulus := by
      intro row
      rw [Felt.toNat_square, hterm, ← Nat.pow_mod]
    simp only [h.isWitnessFor_iff, ← Felt.toNat_inj, hterm, hsquare]
  · intro hwitness other hother hrows hwitness'
    exact h.cell?_unique hother hrows hwitness hwitness'

/-- Four rows that start with one and one are a witness for the output three. A wrong square in the
last row, at which no window starts, is seen. -/
theorem constraints_determine_trace_four_rows :
    IsWitnessFor (traceOf ⟨1⟩ ⟨1⟩ 4) ⟨[⟨1⟩, ⟨1⟩], [⟨3⟩]⟩ ∧
      ¬ circuit.violations (.ofColumns [⟨0, #[⟨1⟩, ⟨1⟩, ⟨2⟩, ⟨3⟩]⟩,
        ⟨1, #[⟨1⟩, ⟨1⟩, ⟨4⟩, ⟨8⟩]⟩]) = .ok [] := by
  have hcandidate : IsCandidate (traceOf ⟨1⟩ ⟨1⟩ 4) :=
    ⟨isTable_traceOf, rfl, by decide, by decide, by unfold Trace.IsCanonical; decide +kernel⟩
  have hbroken : IsCandidate (.ofColumns [⟨0, #[⟨1⟩, ⟨1⟩, ⟨2⟩, ⟨3⟩]⟩,
      ⟨1, #[⟨1⟩, ⟨1⟩, ⟨4⟩, ⟨8⟩]⟩]) :=
    ⟨⟨by decide, by decide⟩, rfl, by decide, by decide, by unfold Trace.IsCanonical; decide⟩
  constructor
  · refine ((constraints_determine_trace hcandidate).2.2 ⟨1⟩ ⟨1⟩ ⟨3⟩ (by decide)
      (by decide)).1.2 ?_
    decide +kernel
  · intro hnone
    have hsquares := ((constraints_determine_trace hbroken).2.1.1 hnone).2 3 (by decide)
    revert hsquares
    decide

end SpotCheck.Fibonacci
