import SpotCheck.Proofs.Key.SampledRows

/-!
# What a prover refuses

The prover checks a trace in the clear before it commits to it. What comes later looks at the trace
again: there has to be a frame at each queried row, the constraints have to be composed to zero on
it, and the cells to be opened have to exist. None of this fails for a key that a setup made. The
constraints hold on a queried row, or the row weighs nothing. Only the search for rows is left.
-/

namespace SpotCheck

variable {c : Circuit} {logRows : Nat} {keyInputs inputs : PublicInputs} {config : ProverConfig}
  {string : ReferenceString} {key : Key} {t : Trace} {assertions : List Assertion}

/-- The constraints can be evaluated on every frame of the trace. -/
def Circuit.IsCalmOn (c : Circuit) (t : Trace) : Prop :=
  ∀ row frame, Frame.ofTrace t row c.window = .ok (some frame) →
    ∃ evals, c.evaluate frame = .ok evals

/-- What the prover asks of a trace in the clear. -/
structure Key.Admits (key : Key) (c : Circuit) (t : Trace) (inputs : PublicInputs) : Prop where
  valid : t.validate = .ok ()
  numRows : t.numRows = key.numRows
  numColumns : t.numColumns = key.numColumns
  assertions : ∃ assertions, c.assertions inputs key.numRows = .ok assertions ∧
    assertions.length = key.numBoundary ∧ checkBoundary t assertions = .ok ()
  constraints : c.violations t = .ok []

theorem Key.admits_iff :
    key.Admits c t inputs ↔ ∃ assertions, c.IsWitness key t inputs assertions := by
  constructor
  · intro h
    obtain ⟨assertions, hproduced, hcount, hboundary⟩ := h.assertions
    obtain ⟨htable, -⟩ := Trace.validate_eq_ok_iff.1 h.valid
    exact ⟨assertions, htable, h.numRows, h.numColumns, hproduced, hcount, hboundary,
      h.constraints⟩
  · intro h
    obtain ⟨assertions, hwitness⟩ := h
    have hvalid := hwitness.table.validate (hwitness.numRows.trans key.numRows_eq)
    exact ⟨hvalid, hwitness.numRows, hwitness.numColumns,
      ⟨assertions, hwitness.produced, hwitness.count, hwitness.boundary⟩, hwitness.constraints⟩

/-! ### Queried rows -/

/-- A key asks for no row at all when the circuit enforces none. -/
theorem Key.IsOf.enforcedRows_pos (h : key.IsOf c logRows keyInputs config string)
    {ch : Challenges} (hch : ch.Suits key) {row : Nat} (hrow : row ∈ ch.rows) :
    0 < c.enforcedRows key.numRows := by
  have hlen : 0 < ch.rows.length := List.length_pos_of_mem hrow
  have hqueries := h.numQueries
  rw [hch.rows] at hlen
  omega

/-- The composition vanishes on each row at which a frame starts: on a row that is enforced the
constraints hold, and any other row weighs nothing. -/
theorem Circuit.IsWitness.vanishesAt (hwitness : c.IsWitness key t inputs assertions)
    (hkey : key.IsOf c logRows keyInputs config string) (hcalm : c.IsCalmOn t)
    (hpos : 0 < c.enforcedRows key.numRows) {row : Nat} (hrow : row < key.transitionRows)
    (coefficients : List Felt) : c.VanishesAt key t coefficients row := by
  have hholds := violations_eq_nil_iff.1 hwitness.constraints
  rw [hwitness.numRows] at hholds
  by_cases henforced : row < c.enforcedRows key.numRows
  · exact (hholds row henforced).vanishesAt key coefficients
  · have hrows : t.numRows < Word.limit := hwitness.numRows ▸ key.numRows_lt_limit
    have hle : row + c.window ≤ t.numRows := by
      rw [hwitness.numRows, ← hkey.window]
      exact key.lt_transitionRows_iff.1 hrow
    -- The frame at the first row shows that there is room for one here.
    obtain ⟨first, -, hfirst, -⟩ := hholds 0 hpos
    obtain ⟨frame, hframe⟩ := Frame.exists_ofTrace hwitness.table hrows hfirst hle
    obtain ⟨evals, hevals⟩ := hcalm row frame hframe
    exact ⟨frame, evals, hframe, hevals,
      hkey.isZero_composeRow_of_le (Nat.not_lt.1 henforced) evals coefficients⟩

theorem prove_of_draw (hkey : key.IsOf c logRows keyInputs config string) (hcalm : c.IsCalmOn t)
    (hwitness : c.IsWitness key t inputs assertions) {ch : Challenges}
    (hdraw : Challenges.draw key inputs t.roots = .ok ch) :
    ∃ p, prove key c t inputs = .ok p := by
  have hch := Challenges.suits_of_draw hdraw
  refine prove_isOk hwitness hdraw fun row hrow => ?_
  exact hwitness.vanishesAt hkey hcalm (hkey.enforcedRows_pos hch hrow) (hch.below row hrow)
    ch.coefficients

theorem prove_of_draw_error (hwitness : c.IsWitness key t inputs assertions) {fault : Fault}
    (hdraw : Challenges.draw key inputs t.roots = .error fault) :
    prove key c t inputs = .error (.fault fault) := by
  rw [prove, Circuit.checkWitness_eq_ok_iff.2 hwitness]
  show (Outcome.ofFaulting (Challenges.draw key inputs t.roots) >>= _) = _
  rw [hdraw]
  rfl

theorem shaped_of_prove (hkey : key.IsOf c logRows keyInputs config string) {p : Proof}
    (h : prove key c t inputs = .ok p) : p.Shaped key.layout := by
  obtain ⟨assertions, ch, hwitness, hdraw, -, hopens⟩ := prove_eq_ok_iff.1 h
  have hwindow := hkey.window.symm
  exact hopens.shaped hwitness hwindow (Challenges.suits_of_draw hdraw)
    (hkey.queriesFit (hwitness.enforcedRows_le hwindow))

/-! ### Main theorem -/

/-- For a key that a setup made, the prover makes a proof exactly of the traces that it admits in
the clear, provided that there is room for the coefficients and the search for rows ends. It refuses
no trace that it admits, and all that can fault on one is the drawing of the challenges. A proof has
the shape that the key says. -/
theorem prove_isOk_iff_admits {c : Circuit} {logRows : Nat} {keyInputs inputs : PublicInputs}
    {config : ProverConfig} {string : ReferenceString} {key : Key} {t : Trace}
    (hsetup : Key.setup c logRows keyInputs config string = .ok key) (hcalm : c.IsCalmOn t) :
    ((∃ p, prove key c t inputs = .ok p) ↔ key.Admits c t inputs ∧
      key.numConstraints * Felt.width ≤ Word.maxAllocation ∧
        Challenges.SearchEnds key inputs t.roots) ∧
    (key.Admits c t inputs → ∀ stop, prove key c t inputs = .error stop →
      ∃ fault, stop = .fault fault ∧ Challenges.draw key inputs t.roots = .error fault) ∧
    ∀ p, prove key c t inputs = .ok p → p.Shaped key.layout := by
  have hkey := Key.isOf_of_setup hsetup
  rw [← Challenges.draw_isOk_iff, Key.admits_iff]
  refine ⟨⟨fun h => ?_, fun h => ?_⟩, fun hadmits stop hstop => ?_, fun p =>
    shaped_of_prove hkey⟩
  · obtain ⟨p, hprove⟩ := h
    obtain ⟨assertions, ch, hwitness, hdraw, -⟩ := prove_eq_ok_iff.1 hprove
    exact ⟨⟨assertions, hwitness⟩, ch, hdraw⟩
  · obtain ⟨⟨assertions, hwitness⟩, ch, hdraw⟩ := h
    exact prove_of_draw hkey hcalm hwitness hdraw
  · obtain ⟨assertions, hwitness⟩ := hadmits
    cases hdraw : Challenges.draw key inputs t.roots with
    | ok ch =>
      obtain ⟨p, hprove⟩ := prove_of_draw hkey hcalm hwitness hdraw
      rw [hprove] at hstop
      cases hstop
    | error fault =>
      rw [prove_of_draw_error hwitness hdraw] at hstop
      cases hstop
      exact ⟨fault, rfl, rfl⟩

namespace FirstCell

/-- The constraint holds on the first row and not on the second. -/
def trace : Trace := .ofColumns [⟨0, #[⟨0⟩, ⟨7⟩]⟩]

theorem isCalmOn_trace : circuit.IsCalmOn trace := by
  intro row frame hframe
  obtain ⟨-, hwidth, hrows⟩ := Frame.ofTrace_eq_some hframe
  rw [Trace.rows?_eq_some_iff] at hrows
  obtain ⟨value, hvalues⟩ := List.length_eq_one_iff.1 hrows.length_eq.symm
  obtain ⟨values, width⟩ := frame
  subst hwidth hvalues
  exact ⟨[value], rfl⟩

theorem admits_trace : FirstCell.key.Admits circuit trace .empty where
  valid := by decide
  numRows := rfl
  numColumns := rfl
  assertions := ⟨[], rfl, rfl, rfl⟩
  constraints := by decide +kernel

end FirstCell

/-- A proof is made of a trace whose second row breaks the constraint, whichever row is queried. -/
theorem prove_isOk_iff_admits_first_cell :
    Key.setup FirstCell.circuit 1 .empty ⟨1⟩ Constant.string = .ok FirstCell.key ∧
      ¬ FirstCell.circuit.HoldsAt FirstCell.trace 1 ∧
      ∃ p, prove FirstCell.key FirstCell.circuit FirstCell.trace .empty = .ok p ∧
        p.Shaped FirstCell.key.layout := by
  have hroom : FirstCell.key.numConstraints * Felt.width ≤ Word.maxAllocation := by decide
  have hsearch : Challenges.SearchEnds FirstCell.key .empty FirstCell.trace.roots :=
    Challenges.searchEnds_of_one_query .empty FirstCell.trace.roots rfl hroom
  have hmade : ∃ p, prove FirstCell.key FirstCell.circuit FirstCell.trace .empty = .ok p :=
    (prove_isOk_iff_admits FirstCell.setup_eq_key FirstCell.isCalmOn_trace).1.2
      ⟨FirstCell.admits_trace, hroom, hsearch⟩
  obtain ⟨p, hprove⟩ := hmade
  have hshaped :=
    (prove_isOk_iff_admits FirstCell.setup_eq_key FirstCell.isCalmOn_trace).2.2 p hprove
  refine ⟨FirstCell.setup_eq_key, fun hholds => ?_, p, hprove, hshaped⟩
  have hnone := Circuit.rowViolations_eq_nil_iff.2 hholds
  revert hnone
  decide +kernel

end SpotCheck
