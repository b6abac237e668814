import SpotCheck.Proofs.Proving
import SpotCheck.Proofs.Verification

/-!
# Completeness

The stored form of a proof is read back as the proof, its openings stand at the places at which the
verifier looks for them, and the frames that they make up are those of the trace. Hence a proof
that is made passes every check, except that a trace may hold values which are not canonical.
-/

namespace SpotCheck

theorem rows?_of_openCells {t : Trace} {window row : Nat} {openings : List Opening}
    (h : List.Forall₂ (fun place o => openCell (commitTrace t) place.2 (row + place.1) = .ok o)
      (windowPlaces window t.numColumns) openings) :
    t.rows? row window = some (openings.map (·.value)) := by
  rw [Trace.rows?_eq_some_iff, List.forall₂_map_right_iff]
  exact h.imp fun _ _ => cell?_of_openCell

namespace Proof.Opens

variable {p : Proof} {t : Trace} {key : Key} {c : Circuit} {inputs : PublicInputs}
  {assertions : List Assertion} {ch : Challenges}

theorem exists_openCell {rows : List Nat} {window : Nat} (h : p.Opens t assertions window rows)
    {o : Opening} (ho : o ∈ p.openings) :
    ∃ column row, openCell (commitTrace t) column row = .ok o := by
  rcases List.mem_append.1 ho with ho | ho
  · obtain ⟨a, -, ha⟩ := exists_left_of_mem h.boundary ho
    exact ⟨a.column, a.row, ha⟩
  · obtain ⟨openings, hmem, ho⟩ := List.mem_flatten.1 ho
    obtain ⟨row, -, hrow⟩ := exists_left_of_mem h.queries hmem
    obtain ⟨place, -, hplace⟩ := exists_left_of_mem hrow ho
    exact ⟨place.2, row + place.1, hplace⟩

theorem shaped (h : p.Opens t assertions c.window ch.rows)
    (hwitness : c.IsWitness key t inputs assertions) (hwindow : c.window = key.window)
    (hch : ch.Suits key) (hqueries : key.QueriesFit) : p.Shaped key.layout where
  roots := by
    rw [h.roots, Trace.length_roots, hwitness.numColumns]
    rfl
  boundary := h.boundary.length_eq.symm.trans hwitness.count
  queries := by
    rw [← h.queries.length_eq, hch.length_rows hqueries]
    rfl
  windows := by
    intro openings hmem
    obtain ⟨row, -, hrow⟩ := exists_left_of_mem h.queries hmem
    rw [← hrow.length_eq, length_windowPlaces, hwindow, hwitness.numColumns]
    exact Nat.mul_comm ..
  siblings := by
    intro o ho
    obtain ⟨column, row, hcell⟩ := h.exists_openCell ho
    exact length_siblings_of_openCell hwitness.table (hwitness.numRows.trans key.numRows_eq) hcell

theorem boundary_stands (h : p.Opens t assertions c.window ch.rows)
    (hboundary : checkBoundary t assertions = .ok ()) :
    List.Forall₂ (fun a o => o.value = a.value ∧ o.standsAt p.roots a.column a.row = .ok true)
      assertions p.boundary := by
  have hcells := checkBoundary_eq_ok_iff.1 hboundary
  rw [h.roots]
  refine ((List.forall₂_and_left _ _).2 ⟨hcells, h.boundary⟩).imp fun a o ha => ?_
  obtain ⟨hcell, hopen⟩ := ha
  have hvalue := (cell?_of_openCell hopen).symm.trans hcell
  exact ⟨Option.some.inj hvalue, standsAt_of_openCell hopen⟩

theorem queries_pass (h : p.Opens t assertions c.window ch.rows)
    (hcolumns : t.numColumns = key.numColumns) (hwindow : c.window = key.window)
    (hvanishes : ∀ row ∈ ch.rows, c.VanishesAt key t ch.coefficients row) :
    List.Forall₂ (QueryPasses key c p.roots ch.coefficients) ch.rows p.queries := by
  rw [h.roots]
  refine ((List.forall₂_and_left _ _).2 ⟨hvanishes, h.queries⟩).imp fun row openings hrow => ?_
  obtain ⟨⟨frame, evals, hframe, hevals, hzero⟩, hopen⟩ := hrow
  obtain ⟨-, hwidth, hrows⟩ := Frame.ofTrace_eq_some hframe
  rw [rows?_of_openCells hopen] at hrows
  have hvalues : frame = ⟨openings.map (·.value), key.numColumns⟩ := by
    obtain ⟨values, width⟩ := frame
    cases Option.some.inj hrows
    rw [← hcolumns, ← hwidth]
  refine ⟨?_, evals, hvalues ▸ hevals, hzero⟩
  rw [← hwindow, ← hcolumns]
  exact hopen.imp fun _ _ => standsAt_of_openCell

end Proof.Opens

/-- A proof of a trace is accepted or holds a value that is not canonical, whichever way the key
came about, as long as it asks for no more queries than there are rows to query. -/
theorem check_toBytes {key : Key} {c : Circuit} {t : Trace} {inputs : PublicInputs} {p : Proof}
    (hmatches : key.matches c = true) (hqueries : key.QueriesFit) (hfits : key.layout.Fits)
    (h : prove key c t inputs = .ok p) :
    check key c p.toBytes inputs =
      .ok (if ∀ o ∈ p.openings, o.value.IsCanonical then .accepted
        else .rejected .nonCanonicalValue) := by
  obtain ⟨assertions, ch, hwitness, hdraw, hvanishes, hopens⟩ := prove_eq_ok_iff.1 h
  obtain ⟨-, -, hwindow, -⟩ := Key.matches_iff.1 hmatches
  have hshape := hopens.shaped hwitness hwindow (Challenges.suits_of_draw hdraw) hqueries
  refine check_eq_ok_iff.2 ⟨hmatches, assertions, hwitness.produced, hwitness.count, hfits, p,
    hshape, rfl, ?_⟩
  split
  · rename_i hcanonical
    refine (judge_eq_accepted_iff hshape hwitness.count hqueries).2 ⟨hcanonical, ch, ?_,
      hopens.boundary_stands hwitness.boundary,
      hopens.queries_pass hwitness.numColumns hwindow hvanishes⟩
    rw [hopens.roots]
    exact hdraw
  · rename_i hcanonical
    exact judge_of_not_canonical hcanonical

/-- All cells are canonical. -/
def Trace.IsCanonical (t : Trace) : Prop :=
  ∀ column ∈ t.columns, ∀ value ∈ column.values, value.IsCanonical

theorem Trace.IsCanonical.cell? {t : Trace} (h : t.IsCanonical) {column row : Nat} {value : Felt}
    (hcell : t.cell? column row = some value) : value.IsCanonical := by
  rw [Trace.cell?_eq_bind] at hcell
  obtain ⟨c, hc, hv⟩ := Option.bind_eq_some_iff.1 hcell
  exact h c (List.mem_of_getElem? hc) value (Array.mem_of_getElem? hv)

theorem canonical_of_prove {key : Key} {c : Circuit} {t : Trace} {inputs : PublicInputs}
    {p : Proof} (h : prove key c t inputs = .ok p) (ht : t.IsCanonical) :
    ∀ o ∈ p.openings, o.value.IsCanonical := by
  obtain ⟨assertions, ch, -, -, -, hopens⟩ := prove_eq_ok_iff.1 h
  intro o ho
  obtain ⟨column, row, hcell⟩ := hopens.exists_openCell ho
  exact ht.cell? (cell?_of_openCell hcell)

/-! ### A column of equal cells -/

namespace Constant

/-- One column, all of whose cells are equal, with a first cell of five. -/
def circuit : Circuit where
  id := "constant"
  numColumns := 1
  window := 2
  evaluate frame := do
    let next ← frame.get 1 0
    let cell ← frame.get 0 0
    let difference ← next.sub cell
    .ok [difference]
  constraintNames := ["constant"]
  assertions _ _ := .ok [⟨0, 0, ⟨5⟩⟩]

def trace : Trace := .ofColumns [⟨0, #[⟨5⟩, ⟨5⟩]⟩]

/-- The opening of either cell: the sibling of a cell is the other one. -/
def opening : Opening := ⟨⟨5⟩, [Merkle.leafDigest ⟨5⟩]⟩

/-- The asserted cell, and both cells for the only row at which a window starts. -/
def proof : Proof := ⟨trace.roots, [opening], [[opening, opening]]⟩

/-- A single point suffices for two rows. -/
def string : ReferenceString := ⟨[Felt.one]⟩

/-- The key of the circuit for two rows. -/
def key : Key where
  circuitId := "constant"
  logRows := 1
  numColumns := 1
  window := 2
  numConstraints := 1
  numBoundary := 1
  numQueries := 1
  stringDigest := ReferenceString.pointsDigest [.one]
  rowWeights := [.one]
  one_le_logRows := by decide
  logRows_le := by decide
  one_le_window := by decide
  window_le := by decide

theorem setup_eq_key : Key.setup circuit 1 .empty ⟨1⟩ string = .ok key := rfl

theorem setup_isOk : ∃ key, Key.setup circuit 1 .empty ⟨1⟩ string = .ok key :=
  Key.setup_isOk (by decide) (by decide) (by decide) (by decide) ⟨_, rfl⟩ (by decide)

variable {key : Key}

theorem numRows_eq (h : Key.setup circuit 1 .empty ⟨1⟩ string = .ok key) : key.numRows = 2 := by
  simp [Key.numRows_eq, (Key.isOf_of_setup h).logRows_eq]

theorem transitionRows_eq (h : Key.setup circuit 1 .empty ⟨1⟩ string = .ok key) :
    key.transitionRows = 1 := by
  rw [Key.transitionRows, numRows_eq h, (Key.isOf_of_setup h).window]
  rfl

theorem layout_eq (h : Key.setup circuit 1 .empty ⟨1⟩ string = .ok key) :
    key.layout = ⟨1, 1, 1, 1, 2⟩ := by
  have hkey := Key.isOf_of_setup h
  obtain ⟨assertions, hassertions, hcount⟩ := hkey.assertions
  cases hassertions
  have hqueries : key.numQueries = 1 := by
    rw [hkey.numQueries, numRows_eq h]
    rfl
  rw [Key.layout, hkey.numColumns, hkey.logRows_eq, ← hcount, hqueries, hkey.window]
  rfl

theorem isWitness (h : Key.setup circuit 1 .empty ⟨1⟩ string = .ok key) :
    circuit.IsWitness key trace .empty [⟨0, 0, ⟨5⟩⟩] where
  table := ⟨by decide, by decide⟩
  numRows := (numRows_eq h).symm
  numColumns := (Key.isOf_of_setup h).numColumns.symm
  produced := rfl
  count := (congrArg ProofLayout.numBoundary (layout_eq h)).symm
  boundary := by decide
  constraints := by decide +kernel

theorem numQueries_eq (h : Key.setup circuit 1 .empty ⟨1⟩ string = .ok key) :
    key.numQueries = 1 := congrArg ProofLayout.numQueries (layout_eq h)

theorem rows_eq (h : Key.setup circuit 1 .empty ⟨1⟩ string = .ok key) {ch : Challenges}
    (hch : ch.Suits key) : ch.rows = [0] := by
  have hlen := hch.rows
  have hbelow := hch.below
  rw [numQueries_eq h, transitionRows_eq h] at hlen
  rw [transitionRows_eq h] at hbelow
  obtain ⟨row, hrow⟩ := List.length_eq_one_iff.1 hlen
  rw [hrow] at hbelow ⊢
  have hzero : row < 1 := hbelow row (by simp)
  rw [Nat.lt_one_iff.1 hzero]

theorem prove_eq (h : Key.setup circuit 1 .empty ⟨1⟩ string = .ok key) :
    prove key circuit trace .empty = .ok proof := by
  have hconstraints : key.numConstraints = 1 := (Key.isOf_of_setup h).numConstraints
  obtain ⟨ch, hdraw⟩ := Challenges.draw_isOk .empty trace.roots (numQueries_eq h)
    (by rw [hconstraints]; decide)
  have hrows := rows_eq h (Challenges.suits_of_draw hdraw)
  have hholds : circuit.HoldsAt trace 0 :=
    Circuit.violations_eq_nil_iff.1 (isWitness h).constraints 0 (by decide)
  refine prove_eq_ok_iff.2 ⟨_, ch, isWitness h, hdraw, ?_, rfl, ?_, ?_⟩
  · rw [hrows]
    simpa using hholds.vanishesAt key ch.coefficients
  · exact .cons rfl .nil
  · rw [hrows]
    exact .cons (.cons rfl (.cons rfl .nil)) .nil

end Constant

/-! ### Main theorem -/

/-- Whatever the circuit, the parameters and the public inputs: the verifier of a key gives its
verdict on every proof that the prover makes for this key, and the verdict is an acceptance unless
a value that was opened is not canonical. The size of a proof has to be a word. -/
theorem check_prove {c : Circuit} {logRows : Nat} {keyInputs : PublicInputs}
    {config : ProverConfig} {string : ReferenceString} {key : Key} {t : Trace}
    {inputs : PublicInputs} {p : Proof}
    (hsetup : Key.setup c logRows keyInputs config string = .ok key)
    (hsize : ∃ size, key.layout.proofSize = .ok size)
    (hprove : prove key c t inputs = .ok p) :
    check key c p.toBytes inputs =
        .ok (if ∀ o ∈ p.openings, o.value.IsCanonical then .accepted
          else .rejected .nonCanonicalValue) ∧
      (t.IsCanonical → check key c p.toBytes inputs = .ok .accepted) := by
  have hkey := Key.isOf_of_setup hsetup
  obtain ⟨size, hsize⟩ := hsize
  obtain ⟨-, hfits⟩ := ProofLayout.proofSize_eq_ok_iff.1 hsize
  obtain ⟨assertions, ch, hwitness, -⟩ := prove_eq_ok_iff.1 hprove
  -- A trace without violations bounds the rows that the circuit enforces, hence the queries.
  have hrows := hwitness.enforcedRows_le hkey.window.symm
  have hverdict := check_toBytes hkey.matches (hkey.queriesFit hrows) hfits hprove
  refine ⟨hverdict, fun ht => ?_⟩
  rw [hverdict, if_pos (canonical_of_prove hprove ht)]

/-- Both sides of the theorem are met: a key, a proof made with it, and its acceptance. -/
theorem check_prove_constant : ∃ key,
    Key.setup Constant.circuit 1 .empty ⟨1⟩ Constant.string = .ok key ∧
      prove key Constant.circuit Constant.trace .empty = .ok Constant.proof ∧
      check key Constant.circuit Constant.proof.toBytes .empty = .ok .accepted := by
  obtain ⟨key, hsetup⟩ := Constant.setup_isOk
  have hsize : ∃ size, key.layout.proofSize = .ok size := by
    rw [Constant.layout_eq hsetup]
    exact ⟨140, rfl⟩
  have hcanonical : Constant.trace.IsCanonical := by
    unfold Trace.IsCanonical
    decide
  have hprove := Constant.prove_eq hsetup
  exact ⟨key, hsetup, hprove, (check_prove hsetup hsize hprove).2 hcanonical⟩

end SpotCheck
