import SpotCheck.Verification
import SpotCheck.Proofs.Field.Reduction
import SpotCheck.Proofs.Key
import SpotCheck.Proofs.Merkle.Opening
import SpotCheck.Proofs.Proof.Codec
import SpotCheck.Proofs.Sampling
import SpotCheck.Proofs.Trace

/-!
# What a prover has done

A proof that is made opens the prover's steps: the trace was a witness, the composition vanished on
the queried rows, and every opening is a cell of the trace with the siblings of its place.
-/

namespace SpotCheck

/-! ### Openings of committed columns -/

def Trace.roots (t : Trace) : List Digest := (commitTrace t).map (·.root)

theorem getElem?_commitTrace (t : Trace) (column : Nat) :
    (commitTrace t)[column]? =
      t.columns[column]?.map fun c => Merkle.Commitment.commit c.values.toList := by
  rw [commitTrace, List.getElem?_map]

theorem Trace.getElem?_roots (t : Trace) (column : Nat) :
    t.roots[column]? =
      t.columns[column]?.map fun c => (Merkle.Commitment.commit c.values.toList).root := by
  rw [roots, List.getElem?_map, getElem?_commitTrace, Option.map_map]
  rfl

@[simp] theorem length_commitTrace (t : Trace) : (commitTrace t).length = t.numColumns :=
  List.length_map ..

@[simp] theorem Trace.length_roots (t : Trace) : t.roots.length = t.numColumns := by
  rw [roots, List.length_map, length_commitTrace]

theorem openCell_eq_ok_iff {t : Trace} {column row : Nat} {o : Opening} :
    openCell (commitTrace t) column row = .ok o ↔
      ∃ c, t.columns[column]? = some c ∧ c.values[row]? = some o.value ∧
        o.siblings = (Merkle.Commitment.commit c.values.toList).tree.siblings
          (Merkle.heightFor c.values.size) row := by
  unfold openCell
  rw [getElem?_commitTrace]
  cases hc : t.columns[column]? with
  | none => simp
  | some c =>
    dsimp only [Option.map_some]
    cases hopening : (Merkle.Commitment.commit c.values.toList).opening? row with
    | none =>
      have hcell : c.values[row]? = none := by
        rw [Merkle.Commitment.opening?, Option.map_eq_none_iff] at hopening
        exact (Array.getElem?_toList).symm.trans hopening
      simp [hcell]
    | some found =>
      obtain ⟨value, path⟩ := found
      obtain ⟨hvalue, rfl⟩ := Merkle.Commitment.opening?_commit_eq_some_iff.1 hopening
      rw [Array.getElem?_toList] at hvalue
      obtain ⟨value', siblings⟩ := o
      simp [hvalue, eq_comm]

theorem cell?_of_openCell {t : Trace} {column row : Nat} {o : Opening}
    (h : openCell (commitTrace t) column row = .ok o) : t.cell? column row = some o.value := by
  obtain ⟨c, hc, hvalue, -⟩ := openCell_eq_ok_iff.1 h
  rw [Trace.cell?_eq_bind, hc, Option.bind_some, hvalue]

theorem openCell_of_cell? {t : Trace} {column row : Nat} {value : Felt}
    (h : t.cell? column row = some value) :
    ∃ o, openCell (commitTrace t) column row = .ok o ∧ o.value = value := by
  rw [Trace.cell?_eq_bind] at h
  obtain ⟨c, hc, hvalue⟩ := Option.bind_eq_some_iff.1 h
  exact ⟨⟨value, _⟩, openCell_eq_ok_iff.2 ⟨c, hc, hvalue, rfl⟩, rfl⟩

theorem standsAt_of_openCell {t : Trace} {column row : Nat} {o : Opening}
    (h : openCell (commitTrace t) column row = .ok o) :
    o.standsAt t.roots column row = .ok true := by
  obtain ⟨c, hc, hvalue, hsiblings⟩ := openCell_eq_ok_iff.1 h
  have hclimb := Merkle.Commitment.climb_commit (Array.getElem?_toList.trans hvalue)
  rw [Array.length_toList] at hclimb
  rw [Opening.standsAt, Trace.getElem?_roots, hc]
  simp [Opening.authenticates, Opening.path, Merkle.Path.verify, hsiblings, hclimb]

/-- In a table of `2 ^ k` rows all paths have length `k`. -/
theorem length_siblings_of_openCell {t : Trace} {column row k : Nat} {o : Opening}
    (ht : t.IsTable) (hrows : t.numRows = 2 ^ k)
    (h : openCell (commitTrace t) column row = .ok o) : o.siblings.length = k := by
  obtain ⟨c, hc, -, hsiblings⟩ := openCell_eq_ok_iff.1 h
  have hsize := ht.size c (List.mem_of_getElem? hc)
  have hheight : Merkle.heightFor c.values.size = k := by
    rw [hsize, hrows, Merkle.heightFor_two_pow]
  rw [hsiblings]
  exact (Merkle.Tree.length_siblings ..).trans hheight

/-! ### Composition -/

/-- Constraints that hold are composed to zero, whatever the coefficients and the weight. -/
theorem composeRow_of_zero {evals : List Felt} (h : ∀ e ∈ evals, e = Felt.zero)
    (coefficients : List Felt) (weight : Felt) :
    composeRow evals coefficients weight = Felt.zero := by
  have hsum : ∀ coefficients, Felt.sum (weighted evals coefficients) = Felt.zero := by
    induction evals with
    | nil => exact fun _ => rfl
    | cons e evals ih =>
      obtain ⟨rfl, hrest⟩ := List.forall_mem_cons.1 h
      intro coefficients
      cases coefficients with
      | nil =>
        have hfirst : Felt.zero + Felt.zero * Felt.one = Felt.zero := by decide
        simpa [weighted, Felt.sum, hfirst] using ih hrest []
      | cons coefficient coefficients =>
        simpa [weighted, Felt.sum] using ih hrest coefficients
  rw [composeRow, hsum, Felt.zero_mul]

theorem firstNonZero_eq_none_iff {rows : List Nat} {evals : List (List Felt)}
    {coefficients : List Felt} {weight : Nat → Felt} (hlen : rows.length = evals.length) :
    firstNonZero rows (composeRows evals coefficients (rows.map weight)) = none ↔
      List.Forall₂ (fun row e => (composeRow e coefficients (weight row)).isZero = true)
        rows evals := by
  induction rows generalizing evals with
  | nil =>
    cases evals with
    | nil => simp [firstNonZero]
    | cons => cases hlen
  | cons row rows ih =>
    cases evals with
    | nil => cases hlen
    | cons e evals =>
      rw [List.map_cons, composeRows, firstNonZero, List.forall₂_cons]
      split
      · rename_i hzero
        rw [ih (Nat.succ.inj hlen)]
        simp [hzero]
      · rename_i hzero
        simp [hzero]

theorem frameAt_eq_ok_iff {t : Trace} {window row : Nat} {frame : Frame} :
    frameAt t window row = .ok frame ↔ Frame.ofTrace t row window = .ok (some frame) := by
  rw [frameAt, bind_eq_ok_iff]
  constructor
  · intro h
    obtain ⟨found, hfound, h⟩ := h
    cases found with
    | none => cases h
    | some frame' =>
      cases h
      exact Outcome.ofFaulting_eq_ok_iff.1 hfound
  · intro h
    exact ⟨some frame, Outcome.ofFaulting_eq_ok_iff.2 h, rfl⟩

/-- The constraints are composed to zero on the frame at a row. -/
def Circuit.VanishesAt (c : Circuit) (key : Key) (t : Trace) (coefficients : List Felt)
    (row : Nat) : Prop :=
  ∃ frame evals, Frame.ofTrace t row c.window = .ok (some frame) ∧ c.evaluate frame = .ok evals ∧
    (composeRow evals coefficients (key.rowWeight row)).isZero = true

theorem Circuit.checkComposition_eq_ok_iff {c : Circuit} {key : Key} {t : Trace}
    {ch : Challenges} :
    c.checkComposition key t ch = .ok () ↔
      ∀ row ∈ ch.rows, c.VanishesAt key t ch.coefficients row := by
  simp only [checkComposition, bind_eq_ok_iff, mapM_eq_ok_iff, Outcome.ofFaulting_eq_ok_iff,
    frameAt_eq_ok_iff]
  constructor
  · intro h
    obtain ⟨frames, hframes, evals, hevals, h⟩ := h
    have hrows := exists_forall₂_iff.1 ⟨frames, hframes, hevals⟩
    split at h
    · cases h
    · rename_i hnone
      have hzero := (firstNonZero_eq_none_iff hrows.length_eq).1 hnone
      intro row hrow
      obtain ⟨i, hi⟩ := List.mem_iff_getElem?.1 hrow
      obtain ⟨e, he, frame, hframe, heval⟩ := exists_getElem?_right hrows hi
      obtain ⟨e', he', hz⟩ := exists_getElem?_right hzero hi
      obtain rfl : e = e' := Option.some.inj (he.symm.trans he')
      exact ⟨frame, e, hframe, heval, hz⟩
  · intro h
    have hall : ∀ row ∈ ch.rows, ∃ e,
        (∃ frame, Frame.ofTrace t row c.window = .ok (some frame) ∧ c.evaluate frame = .ok e) ∧
          (composeRow e ch.coefficients (key.rowWeight row)).isZero = true := by
      intro row hrow
      obtain ⟨frame, e, hframe, heval, hz⟩ := h row hrow
      exact ⟨e, ⟨frame, hframe, heval⟩, hz⟩
    -- The values are chosen first: the frames then come out of the composed relation.
    obtain ⟨evals, hrows⟩ := forall₂_of_forall_exists hall
    obtain ⟨frames, hframes, hevals⟩ := exists_forall₂_iff.2 (hrows.imp fun _ _ h => h.1)
    refine ⟨frames, hframes, evals, hevals, ?_⟩
    rw [(firstNonZero_eq_none_iff hrows.length_eq).2 (hrows.imp fun _ _ h => h.2)]

/-! ### Witnesses -/

theorem checkBoundary_eq_ok_iff {t : Trace} {assertions : List Assertion} :
    checkBoundary t assertions = .ok () ↔
      ∀ a ∈ assertions, t.cell? a.column a.row = some a.value := by
  have hcheck : ∀ a : Assertion, a.check t = .ok () ↔ t.cell? a.column a.row = some a.value := by
    intro a
    unfold Assertion.check
    cases t.cell? a.column a.row with
    | none => simp
    | some actual =>
      by_cases hvalue : actual = a.value <;> simp [hvalue]
  simp only [checkBoundary, forM_eq_ok_iff, hcheck]

theorem Circuit.checkConstraints_eq_ok_iff {c : Circuit} {t : Trace} :
    c.checkConstraints t = .ok () ↔ c.violations t = .ok [] := by
  simp only [checkConstraints, bind_eq_ok_iff, Outcome.ofFaulting_eq_ok_iff]
  constructor
  · intro h
    obtain ⟨violations, hviolations, h⟩ := h
    cases violations with
    | nil => exact hviolations
    | cons first rest =>
      obtain ⟨row, name⟩ := first
      cases h
  · intro h
    exact ⟨[], h, rfl⟩

def Circuit.HoldsAt (c : Circuit) (t : Trace) (row : Nat) : Prop :=
  ∃ frame evals, Frame.ofTrace t row c.window = .ok (some frame) ∧ c.evaluate frame = .ok evals ∧
    ∀ e ∈ evals, e = Felt.zero

theorem Circuit.HoldsAt.vanishesAt {c : Circuit} {t : Trace} {row : Nat} (h : c.HoldsAt t row)
    (key : Key) (coefficients : List Felt) : c.VanishesAt key t coefficients row := by
  obtain ⟨frame, evals, hframe, hevals, hzero⟩ := h
  exact ⟨frame, evals, hframe, hevals,
    Felt.isZero_iff.2 (composeRow_of_zero hzero coefficients _)⟩

theorem Circuit.rowViolations_eq_nil_iff {c : Circuit} {t : Trace} {row : Nat} :
    c.rowViolations t row = .ok [] ↔ c.HoldsAt t row := by
  have hnone : ∀ evals : List Felt, (evals.zipIdx.filterMap fun place =>
      if place.1.isZero then none else some (row, c.constraintName place.2)) = [] ↔
        ∀ e ∈ evals, e = Felt.zero := by
    intro evals
    rw [List.filterMap_eq_nil_iff]
    constructor
    · intro h e he
      obtain ⟨i, hi, rfl⟩ := List.getElem_of_mem he
      have hzero := h (evals[i], i) (List.mk_mem_zipIdx_iff_getElem?.2 (List.getElem?_eq_getElem hi))
      simpa [Felt.isZero_iff] using hzero
    · intro h place hmem
      obtain ⟨e, i⟩ := place
      have hzero := h e (List.fst_mem_of_mem_zipIdx hmem)
      simp [Felt.isZero_iff, hzero]
  rw [rowViolations, bind_eq_ok_iff]
  constructor
  · intro h
    obtain ⟨frame, hframe, h⟩ := h
    cases frame with
    | none => cases h
    | some frame =>
      obtain ⟨evals, hevals, h⟩ := bind_eq_ok_iff.1 h
      exact ⟨frame, evals, hframe, hevals, (hnone evals).1 (Except.ok.inj h)⟩
  · intro h
    obtain ⟨frame, evals, hframe, hevals, hzero⟩ := h
    exact ⟨some frame, hframe, bind_eq_ok_iff.2
      ⟨evals, hevals, congrArg Except.ok ((hnone evals).2 hzero)⟩⟩

theorem Circuit.violations_eq_nil_iff {c : Circuit} {t : Trace} :
    c.violations t = .ok [] ↔ ∀ row < c.enforcedRows t.numRows, c.HoldsAt t row := by
  rw [violations_eq_flatten, map_eq_ok_iff]
  simp only [mapM_eq_ok_iff, ← rowViolations_eq_nil_iff]
  constructor
  · intro h row hrow
    obtain ⟨found, hfound, hnone⟩ := h
    obtain ⟨here, hmem, hhere⟩ := exists_right_of_mem hfound (List.mem_range.2 hrow)
    rw [hhere, List.flatten_eq_nil_iff.1 hnone here hmem]
  · intro h
    refine ⟨(List.range (c.enforcedRows t.numRows)).map fun _ => [], ?_, by simp⟩
    rw [List.forall₂_map_right_iff, List.forall₂_same]
    exact fun row hrow => h row (List.mem_range.1 hrow)

/-- A trace that satisfies the assertions and constraints of a circuit and has the shape of a
key. -/
structure Circuit.IsWitness (c : Circuit) (key : Key) (t : Trace) (inputs : PublicInputs)
    (assertions : List Assertion) : Prop where
  table : t.IsTable
  numRows : t.numRows = key.numRows
  numColumns : t.numColumns = key.numColumns
  produced : c.assertions inputs key.numRows = .ok assertions
  count : assertions.length = key.numBoundary
  boundary : checkBoundary t assertions = .ok ()
  constraints : c.violations t = .ok []

theorem Circuit.checkWitness_eq_ok_iff {c : Circuit} {key : Key} {t : Trace}
    {inputs : PublicInputs} {assertions : List Assertion} :
    c.checkWitness key t inputs = .ok assertions ↔ c.IsWitness key t inputs assertions := by
  have hshape : key.checkShape t = .ok () ↔
      t.numRows = key.numRows ∧ t.numColumns = key.numColumns := by
    unfold Key.checkShape
    by_cases hrows : t.numRows = key.numRows <;> by_cases hcolumns : t.numColumns = key.numColumns <;>
      simp [hrows, hcolumns]
  have hcount : ∀ list, key.checkAssertions list = .ok () ↔ list.length = key.numBoundary := by
    intro list
    unfold Key.checkAssertions
    split <;> simp_all
  simp only [checkWitness, bind_eq_ok_iff, Outcome.ofResult_eq_ok_iff]
  constructor
  · intro h
    obtain ⟨⟨⟩, hvalid, ⟨⟩, hsizes, list, hlist, ⟨⟩, hlen, ⟨⟩, hboundary, ⟨⟩, hchecked, hok⟩ := h
    cases hok
    obtain ⟨htable, -⟩ := Trace.validate_eq_ok_iff.1 hvalid
    obtain ⟨hrows, hcolumns⟩ := hshape.1 hsizes
    exact ⟨htable, hrows, hcolumns, hrows ▸ hlist, (hcount _).1 hlen, hboundary,
      checkConstraints_eq_ok_iff.1 hchecked⟩
  · intro h
    have hvalid := h.table.validate (h.numRows.trans key.numRows_eq)
    exact ⟨(), hvalid, (), hshape.2 ⟨h.numRows, h.numColumns⟩, assertions, h.numRows ▸ h.produced,
      (), (hcount _).2 h.count, (), h.boundary, (), checkConstraints_eq_ok_iff.2 h.constraints,
      rfl⟩

/-- A trace without violations has a frame on every enforced row, hence no circuit gets a proof
that enforces more rows than those at which frames start. -/
theorem Circuit.IsWitness.enforcedRows_le {c : Circuit} {key : Key} {t : Trace}
    {inputs : PublicInputs} {assertions : List Assertion}
    (h : c.IsWitness key t inputs assertions) (hwindow : c.window = key.window) :
    c.enforcedRows key.numRows ≤ key.transitionRows := by
  cases hrows : c.enforcedRows key.numRows with
  | zero => exact Nat.zero_le _
  | succ last =>
    obtain ⟨frame, -, hframe, -⟩ := violations_eq_nil_iff.1 h.constraints last
      (by rw [h.numRows, hrows]; exact Nat.lt_succ_self last)
    obtain ⟨hle, -⟩ := Frame.ofTrace_eq_some hframe
    rw [hwindow, h.numRows] at hle
    exact key.lt_transitionRows_iff.2 hle

/-! ### Proofs -/

/-- The openings are those of the asserted cells and of a window at each queried row. -/
structure Proof.Opens (p : Proof) (t : Trace) (assertions : List Assertion) (window : Nat)
    (rows : List Nat) : Prop where
  roots : p.roots = t.roots
  boundary : List.Forall₂ (fun a o => openCell (commitTrace t) a.column a.row = .ok o)
    assertions p.boundary
  queries : List.Forall₂ (fun row openings => List.Forall₂
    (fun place o => openCell (commitTrace t) place.2 (row + place.1) = .ok o)
    (windowPlaces window t.numColumns) openings) rows p.queries

theorem openProof_eq_ok_iff {t : Trace} {assertions : List Assertion} {window : Nat}
    {rows : List Nat} {p : Proof} :
    openProof (commitTrace t) assertions window rows = .ok p ↔
      p.Opens t assertions window rows := by
  simp only [openProof, openWindow, bind_eq_ok_iff, mapM_eq_ok_iff, length_commitTrace]
  constructor
  · intro h
    obtain ⟨boundary, hboundary, queries, hqueries, hok⟩ := h
    cases hok
    exact ⟨rfl, hboundary, hqueries⟩
  · intro h
    obtain ⟨hroots, hboundary, hqueries⟩ := h
    obtain ⟨roots, boundary, queries⟩ := p
    cases hroots
    exact ⟨boundary, hboundary, queries, hqueries, rfl⟩

theorem prove_eq_ok_iff {key : Key} {c : Circuit} {t : Trace} {inputs : PublicInputs}
    {p : Proof} :
    prove key c t inputs = .ok p ↔ ∃ assertions ch, c.IsWitness key t inputs assertions ∧
      Challenges.draw key inputs t.roots = .ok ch ∧
      (∀ row ∈ ch.rows, c.VanishesAt key t ch.coefficients row) ∧
      p.Opens t assertions c.window ch.rows := by
  simp only [prove, bind_eq_ok_iff, Outcome.ofFaulting_eq_ok_iff, Outcome.ofResult_eq_ok_iff,
    Circuit.checkWitness_eq_ok_iff, openProof_eq_ok_iff]
  constructor
  · intro h
    obtain ⟨assertions, hwitness, ch, hdraw, ⟨⟩, hvanishes, hopens⟩ := h
    exact ⟨assertions, ch, hwitness, hdraw, Circuit.checkComposition_eq_ok_iff.1 hvanishes, hopens⟩
  · intro h
    obtain ⟨assertions, ch, hwitness, hdraw, hvanishes, hopens⟩ := h
    exact ⟨assertions, hwitness, ch, hdraw, (), Circuit.checkComposition_eq_ok_iff.2 hvanishes,
      hopens⟩

/-- A proof of a witness is made whenever the composition vanishes on the queried rows: there are
cells at all places that are to be opened. -/
theorem prove_isOk {key : Key} {c : Circuit} {t : Trace} {inputs : PublicInputs}
    {assertions : List Assertion} {ch : Challenges}
    (hwitness : c.IsWitness key t inputs assertions)
    (hdraw : Challenges.draw key inputs t.roots = .ok ch)
    (hvanishes : ∀ row ∈ ch.rows, c.VanishesAt key t ch.coefficients row) :
    ∃ p, prove key c t inputs = .ok p := by
  have hboundary : ∀ a ∈ assertions, ∃ o,
      openCell (commitTrace t) a.column a.row = .ok o := by
    intro a ha
    obtain ⟨o, ho, -⟩ := openCell_of_cell? (checkBoundary_eq_ok_iff.1 hwitness.boundary a ha)
    exact ⟨o, ho⟩
  have hqueries : ∀ row ∈ ch.rows, ∃ openings, List.Forall₂
      (fun place o => openCell (commitTrace t) place.2 (row + place.1) = .ok o)
      (windowPlaces c.window t.numColumns) openings := by
    intro row hrow
    obtain ⟨frame, -, hframe, -⟩ := hvanishes row hrow
    obtain ⟨hle, -⟩ := Frame.ofTrace_eq_some hframe
    refine forall₂_of_forall_exists fun place hplace => ?_
    obtain ⟨hoffset, hcolumn⟩ := mem_windowPlaces.1 hplace
    obtain ⟨value, hcell⟩ := hwitness.table.cell? hcolumn
      (show row + place.1 < t.numRows by omega)
    obtain ⟨o, ho, -⟩ := openCell_of_cell? hcell
    exact ⟨o, ho⟩
  obtain ⟨boundary, hboundary⟩ := forall₂_of_forall_exists hboundary
  obtain ⟨queries, hqueries⟩ := forall₂_of_forall_exists hqueries
  exact ⟨⟨t.roots, boundary, queries⟩, prove_eq_ok_iff.2
    ⟨assertions, ch, hwitness, hdraw, hvanishes, rfl, hboundary, hqueries⟩⟩

end SpotCheck
