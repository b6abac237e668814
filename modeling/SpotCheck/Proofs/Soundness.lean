import SpotCheck.Proofs.Completeness
import SpotCheck.Proofs.Merkle.Binding
import SpotCheck.Proofs.Proof.Positions

/-!
# Soundness

A proof that is accepted under the roots of a trace tells the truth about that trace: the asserted
cells hold their values, and on every queried row the constraints are composed to zero. What this
rests on is that the messages which were hashed, for the commitments and for the paths of the
proof, have different digests when they are different.
-/

namespace SpotCheck

/-! ### Messages -/

/-- The messages hashed when the columns of a trace are committed. -/
def Trace.messages (t : Trace) : List Bytes :=
  t.columns.flatMap fun column => Merkle.columnMessages column.values.toList

def Opening.messages (o : Opening) (row : Nat) : List Bytes :=
  Merkle.pathMessages o.value row o.siblings

/-- The messages hashed when the openings of a proof are checked, each at its place. -/
def Proof.messages (p : Proof) (key : Key) (assertions : List Assertion) (rows : List Nat) :
    List Bytes :=
  ((assertions.zip p.boundary).flatMap fun (a, o) => o.messages a.row) ++
    (rows.zip p.queries).flatMap fun (row, openings) =>
      ((windowPlaces key.window key.numColumns).zip openings).flatMap fun (place, o) =>
        o.messages (row + place.1)

theorem Proof.messages_of_boundary {p : Proof} {key : Key} {assertions : List Assertion}
    {rows : List Nat} {a : Assertion} {o : Opening} (h : (a, o) ∈ assertions.zip p.boundary) :
    o.messages a.row ⊆ p.messages key assertions rows := fun _ hm =>
  List.mem_append_left _ (List.mem_flatMap.2 ⟨(a, o), h, hm⟩)

theorem Proof.messages_of_query {p : Proof} {key : Key} {assertions : List Assertion}
    {rows : List Nat} {row : Nat} {openings : List Opening} {place : Nat × Nat} {o : Opening}
    (h : (row, openings) ∈ rows.zip p.queries)
    (ho : (place, o) ∈ (windowPlaces key.window key.numColumns).zip openings) :
    o.messages (row + place.1) ⊆ p.messages key assertions rows := fun _ hm =>
  List.mem_append_right _
    (List.mem_flatMap.2 ⟨(row, openings), h, List.mem_flatMap.2 ⟨(place, o), ho, hm⟩⟩)

/-! ### Openings under the roots of a trace -/

theorem Proof.roots_eq_of_take {l : ProofLayout} {p : Proof} {t : Trace} (h : p.Shaped l)
    (hcolumns : t.numColumns = l.numColumns)
    (hroots : p.toBytes.take (32 * l.numColumns) = t.roots.flatMap Digest.bytes) :
    p.roots = t.roots :=
  h.roots_unique (t.length_roots.trans hcolumns) hroots

/-- Every column has as many cells as the key has rows. -/
structure Trace.Fills (t : Trace) (key : Key) : Prop where
  numColumns : t.numColumns = key.numColumns
  size : ∀ column ∈ t.columns, column.values.size = key.numRows

/-- An opening of the right length that stands under the root of a column holds the cell of the
column. -/
theorem cell?_of_standsAt {t : Trace} {key : Key} {o : Opening} {column row : Nat}
    (ht : t.Fills key) (hfree : CollisionFree (t.messages ++ o.messages row))
    (hlen : o.siblings.length = key.logRows) (hrow : row < key.numRows)
    (hstands : o.standsAt t.roots column row = .ok true) :
    t.cell? column row = some o.value := by
  rw [Opening.standsAt_eq_ok_iff, Trace.getElem?_roots, Option.map_eq_some_iff] at hstands
  obtain ⟨cells, hcells, hroot⟩ := hstands
  have hmem : cells ∈ t.columns := List.mem_of_getElem? hcells
  have hheight : Merkle.heightFor cells.values.toList.length = key.logRows := by
    rw [Array.length_toList, ht.size cells hmem, Key.numRows_eq, Merkle.heightFor_two_pow]
  have hcolumn : CollisionFree (Merkle.columnMessages cells.values.toList ++
      Merkle.pathMessages o.value row o.siblings) := by
    refine hfree.subset (List.append_subset.2 ⟨fun m hm => ?_, List.subset_append_right ..⟩)
    exact List.mem_append_left _ (List.mem_flatMap.2 ⟨cells, hmem, hm⟩)
  have hvalue := Merkle.getElem?_of_climb hcolumn (hlen.trans hheight.symm)
    (by rwa [hheight, ← Key.numRows_eq]) hroot.symm
  rw [Trace.cell?_eq_bind, hcells, Option.bind_some, ← Array.getElem?_toList, hvalue]

/-! ### Accepted proofs -/

/-- What an accepted proof tells about a trace. -/
structure Proof.TellsOf (p : Proof) (key : Key) (c : Circuit) (t : Trace)
    (assertions : List Assertion) (ch : Challenges) : Prop where
  /-- The asserted cells were opened. -/
  boundary : List.Forall₂ (fun a o => t.cell? a.column a.row = some o.value) assertions p.boundary
  /-- They hold the asserted values. -/
  asserted : checkBoundary t assertions = .ok ()
  /-- Each sampled row has its window inside the trace, and its openings hold the cells there. -/
  queries : List.Forall₂ (fun row openings => ∀ offset < key.window, ∀ column < key.numColumns,
    row + offset < key.numRows ∧ ∃ o, openings[offset * key.numColumns + column]? = some o ∧
      t.cell? column (row + offset) = some o.value) ch.rows p.queries
  /-- The constraints on the frame of the trace are composed to zero. -/
  constraints : ∀ row ∈ ch.rows, ∃ values evals, t.rows? row key.window = some values ∧
    (t.numRows = key.numRows →
      Frame.ofTrace t row key.window = .ok (some ⟨values, key.numColumns⟩)) ∧
    c.evaluate ⟨values, key.numColumns⟩ = .ok evals ∧
    (composeRow evals ch.coefficients (key.rowWeight row)).isZero = true

/-- There is room for every frame when there is room for a proof. -/
theorem ProofLayout.Fits.frame {l : ProofLayout} (h : l.Fits) (hqueries : 1 ≤ l.numQueries)
    (hdepth : 1 ≤ l.merkleDepth) :
    l.window * l.numColumns * Felt.width ≤ Word.maxAllocation := by
  have hopened := h.opened
  have hcount : l.numColumns * l.window ≤
      l.numBoundary + l.numQueries * (l.numColumns * l.window) :=
    Nat.le_add_left_of_le (Nat.le_mul_of_pos_left _ hqueries)
  have hsize : l.numColumns * l.window * 36 ≤
      (l.numBoundary + l.numQueries * (l.numColumns * l.window)) * (4 + l.merkleDepth * 32) :=
    Nat.mul_le_mul hcount (by omega)
  rw [Nat.mul_comm l.window]
  unfold Felt.width Word.maxAllocation
  unfold Word.limit at hopened
  omega

/-- The openings of a query that has passed are those of a window of the trace. -/
theorem QueryPasses.cells {key : Key} {c : Circuit} {t : Trace} {p : Proof}
    {assertions : List Assertion} {ch : Challenges} {row : Nat} {openings : List Opening}
    (h : QueryPasses key c t.roots ch.coefficients row openings) (ht : t.Fills key)
    (hfree : CollisionFree (t.messages ++ p.messages key assertions ch.rows))
    (hshape : p.Shaped key.layout) (hrow : row < key.transitionRows)
    (hmem : (row, openings) ∈ ch.rows.zip p.queries) :
    List.Forall₂ (fun place o => t.cell? place.2 (row + place.1) = some o.value)
      (windowPlaces key.window key.numColumns) openings := by
  obtain ⟨hlen, hstands⟩ := List.forall₂_iff_zip.1 h.stands
  refine List.forall₂_iff_zip.2 ⟨hlen, fun {place o} hplace => ?_⟩
  have hoffset : place.1 < key.window := (mem_windowPlaces.1 (List.of_mem_zip hplace).1).1
  have hlast := key.lt_transitionRows_iff.1 hrow
  have hpath := hshape.siblings_query (List.of_mem_zip hmem).2 (List.of_mem_zip hplace).2
  have hmessages := hfree.append (List.Subset.refl _) (Proof.messages_of_query hmem hplace)
  exact cell?_of_standsAt ht hmessages hpath (by omega) (hstands hplace)

/-- The openings of the asserted places hold the cells there. -/
theorem Proof.boundary_cells {p : Proof} {key : Key} {t : Trace} {assertions : List Assertion}
    {rows : List Nat} (ht : t.Fills key) (hshape : p.Shaped key.layout)
    (hplaces : ∀ a ∈ assertions, a.row < key.numRows)
    (hfree : CollisionFree (t.messages ++ p.messages key assertions rows))
    (h : List.Forall₂
      (fun a o => o.value = a.value ∧ o.standsAt t.roots a.column a.row = .ok true)
      assertions p.boundary) :
    List.Forall₂ (fun a o => o.value = a.value ∧ t.cell? a.column a.row = some o.value)
      assertions p.boundary := by
  obtain ⟨hlen, hstands⟩ := List.forall₂_iff_zip.1 h
  refine List.forall₂_iff_zip.2 ⟨hlen, fun {a o} hmem => ?_⟩
  obtain ⟨hvalue, hstands⟩ := hstands hmem
  have hpath := hshape.siblings_boundary (List.of_mem_zip hmem).2
  have hmessages := hfree.append (List.Subset.refl _) (Proof.messages_of_boundary hmem)
  exact ⟨hvalue, cell?_of_standsAt ht hmessages hpath (hplaces a (List.of_mem_zip hmem).1) hstands⟩

/-- On the cells of its window the constraints are composed to zero. -/
theorem QueryPasses.constraints {key : Key} {c : Circuit} {t : Trace} {coefficients : List Felt}
    {row : Nat} {openings : List Opening}
    (h : QueryPasses key c t.roots coefficients row openings) (ht : t.Fills key)
    (hfits : key.layout.Fits) (hqueries : 1 ≤ key.numQueries) (hrow : row < key.transitionRows)
    (hcells : List.Forall₂ (fun place o => t.cell? place.2 (row + place.1) = some o.value)
      (windowPlaces key.window key.numColumns) openings) :
    ∃ values evals, t.rows? row key.window = some values ∧
      (t.numRows = key.numRows →
        Frame.ofTrace t row key.window = .ok (some ⟨values, key.numColumns⟩)) ∧
      c.evaluate ⟨values, key.numColumns⟩ = .ok evals ∧
      (composeRow evals coefficients (key.rowWeight row)).isZero = true := by
  obtain ⟨evals, hevals, hzero⟩ := h.vanishes
  have hrows : t.rows? row key.window = some (openings.map (·.value)) := by
    rw [Trace.rows?_eq_some_iff, List.forall₂_map_right_iff, ht.numColumns]
    exact hcells
  refine ⟨_, evals, hrows, fun hsize => ?_, hevals, hzero⟩
  have hlast := key.lt_transitionRows_iff.1 hrow
  have hlimit := key.numRows_lt_limit
  have hroom := hfits.frame hqueries key.one_le_logRows
  rw [← ht.numColumns]
  exact Frame.ofTrace_eq_ok (by omega) (hsize ▸ hlast) (ht.numColumns ▸ hroom) hrows

/-- Openings that have passed every check under the roots of a trace tell of the trace. -/
theorem Proof.tellsOf {p : Proof} {key : Key} {c : Circuit} {t : Trace}
    {assertions : List Assertion} {ch : Challenges} (ht : t.Fills key) (hfits : key.layout.Fits)
    (hshape : p.Shaped key.layout) (hch : ch.Suits key)
    (hplaces : ∀ a ∈ assertions, a.row < key.numRows)
    (hfree : CollisionFree (t.messages ++ p.messages key assertions ch.rows))
    (hboundary : List.Forall₂
      (fun a o => o.value = a.value ∧ o.standsAt t.roots a.column a.row = .ok true)
      assertions p.boundary)
    (hpasses : List.Forall₂ (QueryPasses key c t.roots ch.coefficients) ch.rows p.queries) :
    p.TellsOf key c t assertions ch := by
  have hcells := Proof.boundary_cells ht hshape hplaces hfree hboundary
  have hwindows : List.Forall₂ (fun row openings => row < key.transitionRows ∧
      QueryPasses key c t.roots ch.coefficients row openings ∧
      List.Forall₂ (fun place o => t.cell? place.2 (row + place.1) = some o.value)
        (windowPlaces key.window key.numColumns) openings) ch.rows p.queries := by
    obtain ⟨hlen, hzip⟩ := List.forall₂_iff_zip.1 hpasses
    refine List.forall₂_iff_zip.2 ⟨hlen, fun {row openings} hmem => ?_⟩
    have hrow := hch.below row (List.of_mem_zip hmem).1
    exact ⟨hrow, hzip hmem, (hzip hmem).cells ht hfree hshape hrow hmem⟩
  refine ⟨hcells.imp fun _ _ h => h.2, ?_, hwindows.imp ?_, ?_⟩
  · refine checkBoundary_eq_ok_iff.2 fun a ha => ?_
    obtain ⟨o, -, hvalue, hcell⟩ := exists_right_of_mem hcells ha
    rw [hcell, hvalue]
  · intro row openings hrow offset hoffset column hcolumn
    obtain ⟨hrow, -, hopened⟩ := hrow
    have hlast := key.lt_transitionRows_iff.1 hrow
    exact ⟨by omega, exists_getElem?_right hopened (getElem?_windowPlaces hoffset hcolumn)⟩
  · intro row hmem
    obtain ⟨openings, -, hrow, hpass, hopened⟩ := exists_right_of_mem hwindows hmem
    have hqueries : 1 ≤ key.numQueries := by
      have hcount := hch.rows
      have hpos := List.length_pos_of_mem hmem
      omega
    exact hpass.constraints ht hfits hqueries hrow hopened

/-- The key was read from its stored form, or set up for a circuit that enforces its constraints
on all rows at which a frame starts. -/
def Key.IsStandard (key : Key) : Prop :=
  (∃ stored string, Key.ofBytes stored string = .ok key) ∨
    ∃ c logRows inputs config string, (∀ rows, c.enforcedRows rows = rows - (c.window - 1)) ∧
      Key.setup c logRows inputs config string = .ok key

theorem Key.IsStandard.queriesFit {key : Key} (h : key.IsStandard) : key.QueriesFit := by
  rcases h with ⟨stored, string, hread⟩ | ⟨c, logRows, inputs, config, string, hrows, hsetup⟩
  · exact queriesFit_of_ofBytes hread
  · have hkey := Key.isOf_of_setup hsetup
    refine hkey.queriesFit (Nat.le_of_eq ?_)
    rw [hrows, Key.transitionRows, hkey.window]

/-! ### A column of equal cells -/

namespace Constant

theorem proof_shaped : proof.Shaped ⟨1, 1, 1, 1, 2⟩ :=
  ⟨rfl, rfl, rfl, by decide, by decide +kernel⟩

theorem collisionFree : CollisionFree (trace.messages ++
    ((([⟨0, 0, ⟨5⟩⟩] : List Assertion).zip proof.boundary).flatMap (fun (a, o) =>
        o.messages a.row) ++
      ([0].zip proof.queries).flatMap fun (row, openings) =>
        ((windowPlaces 2 1).zip openings).flatMap fun (place, o) =>
          o.messages (row + place.1))) := by
  decide +kernel

variable {key : Key}

theorem proof_messages (h : Key.setup circuit 1 .empty ⟨1⟩ string = .ok key) :
    CollisionFree (trace.messages ++ proof.messages key [⟨0, 0, ⟨5⟩⟩] [0]) := by
  have hkey := Key.isOf_of_setup h
  rw [Proof.messages, hkey.window, hkey.numColumns]
  exact collisionFree

theorem check_eq (h : Key.setup circuit 1 .empty ⟨1⟩ string = .ok key) :
    check key circuit proof.toBytes .empty = .ok .accepted := by
  have hfits : key.layout.Fits := by
    rw [layout_eq h]
    exact (ProofLayout.proofSize_eq_ok_iff.1 (show _ = Except.ok 140 from rfl)).2
  have hqueries : key.QueriesFit := by
    rw [Key.QueriesFit, numQueries_eq h, transitionRows_eq h]
  rw [check_toBytes (Key.isOf_of_setup h).matches hqueries hfits (prove_eq h)]
  decide +kernel

end Constant

/-! ### Main theorem -/

/-- Whoever has a byte string accepted that starts with the roots of a trace has opened cells of
this trace, and the trace satisfies the assertions and, on the queried rows, the composed
constraints; or else two different messages with one digest are among those that were hashed. -/
theorem accepted_tells_of_trace {key : Key} {c : Circuit} {t : Trace} {bytes : Bytes}
    {inputs : PublicInputs} (hkey : key.IsStandard)
    (hplaces : ∀ assertions, c.assertions inputs key.numRows = .ok assertions →
      ∀ a ∈ assertions, a.column < key.numColumns ∧ a.row < key.numRows)
    (hcolumns : t.numColumns = key.numColumns)
    (hcells : ∀ column ∈ t.columns, column.values.size = key.numRows)
    (hroots : bytes.take (32 * key.numColumns) = t.roots.flatMap Digest.bytes)
    (haccepted : check key c bytes inputs = .ok .accepted) :
    ∃ assertions p ch, c.assertions inputs key.numRows = .ok assertions ∧
      Proof.ofBytes key.layout bytes = .ok p ∧ Challenges.draw key inputs p.roots = .ok ch ∧
      (CollisionFree (t.messages ++ p.messages key assertions ch.rows) →
        p.TellsOf key c t assertions ch) := by
  obtain ⟨-, assertions, hassertions, hcount, hfits, p, hshape, rfl, hjudge⟩ :=
    check_eq_ok_iff.1 haccepted
  obtain ⟨-, ch, hdraw, hboundary, hpasses⟩ :=
    (judge_eq_accepted_iff hshape hcount hkey.queriesFit).1 hjudge
  have hsame := Proof.roots_eq_of_take hshape hcolumns hroots
  refine ⟨assertions, p, ch, hassertions, Proof.ofBytes_eq_ok_iff.2 ⟨hfits, hshape, rfl⟩, hdraw,
    fun hfree => ?_⟩
  rw [hsame] at hboundary hpasses
  exact Proof.tellsOf ⟨hcolumns, hcells⟩ hfits hshape (Challenges.suits_of_draw hdraw)
    (fun a ha => (hplaces assertions hassertions a ha).2) hfree hboundary hpasses

/-- The theorem at work: a key, an accepted proof and no collision, hence a true statement. -/
theorem accepted_tells_of_constant : ∃ key ch, key.IsStandard ∧
    check key Constant.circuit Constant.proof.toBytes .empty = .ok .accepted ∧
    CollisionFree (Constant.trace.messages ++
      Constant.proof.messages key [⟨0, 0, ⟨5⟩⟩] ch.rows) ∧
    Constant.proof.TellsOf key Constant.circuit Constant.trace [⟨0, 0, ⟨5⟩⟩] ch := by
  obtain ⟨key, hsetup⟩ := Constant.setup_isOk
  have hstandard : key.IsStandard := .inr ⟨_, _, _, _, _, fun _ => rfl, hsetup⟩
  have hplaces : ∀ assertions, Constant.circuit.assertions .empty key.numRows = .ok assertions →
      ∀ a ∈ assertions, a.column < key.numColumns ∧ a.row < key.numRows := by
    intro assertions hassertions
    cases hassertions
    rw [Constant.numRows_eq hsetup, (Key.isOf_of_setup hsetup).numColumns]
    decide
  have hcells : ∀ column ∈ Constant.trace.columns, column.values.size = key.numRows := by
    rw [Constant.numRows_eq hsetup]
    decide
  have hroots : Constant.proof.toBytes.take (32 * key.numColumns) =
      Constant.trace.roots.flatMap Digest.bytes := by
    rw [(Key.isOf_of_setup hsetup).numColumns]
    decide +kernel
  have haccepted := Constant.check_eq hsetup
  obtain ⟨assertions, p, ch, hassertions, hp, hdraw, htells⟩ := accepted_tells_of_trace hstandard
    hplaces (Constant.isWitness hsetup).numColumns hcells hroots haccepted
  cases hassertions
  have hfits := (Proof.ofBytes_eq_ok_iff.1 hp).1
  have hread : Proof.ofBytes key.layout Constant.proof.toBytes = .ok Constant.proof :=
    Proof.ofBytes_eq_ok_iff.2 ⟨hfits, Constant.layout_eq hsetup ▸ Constant.proof_shaped, rfl⟩
  obtain rfl : Constant.proof = p := Except.ok.inj (hread.symm.trans hp)
  have hfree : CollisionFree (Constant.trace.messages ++
      Constant.proof.messages key [⟨0, 0, ⟨5⟩⟩] ch.rows) := by
    rw [Constant.rows_eq hsetup (Challenges.suits_of_draw hdraw)]
    exact Constant.proof_messages hsetup
  exact ⟨key, ch, hstandard, haccepted, hfree, htells hfree⟩

end SpotCheck
