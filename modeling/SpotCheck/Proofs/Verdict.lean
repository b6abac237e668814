import SpotCheck.Proofs.Completeness
import SpotCheck.Proofs.Proof.Positions

/-!
# The verdict on a byte string

The verifier's walk over the parts of a proof is a list of checks, each with the ground on which it
rejects. The verdict is the ground of the first check that does not hold, and an acceptance when all
hold. What a check looks at is said by positions in the byte string.
-/

namespace SpotCheck

/-! ### Checks in order -/

/-- A check with the ground on which it rejects. A check may fault. -/
abbrev Check := Rejection × Except Fault Bool

/-- The checks one after another, up to the first that does not hold. -/
def firstFailure : List Check → Except Fault Verdict
  | [] => .ok .accepted
  | (ground, holds) :: checks => do
    if ← holds then firstFailure checks else .ok (.rejected ground)

theorem firstFailure_append (checks more : List Check) :
    firstFailure (checks ++ more) = (do
      match ← firstFailure checks with
      | .rejected ground => .ok (.rejected ground)
      | .accepted => firstFailure more) := by
  induction checks with
  | nil => rfl
  | cons check checks ih =>
    obtain ⟨ground, holds⟩ := check
    cases holds with
    | error f => rfl
    | ok b =>
      cases b with
      | true => exact ih
      | false => rfl

theorem firstFailure_eq_accepted_iff {checks : List Check} :
    firstFailure checks = .ok .accepted ↔ ∀ check ∈ checks, check.2 = .ok true := by
  induction checks with
  | nil => simp [firstFailure]
  | cons check checks ih =>
    obtain ⟨ground, holds⟩ := check
    rw [firstFailure, bind_eq_ok_iff, List.forall_mem_cons, ← ih]
    constructor
    · intro h
      obtain ⟨b, hb, h⟩ := h
      cases b with
      | true => exact ⟨hb, h⟩
      | false => cases h
    · intro h
      exact ⟨true, h⟩

theorem firstFailure_eq_rejected_iff {checks : List Check} {ground : Rejection} :
    firstFailure checks = .ok (.rejected ground) ↔ ∃ passed rest,
      checks = passed ++ (ground, .ok false) :: rest ∧ ∀ check ∈ passed, check.2 = .ok true := by
  induction checks with
  | nil => simp [firstFailure]
  | cons check checks ih =>
    obtain ⟨first, holds⟩ := check
    rw [firstFailure, bind_eq_ok_iff]
    constructor
    · intro h
      obtain ⟨b, rfl, h⟩ := h
      cases b with
      | true =>
        obtain ⟨passed, rest, rfl, hpassed⟩ := ih.1 h
        exact ⟨(first, .ok true) :: passed, rest, rfl, List.forall_mem_cons.2 ⟨rfl, hpassed⟩⟩
      | false =>
        cases h
        exact ⟨[], checks, rfl, by simp⟩
    · intro h
      obtain ⟨passed, rest, heq, hpassed⟩ := h
      cases passed with
      | nil =>
        cases heq
        exact ⟨false, rfl, rfl⟩
      | cons check passed =>
        cases heq
        obtain ⟨hfirst, hpassed⟩ := List.forall_mem_cons.1 hpassed
        exact ⟨true, hfirst, ih.2 ⟨passed, rest, rfl, hpassed⟩⟩

theorem firstFailure_isOk {checks : List Check} (h : ∀ check ∈ checks, ∃ b, check.2 = .ok b) :
    ∃ verdict, firstFailure checks = .ok verdict := by
  induction checks with
  | nil => exact ⟨_, rfl⟩
  | cons check checks ih =>
    obtain ⟨ground, holds⟩ := check
    obtain ⟨⟨b, rfl⟩, hrest⟩ := List.forall_mem_cons.1 h
    cases b with
    | true => exact ih hrest
    | false => exact ⟨_, rfl⟩

/-! ### The checks of a proof -/

/-- The siblings of the opening lead from its value at a row to the root. -/
def Opening.LeadsTo (o : Opening) (row : Nat) (root : Digest) : Prop :=
  Merkle.climb (Merkle.leafDigest o.value) row o.siblings = root

instance (o : Opening) (row : Nat) (root : Digest) : Decidable (o.LeadsTo row root) :=
  inferInstanceAs (Decidable (_ = _))

theorem Opening.standsAt_eq {o : Opening} {roots : List Digest} {column row : Nat} {root : Digest}
    (h : roots[column]? = some root) :
    o.standsAt roots column row = .ok (decide (o.LeadsTo row root)) := by
  rw [standsAt, h]
  rfl

variable {root : Nat → Digest} {columns : Nat}

/-- For each assertion the value of its opening and then the path. -/
def boundaryChecks (root : Nat → Digest) (opening : Nat → Opening)
    (assertions : List (Assertion × Nat)) : List Check :=
  assertions.flatMap fun (a, index) =>
    [(.boundaryValue index, .ok (decide ((opening index).value = a.value))),
      (.boundaryPath index, .ok (decide ((opening index).LeadsTo a.row (root a.column))))]

/-- For each place of the window at a row the path of its opening. -/
def windowChecks (root : Nat → Digest) (opening : Nat × Nat → Opening) (row : Nat)
    (places : List (Nat × Nat)) : List Check :=
  places.map fun place => (.queryPath (row + place.1) place.2,
    .ok (decide ((opening place).LeadsTo (row + place.1) (root place.2))))

def constraintCheck (key : Key) (c : Circuit) (coefficients : List Felt) (row : Nat)
    (values : List Felt) : Check :=
  (.constraint row, (c.evaluate ⟨values, key.numColumns⟩).map fun evals =>
    (composeRow evals coefficients (key.rowWeight row)).isZero)

theorem firstFailure_constraintCheck_cons (key : Key) (c : Circuit) (coefficients : List Felt)
    (row : Nat) (values : List Felt) (checks : List Check) :
    firstFailure (constraintCheck key c coefficients row values :: checks) = (do
      let evals ← c.evaluate ⟨values, key.numColumns⟩
      if (composeRow evals coefficients (key.rowWeight row)).isZero then firstFailure checks
      else .ok (.rejected (.constraint row))) := by
  rw [constraintCheck, firstFailure]
  cases c.evaluate ⟨values, key.numColumns⟩ <;> rfl

theorem checkBoundaryOpenings_eq {opening : Nat → Opening} {assertions : List Assertion}
    (hcolumns : ∀ a ∈ assertions, a.column < columns) (index : Nat) :
    checkBoundaryOpenings ((List.range columns).map root) index assertions
        ((List.range' index assertions.length).map opening) =
      firstFailure (boundaryChecks root opening (assertions.zipIdx index)) := by
  induction assertions generalizing index with
  | nil => rfl
  | cons a assertions ih =>
    obtain ⟨hcolumn, hrest⟩ := List.forall_mem_cons.1 hcolumns
    have hroot : ((List.range columns).map root)[a.column]? = some (root a.column) := by
      rw [List.getElem?_map, List.getElem?_range hcolumn, Option.map_some]
    rw [List.length_cons, List.range'_succ, List.map_cons, checkBoundaryOpenings,
      Opening.standsAt_eq hroot, List.zipIdx_cons, boundaryChecks, List.flatMap_cons]
    by_cases hvalue : (opening index).value = a.value
    · rw [if_neg (not_not_intro hvalue)]
      dsimp only
      rw [decide_eq_true hvalue]
      by_cases hpath : (opening index).LeadsTo a.row (root a.column)
      · rw [decide_eq_true hpath]
        exact ih hrest (index + 1)
      · rw [decide_eq_false hpath]
        rfl
    · rw [if_pos hvalue]
      dsimp only
      rw [decide_eq_false hvalue]
      rfl

theorem checkWindowOpenings_eq {opening : Nat × Nat → Opening} {row count : Nat}
    (hcolumns : 0 < count → 0 < columns) (index : Nat) :
    checkWindowOpenings ((List.range columns).map root) columns row index
        (((List.range' index count).map fun number =>
          (number / columns, number % columns)).map opening) =
      firstFailure (windowChecks root opening row
        ((List.range' index count).map fun number => (number / columns, number % columns))) := by
  induction count generalizing index with
  | zero => rfl
  | succ count ih =>
    have hpos : 0 < columns := hcolumns (Nat.succ_pos count)
    have hroot : ((List.range columns).map root)[index % columns]? =
        some (root (index % columns)) := by
      rw [List.getElem?_map, List.getElem?_range (Nat.mod_lt _ hpos), Option.map_some]
    rw [List.range'_succ, List.map_cons, List.map_cons, checkWindowOpenings,
      Opening.standsAt_eq hroot, windowChecks, List.map_cons]
    by_cases hpath : (opening (index / columns, index % columns)).LeadsTo
        (row + index / columns) (root (index % columns))
    · rw [decide_eq_true hpath]
      exact ih (fun _ => hpos) (index + 1)
    · rw [decide_eq_false hpath]
      rfl

/-- For each queried row the paths of its window and then the composed constraint. -/
def queryChecks (key : Key) (c : Circuit) (coefficients : List Felt) (root : Nat → Digest)
    (opening : Nat → Nat × Nat → Opening) (rows : List (Nat × Nat)) : List Check :=
  rows.flatMap fun (row, query) =>
    windowChecks root (opening query) row (windowPlaces key.window key.numColumns) ++
      [constraintCheck key c coefficients row
        (((windowPlaces key.window key.numColumns).map (opening query)).map (·.value))]

theorem checkQueries_eq {key : Key} {c : Circuit} {coefficients : List Felt}
    {opening : Nat → Nat × Nat → Opening} {rows : List Nat} (query : Nat) :
    checkQueries key c ((List.range key.numColumns).map root) coefficients rows
        ((List.range' query rows.length).map fun query =>
          (windowPlaces key.window key.numColumns).map (opening query)) =
      firstFailure (queryChecks key c coefficients root opening (rows.zipIdx query)) := by
  induction rows generalizing query with
  | nil => rfl
  | cons row rows ih =>
    have hwindow : checkWindowOpenings ((List.range key.numColumns).map root) key.numColumns row 0
        ((windowPlaces key.window key.numColumns).map (opening query)) =
          firstFailure (windowChecks root (opening query) row
            (windowPlaces key.window key.numColumns)) := by
      rw [windowPlaces_eq_map, List.range_eq_range' (n := key.window * key.numColumns)]
      exact checkWindowOpenings_eq Nat.pos_of_mul_pos_left 0
    rw [List.length_cons, List.range'_succ, List.map_cons, checkQueries, List.zipIdx_cons,
      queryChecks, List.flatMap_cons, List.append_assoc, firstFailure_append, ← hwindow]
    -- The constraint of a row is evaluated only when the walk over its window accepts.
    cases checkWindowOpenings ((List.range key.numColumns).map root) key.numColumns row 0
        ((windowPlaces key.window key.numColumns).map (opening query)) with
    | error f => rfl
    | ok verdict =>
      cases verdict with
      | rejected ground => rfl
      | accepted =>
        show _ = firstFailure (constraintCheck _ _ _ _ _ ::
          queryChecks key c coefficients root opening (rows.zipIdx (query + 1)))
        rw [firstFailure_constraintCheck_cons, ← ih]
        rfl

/-! ### The checks of a byte string -/

/-- All values that are opened in a byte string are canonical. -/
def ProofLayout.IsCanonical (l : ProofLayout) (bytes : Bytes) : Prop :=
  ∀ number < l.numBoundary + l.numQueries * (l.numColumns * l.window),
    (l.openingIn bytes number).value.IsCanonical

instance (l : ProofLayout) (bytes : Bytes) : Decidable (l.IsCanonical bytes) :=
  inferInstanceAs (Decidable (∀ number < _, _))

theorem ProofLayout.IsCanonical.queryIn {l : ProofLayout} {bytes : Bytes}
    (h : l.IsCanonical bytes) {query offset column : Nat} (hquery : query < l.numQueries)
    (hoffset : offset < l.window) (hcolumn : column < l.numColumns) :
    (l.queryIn bytes query offset column).value.IsCanonical := by
  have hqueries : (query + 1) * (l.numColumns * l.window) ≤
      l.numQueries * (l.numColumns * l.window) := Nat.mul_le_mul_right _ hquery
  have hrows : (offset + 1) * l.numColumns ≤ l.window * l.numColumns :=
    Nat.mul_le_mul_right _ hoffset
  rw [Nat.succ_mul] at hqueries hrows
  rw [Nat.mul_comm l.window] at hrows
  refine h _ ?_
  rw [Nat.mul_assoc query]
  omega

/-- The frame of the values that a query opens. -/
def Key.frameIn (key : Key) (bytes : Bytes) (query : Nat) : Frame where
  values := (windowPlaces key.window key.numColumns).map fun place =>
    (key.layout.queryIn bytes query place.1 place.2).value
  width := key.numColumns

/-- The checks of a byte string, in the order in which the verifier makes them. -/
def storedChecks (key : Key) (c : Circuit) (assertions : List Assertion) (ch : Challenges)
    (bytes : Bytes) : List Check :=
  (.nonCanonicalValue, .ok (decide (key.layout.IsCanonical bytes))) ::
    (boundaryChecks (ProofLayout.rootIn bytes) (key.layout.openingIn bytes) assertions.zipIdx ++
      queryChecks key c ch.coefficients (ProofLayout.rootIn bytes)
        (fun query place => key.layout.queryIn bytes query place.1 place.2) ch.rows.zipIdx)

theorem Proof.Shaped.isCanonical_iff {l : ProofLayout} {p : Proof} (h : p.Shaped l) :
    l.IsCanonical p.toBytes ↔ ∀ o ∈ p.openings, o.value.IsCanonical := by
  rw [h.openings_eq, List.forall_mem_map]
  simp only [List.mem_range]
  rfl

/-- The verdict on a proof is that of the checks of its stored form. -/
theorem judge_eq_firstFailure {key : Key} {c : Circuit} {inputs : PublicInputs}
    {assertions : List Assertion} {ch : Challenges} {p : Proof} (hshape : p.Shaped key.layout)
    (hcount : assertions.length = key.numBoundary)
    (hcolumns : ∀ a ∈ assertions, a.column < key.numColumns) (hqueries : key.QueriesFit)
    (hdraw : Challenges.draw key inputs p.roots = .ok ch) :
    judge key c inputs assertions p =
      firstFailure (storedChecks key c assertions ch p.toBytes) := by
  have hboundary : checkBoundaryOpenings p.roots 0 assertions p.boundary =
      firstFailure (boundaryChecks (ProofLayout.rootIn p.toBytes)
        (key.layout.openingIn p.toBytes) assertions.zipIdx) := by
    rw [← checkBoundaryOpenings_eq hcolumns, ← List.range_eq_range', hcount]
    exact congrArg₂ (checkBoundaryOpenings · 0 assertions ·) hshape.roots_eq hshape.boundary_eq
  have hwindows : checkQueries key c p.roots ch.coefficients ch.rows p.queries =
      firstFailure (queryChecks key c ch.coefficients (ProofLayout.rootIn p.toBytes)
        (fun query place => key.layout.queryIn p.toBytes query place.1 place.2)
        ch.rows.zipIdx) := by
    have hrows := (Challenges.suits_of_draw hdraw).length_rows hqueries
    rw [← checkQueries_eq, ← List.range_eq_range', hrows]
    exact congrArg₂ (checkQueries key c · ch.coefficients ch.rows ·) hshape.roots_eq
      hshape.queries_eq
  by_cases hcanonical : key.layout.IsCanonical p.toBytes
  · have hall : p.openings.all (fun o => o.value.IsCanonical) = true := by
      simpa using hshape.isCanonical_iff.1 hcanonical
    rw [storedChecks, decide_eq_true hcanonical, judge, if_pos hall, hdraw]
    show (do
      match ← checkBoundaryOpenings p.roots 0 assertions p.boundary with
      | .rejected ground => .ok (.rejected ground)
      | .accepted => checkQueries key c p.roots ch.coefficients ch.rows p.queries) =
        firstFailure (_ ++ _)
    rw [firstFailure_append, ← hboundary, ← hwindows]
  · rw [judge_of_not_canonical fun h => hcanonical (hshape.isCanonical_iff.2 h), storedChecks,
      decide_eq_false hcanonical]
    rfl

/-- What an accepted byte string satisfies, each opening at its position. -/
structure Satisfies (key : Key) (c : Circuit) (assertions : List Assertion) (ch : Challenges)
    (bytes : Bytes) : Prop where
  canonical : key.layout.IsCanonical bytes
  boundary : ∀ j a, assertions[j]? = some a →
    (key.layout.openingIn bytes j).value = a.value ∧
      (key.layout.openingIn bytes j).LeadsTo a.row (ProofLayout.rootIn bytes a.column)
  queries : ∀ k row, ch.rows[k]? = some row → ∀ offset < key.window, ∀ column < key.numColumns,
    (key.layout.queryIn bytes k offset column).LeadsTo (row + offset)
      (ProofLayout.rootIn bytes column)
  constraints : ∀ k row, ch.rows[k]? = some row → ∃ evals,
    c.evaluate (key.frameIn bytes k) = .ok evals ∧
      (composeRow evals ch.coefficients (key.rowWeight row)).isZero = true

theorem forall_boundaryChecks_iff {opening : Nat → Opening} {assertions : List Assertion} :
    (∀ check ∈ boundaryChecks root opening assertions.zipIdx, check.2 = .ok true) ↔
      ∀ j a, assertions[j]? = some a →
        (opening j).value = a.value ∧ (opening j).LeadsTo a.row (root a.column) := by
  simp only [boundaryChecks, List.forall_mem_flatMap, Prod.forall, List.mem_zipIdx_iff_getElem?,
    List.forall_mem_cons, List.not_mem_nil, IsEmpty.forall_iff, implies_true, and_true,
    Except.ok.injEq, decide_eq_true_eq]
  exact forall_comm

theorem forall_windowChecks_iff {opening : Nat × Nat → Opening} {row window : Nat} :
    (∀ check ∈ windowChecks root opening row (windowPlaces window columns),
      check.2 = .ok true) ↔
      ∀ offset < window, ∀ column < columns,
        (opening (offset, column)).LeadsTo (row + offset) (root column) := by
  simp only [windowChecks, List.forall_mem_map, Prod.forall, mem_windowPlaces, Except.ok.injEq,
    decide_eq_true_eq]
  constructor
  · intro h offset hoffset column hcolumn
    exact h offset column ⟨hoffset, hcolumn⟩
  · intro h offset column hplace
    exact h offset hplace.1 column hplace.2

theorem mem_queryChecks_iff {key : Key} {c : Circuit} {coefficients : List Felt}
    {opening : Nat → Nat × Nat → Opening} {rows : List Nat} {check : Check} :
    check ∈ queryChecks key c coefficients root opening rows.zipIdx ↔
      ∃ k row, rows[k]? = some row ∧
        (check ∈ windowChecks root (opening k) row (windowPlaces key.window key.numColumns) ∨
          check = constraintCheck key c coefficients row
            (((windowPlaces key.window key.numColumns).map (opening k)).map (·.value))) := by
  simp only [queryChecks, List.mem_flatMap, Prod.exists, List.mem_zipIdx_iff_getElem?,
    List.mem_append, List.mem_singleton]
  exact exists_comm

theorem forall_storedChecks_iff {key : Key} {c : Circuit} {assertions : List Assertion}
    {ch : Challenges} {bytes : Bytes} :
    (∀ check ∈ storedChecks key c assertions ch bytes, check.2 = .ok true) ↔
      Satisfies key c assertions ch bytes := by
  rw [storedChecks, List.forall_mem_cons, List.forall_mem_append, forall_boundaryChecks_iff,
    Except.ok.injEq, decide_eq_true_eq]
  constructor
  · intro h
    obtain ⟨hcanonical, hboundary, hqueries⟩ := h
    refine ⟨hcanonical, hboundary, fun k row hrow => ?_, fun k row hrow => ?_⟩
    · have hpaths := fun check hcheck =>
        hqueries check (mem_queryChecks_iff.2 ⟨k, row, hrow, .inl hcheck⟩)
      rw [forall_windowChecks_iff] at hpaths
      exact hpaths
    · have hcheck := hqueries _ (mem_queryChecks_iff.2 ⟨k, row, hrow, .inr rfl⟩)
      rw [List.map_map] at hcheck
      exact map_eq_ok_iff.1 hcheck
  · intro h
    refine ⟨h.canonical, h.boundary, fun check hcheck => ?_⟩
    obtain ⟨k, row, hrow, hcheck⟩ := mem_queryChecks_iff.1 hcheck
    rcases hcheck with hcheck | rfl
    · refine forall_windowChecks_iff.2 ?_ check hcheck
      exact h.queries k row hrow
    · rw [List.map_map]
      exact map_eq_ok_iff.2 (h.constraints k row hrow)

/-- Only an evaluation on the frame of a query can fault. -/
theorem storedChecks_isOk {key : Key} {c : Circuit} {assertions : List Assertion}
    {ch : Challenges} {bytes : Bytes}
    (h : ∀ k < ch.rows.length, ∃ evals, c.evaluate (key.frameIn bytes k) = .ok evals) :
    ∀ check ∈ storedChecks key c assertions ch bytes, ∃ b, check.2 = .ok b := by
  rw [storedChecks, List.forall_mem_cons, List.forall_mem_append]
  refine ⟨⟨_, rfl⟩, fun check hcheck => ?_, fun check hcheck => ?_⟩
  · obtain ⟨⟨a, j⟩, -, hcheck⟩ := List.mem_flatMap.1 hcheck
    rcases List.mem_pair.1 hcheck with rfl | rfl <;> exact ⟨_, rfl⟩
  · obtain ⟨k, row, hrow, hcheck⟩ := mem_queryChecks_iff.1 hcheck
    rcases hcheck with hcheck | rfl
    · obtain ⟨place, -, rfl⟩ := List.mem_map.1 hcheck
      exact ⟨_, rfl⟩
    · obtain ⟨evals, hevals⟩ := h k (List.getElem?_eq_some_iff.1 hrow).1
      rw [List.map_map]
      exact ⟨_, map_eq_ok_iff.2 ⟨evals, hevals, rfl⟩⟩

theorem check_toBytes_eq_ok_iff {key : Key} {c : Circuit} {inputs : PublicInputs}
    {assertions : List Assertion} {p : Proof} {verdict : Verdict} (hmatches : key.matches c = true)
    (hassertions : c.assertions inputs key.numRows = .ok assertions)
    (hcount : assertions.length = key.numBoundary) (hfits : key.layout.Fits)
    (hshape : p.Shaped key.layout) :
    check key c p.toBytes inputs = .ok verdict ↔
      judge key c inputs assertions p = .ok verdict := by
  have hread : Proof.ofBytes key.layout p.toBytes = .ok p :=
    Proof.ofBytes_eq_ok_iff.2 ⟨hfits, hshape, rfl⟩
  rw [check, if_pos hmatches, hassertions, hread]
  show (if assertions.length ≠ key.numBoundary then _ else _) = _ ↔ _
  rw [if_neg (not_not_intro hcount)]
  exact Outcome.ofFaulting_eq_ok_iff

/-- A byte string of the right length gets a verdict, provided that the challenges can be drawn and
the constraints evaluated. Neither is needed when a value is not canonical. -/
theorem check_isOk {key : Key} {c : Circuit} {bytes : Bytes} {inputs : PublicInputs}
    {assertions : List Assertion} (hqueries : key.QueriesFit) (hmatches : key.matches c = true)
    (hassertions : c.assertions inputs key.numRows = .ok assertions)
    (hcount : assertions.length = key.numBoundary)
    (hcolumns : ∀ a ∈ assertions, a.column < key.numColumns)
    (hsize : key.layout.proofSize = .ok bytes.length)
    (hdraw : key.layout.IsCanonical bytes → ∃ ch, Challenges.draw key inputs
      ((List.range key.numColumns).map (ProofLayout.rootIn bytes)) = .ok ch)
    (hevaluate : key.layout.IsCanonical bytes → ∀ k < key.numQueries, ∃ evals,
      c.evaluate (key.frameIn bytes k) = .ok evals) :
    ∃ verdict, check key c bytes inputs = .ok verdict := by
  obtain ⟨hlength, hfits⟩ := ProofLayout.proofSize_eq_ok_iff.1 hsize
  obtain ⟨p, hshape, rfl⟩ := Proof.exists_shaped_of_length hlength.symm
  simp only [check_toBytes_eq_ok_iff hmatches hassertions hcount hfits hshape]
  by_cases hcanonical : key.layout.IsCanonical p.toBytes
  · obtain ⟨ch, hch⟩ := hdraw hcanonical
    have hroots : p.roots = (List.range key.numColumns).map (ProofLayout.rootIn p.toBytes) :=
      hshape.roots_eq
    rw [← hroots] at hch
    have hrows := (Challenges.suits_of_draw hch).length_rows hqueries
    rw [judge_eq_firstFailure hshape hcount hcolumns hqueries hch]
    exact firstFailure_isOk (storedChecks_isOk (hrows ▸ hevaluate hcanonical))
  · exact ⟨_, judge_of_not_canonical fun h => hcanonical (hshape.isCanonical_iff.2 h)⟩

/-! ### Main theorem -/

/-- On a byte string that is as long as a proof, the verifier accepts exactly if each part of the
byte string is what it has to be, and otherwise names the first check that does not hold. A value
that is not canonical is found before any challenge is drawn. -/
theorem verdict_of_stored_bytes {key : Key} {c : Circuit} {bytes : Bytes}
    {inputs : PublicInputs} {assertions : List Assertion} (hqueries : key.QueriesFit)
    (hmatches : key.matches c = true)
    (hassertions : c.assertions inputs key.numRows = .ok assertions)
    (hcount : assertions.length = key.numBoundary)
    (hcolumns : ∀ a ∈ assertions, a.column < key.numColumns)
    (hsize : key.layout.proofSize = .ok bytes.length) :
    (¬ key.layout.IsCanonical bytes →
      check key c bytes inputs = .ok (.rejected .nonCanonicalValue)) ∧
    ∀ ch, Challenges.draw key inputs
        ((List.range key.numColumns).map (ProofLayout.rootIn bytes)) = .ok ch →
      ch.rows.length = key.numQueries ∧
      (check key c bytes inputs = .ok .accepted ↔ Satisfies key c assertions ch bytes) ∧
      (∀ ground, check key c bytes inputs = .ok (.rejected ground) ↔
        ∃ passed rest, storedChecks key c assertions ch bytes =
            passed ++ (ground, .ok false) :: rest ∧
          ∀ earlier ∈ passed, earlier.2 = .ok true) ∧
      ((∀ k < key.numQueries, ∃ evals, c.evaluate (key.frameIn bytes k) = .ok evals) →
        ∃ verdict, check key c bytes inputs = .ok verdict) := by
  obtain ⟨hlength, hfits⟩ := ProofLayout.proofSize_eq_ok_iff.1 hsize
  obtain ⟨p, hshape, rfl⟩ := Proof.exists_shaped_of_length hlength.symm
  have hcheck : ∀ verdict, check key c p.toBytes inputs = .ok verdict ↔
      judge key c inputs assertions p = .ok verdict := fun verdict =>
    check_toBytes_eq_ok_iff hmatches hassertions hcount hfits hshape
  refine ⟨fun hcanonical => ?_, fun ch hdraw => ?_⟩
  · rw [hcheck]
    exact judge_of_not_canonical fun h => hcanonical (hshape.isCanonical_iff.2 h)
  · have hroots : p.roots = (List.range key.numColumns).map (ProofLayout.rootIn p.toBytes) :=
      hshape.roots_eq
    rw [← hroots] at hdraw
    have hrows : ch.rows.length = key.numQueries := by
      rw [(Challenges.suits_of_draw hdraw).rows, Nat.min_eq_left hqueries]
    have hjudge := judge_eq_firstFailure (c := c) hshape hcount hcolumns hqueries hdraw
    simp only [hcheck, hjudge]
    refine ⟨hrows, ?_, fun ground => firstFailure_eq_rejected_iff, fun h => ?_⟩
    · rw [firstFailure_eq_accepted_iff, forall_storedChecks_iff]
    · exact firstFailure_isOk (storedChecks_isOk (hrows ▸ h))

/-! ### A forged cell -/

namespace Constant

def challenges : Challenges where
  coefficients := [Transcript.scalarAt (seedTranscript key .empty trace.roots).state 1]
  rows := [0]

/-- The second cell of the window is changed, which neither its path nor the constraint admits. -/
def forged : Proof := ⟨trace.roots, [opening], [[opening, { opening with value := ⟨6⟩ }]]⟩

theorem draw_eq {p : Proof} (hshape : p.Shaped key.layout) (hroots : p.roots = trace.roots) :
    Challenges.draw key .empty ((List.range key.numColumns).map (ProofLayout.rootIn p.toBytes)) =
      .ok challenges := by
  have hstored : p.roots = (List.range key.numColumns).map (ProofLayout.rootIn p.toBytes) :=
    hshape.roots_eq
  rw [← hstored, hroots]
  decide +kernel

theorem proofSize_eq {p : Proof} (hshape : p.Shaped key.layout) :
    key.layout.proofSize = .ok p.toBytes.length := by
  rw [hshape.length_toBytes]
  rfl

end Constant

/-- The constant column is accepted, and the forged cell is rejected for its path. -/
theorem verdict_of_forged_bytes :
    Satisfies Constant.key Constant.circuit [⟨0, 0, ⟨5⟩⟩] Constant.challenges
        Constant.proof.toBytes ∧
      check Constant.key Constant.circuit Constant.proof.toBytes .empty = .ok .accepted ∧
      check Constant.key Constant.circuit Constant.forged.toBytes .empty =
        .ok (.rejected (.queryPath 1 0)) := by
  have hfit : Constant.key.QueriesFit := by
    unfold Key.QueriesFit
    decide
  have hproof : Constant.proof.Shaped Constant.key.layout :=
    ⟨rfl, rfl, rfl, by decide, by decide +kernel⟩
  have hforged : Constant.forged.Shaped Constant.key.layout :=
    ⟨rfl, rfl, rfl, by decide, by decide +kernel⟩
  have hsatisfies : Satisfies Constant.key Constant.circuit [⟨0, 0, ⟨5⟩⟩] Constant.challenges
      Constant.proof.toBytes := by
    refine forall_storedChecks_iff.1 (firstFailure_eq_accepted_iff.1 ?_)
    decide +kernel
  have hfailure : firstFailure (storedChecks Constant.key Constant.circuit [⟨0, 0, ⟨5⟩⟩]
      Constant.challenges Constant.forged.toBytes) = .ok (.rejected (.queryPath 1 0)) := by
    decide +kernel
  obtain ⟨-, haccepted⟩ := verdict_of_stored_bytes (c := Constant.circuit) hfit rfl rfl rfl
    (by decide) (Constant.proofSize_eq hproof)
  obtain ⟨-, hrejected⟩ := verdict_of_stored_bytes (c := Constant.circuit) hfit rfl rfl rfl
    (by decide) (Constant.proofSize_eq hforged)
  exact ⟨hsatisfies, (haccepted _ (Constant.draw_eq hproof rfl)).2.1.2 hsatisfies,
    ((hrejected _ (Constant.draw_eq hforged rfl)).2.2.1 _).2
      (firstFailure_eq_rejected_iff.1 hfailure)⟩

end SpotCheck
