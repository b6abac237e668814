import SpotCheck.Proofs.Key
import SpotCheck.Proofs.Proof.Codec
import SpotCheck.Proofs.Sampling
import SpotCheck.Proofs.Trace

/-!
# What an accepted proof has passed

The verifier walks lists side by side and stops at the shorter one. For a proof of the right shape
the lists are of one length, so that acceptance means that every opening and every queried row has
passed its check.
-/

namespace SpotCheck

theorem Opening.standsAt_eq_ok_iff {o : Opening} {roots : List Digest} {column row : Nat} :
    o.standsAt roots column row = .ok true ↔
      roots[column]? = some (Merkle.climb (Merkle.leafDigest o.value) row o.siblings) := by
  unfold standsAt
  cases roots[column]? with
  | none => simp
  | some root =>
    simp only [authenticates, path, Merkle.Path.verify, Except.ok.injEq, beq_iff_eq,
      Option.some.injEq]
    exact eq_comm

/-! ### Walks -/

theorem checkBoundaryOpenings_eq_accepted_iff {roots : List Digest} {index : Nat}
    {assertions : List Assertion} {openings : List Opening}
    (hlen : assertions.length = openings.length) :
    checkBoundaryOpenings roots index assertions openings = .ok .accepted ↔
      List.Forall₂ (fun a o => o.value = a.value ∧ o.standsAt roots a.column a.row = .ok true)
        assertions openings := by
  induction assertions generalizing index openings with
  | nil =>
    cases openings with
    | nil => simp [checkBoundaryOpenings]
    | cons => cases hlen
  | cons a assertions ih =>
    cases openings with
    | nil => cases hlen
    | cons o openings =>
      rw [checkBoundaryOpenings, List.forall₂_cons]
      by_cases hvalue : o.value = a.value
      · rw [if_neg (not_not_intro hvalue), bind_eq_ok_iff]
        constructor
        · intro h
          obtain ⟨stands, hstands, h⟩ := h
          cases stands with
          | true => exact ⟨⟨hvalue, hstands⟩, (ih (Nat.succ.inj hlen)).1 h⟩
          | false => cases h
        · intro h
          obtain ⟨⟨-, hstands⟩, hrest⟩ := h
          exact ⟨true, hstands, (ih (Nat.succ.inj hlen)).2 hrest⟩
      · simp [hvalue]

/-- The numbers of the openings are the places of the window, from a number on. -/
theorem checkWindowOpenings_eq_accepted_iff_range {roots : List Digest} {width row index : Nat}
    {openings : List Opening} :
    checkWindowOpenings roots width row index openings = .ok .accepted ↔
      List.Forall₂
        (fun place o => o.standsAt roots place.2 (row + place.1) = .ok true)
        ((List.range' index openings.length).map fun number => (number / width, number % width))
        openings := by
  induction openings generalizing index with
  | nil => simp [checkWindowOpenings]
  | cons o openings ih =>
    rw [checkWindowOpenings, List.length_cons, List.range'_succ, List.map_cons,
      List.forall₂_cons, ← ih, bind_eq_ok_iff]
    constructor
    · intro h
      obtain ⟨stands, hstands, h⟩ := h
      cases stands with
      | true => exact ⟨hstands, h⟩
      | false => cases h
    · intro h
      obtain ⟨hstands, hrest⟩ := h
      exact ⟨true, hstands, hrest⟩

theorem checkWindowOpenings_eq_accepted_iff {roots : List Digest} {window width row : Nat}
    {openings : List Opening} (hlen : openings.length = window * width) :
    checkWindowOpenings roots width row 0 openings = .ok .accepted ↔
      List.Forall₂ (fun place o => o.standsAt roots place.2 (row + place.1) = .ok true)
        (windowPlaces window width) openings := by
  rw [checkWindowOpenings_eq_accepted_iff_range, windowPlaces_eq_map, hlen,
    List.range_eq_range']

/-- A query has passed: its openings stand in the window at the row, and the constraints on the
opened frame are composed to zero. -/
structure QueryPasses (key : Key) (c : Circuit) (roots : List Digest) (coefficients : List Felt)
    (row : Nat) (openings : List Opening) : Prop where
  stands : List.Forall₂ (fun place o => o.standsAt roots place.2 (row + place.1) = .ok true)
    (windowPlaces key.window key.numColumns) openings
  vanishes : ∃ evals, c.evaluate ⟨openings.map (·.value), key.numColumns⟩ = .ok evals ∧
    (composeRow evals coefficients (key.rowWeight row)).isZero = true

theorem checkQueries_eq_accepted_iff {key : Key} {c : Circuit} {roots : List Digest}
    {coefficients : List Felt} {rows : List Nat} {queries : List (List Opening)}
    (hlen : rows.length = queries.length)
    (hwindows : ∀ q ∈ queries, q.length = key.numColumns * key.window) :
    checkQueries key c roots coefficients rows queries = .ok .accepted ↔
      List.Forall₂ (QueryPasses key c roots coefficients) rows queries := by
  induction rows generalizing queries with
  | nil =>
    cases queries with
    | nil => simp [checkQueries]
    | cons => cases hlen
  | cons row rows ih =>
    cases queries with
    | nil => cases hlen
    | cons openings queries =>
      obtain ⟨hwindow, hrest⟩ := List.forall_mem_cons.1 hwindows
      have hwalk : checkWindowOpenings roots key.numColumns row 0 openings = .ok .accepted ↔ _ :=
        checkWindowOpenings_eq_accepted_iff (hwindow.trans (Nat.mul_comm ..))
      rw [checkQueries, List.forall₂_cons, ← ih (Nat.succ.inj hlen) hrest, bind_eq_ok_iff]
      constructor
      · intro h
        obtain ⟨verdict, hverdict, h⟩ := h
        cases verdict with
        | rejected ground => cases h
        | accepted =>
          obtain ⟨evals, hevals, h⟩ := bind_eq_ok_iff.1 h
          split at h
          · rename_i hzero
            exact ⟨⟨hwalk.1 hverdict, evals, hevals, hzero⟩, h⟩
          · cases h
      · intro h
        obtain ⟨⟨hstands, evals, hevals, hzero⟩, h⟩ := h
        refine ⟨.accepted, hwalk.2 hstands, bind_eq_ok_iff.2 ⟨evals, hevals, ?_⟩⟩
        rw [if_pos hzero, h]

/-! ### Verdicts -/

/-- A value that is not canonical is the first thing to be found. -/
theorem judge_of_not_canonical {key : Key} {c : Circuit} {inputs : PublicInputs}
    {assertions : List Assertion} {p : Proof} (h : ¬ ∀ o ∈ p.openings, o.value.IsCanonical) :
    judge key c inputs assertions p = .ok (.rejected .nonCanonicalValue) := by
  have hall : ¬ p.openings.all (fun o => o.value.IsCanonical) = true := by simpa using h
  rw [judge, if_neg hall]

/-- On canonical values the verdict is that on the asserted cells, unless all of these pass. -/
theorem judge_eq_ok_iff {key : Key} {c : Circuit} {inputs : PublicInputs}
    {assertions : List Assertion} {p : Proof} {verdict : Verdict}
    (hcanonical : ∀ o ∈ p.openings, o.value.IsCanonical) :
    judge key c inputs assertions p = .ok verdict ↔
      ∃ ch, Challenges.draw key inputs p.roots = .ok ch ∧
        ∃ boundary, checkBoundaryOpenings p.roots 0 assertions p.boundary = .ok boundary ∧
          (match boundary with
            | .rejected ground => (.ok (.rejected ground) : Except Fault Verdict)
            | .accepted => checkQueries key c p.roots ch.coefficients ch.rows p.queries) =
          .ok verdict := by
  have hall : p.openings.all (fun o => o.value.IsCanonical) = true := by simpa using hcanonical
  rw [judge, if_pos hall, bind_eq_ok_iff]
  exact exists_congr fun ch => and_congr_right fun _ => bind_eq_ok_iff

theorem canonical_of_judge {key : Key} {c : Circuit} {inputs : PublicInputs}
    {assertions : List Assertion} {p : Proof}
    (h : judge key c inputs assertions p = .ok .accepted) :
    ∀ o ∈ p.openings, o.value.IsCanonical := by
  by_contra hcanonical
  rw [judge_of_not_canonical hcanonical] at h
  cases h

/-- What an accepted proof opens for the asserted cells; the queries come later. -/
theorem boundary_of_judge {key : Key} {c : Circuit} {inputs : PublicInputs}
    {assertions : List Assertion} {p : Proof} (hlen : assertions.length = p.boundary.length)
    (h : judge key c inputs assertions p = .ok .accepted) :
    List.Forall₂ (fun a o => o.value = a.value ∧ o.standsAt p.roots a.column a.row = .ok true)
      assertions p.boundary := by
  obtain ⟨ch, -, boundary, hboundary, h⟩ := (judge_eq_ok_iff (canonical_of_judge h)).1 h
  cases boundary with
  | accepted => exact (checkBoundaryOpenings_eq_accepted_iff hlen).1 hboundary
  | rejected ground => cases h

theorem judge_eq_accepted_iff {key : Key} {c : Circuit} {inputs : PublicInputs}
    {assertions : List Assertion} {p : Proof} (hshape : p.Shaped key.layout)
    (hcount : assertions.length = key.numBoundary) (hqueries : key.QueriesFit) :
    judge key c inputs assertions p = .ok .accepted ↔
      (∀ o ∈ p.openings, o.value.IsCanonical) ∧ ∃ ch, Challenges.draw key inputs p.roots = .ok ch ∧
        List.Forall₂ (fun a o => o.value = a.value ∧ o.standsAt p.roots a.column a.row = .ok true)
          assertions p.boundary ∧
        List.Forall₂ (QueryPasses key c p.roots ch.coefficients) ch.rows p.queries := by
  have hlen : assertions.length = p.boundary.length := hcount.trans hshape.boundary.symm
  have hrows : ∀ ch, Challenges.draw key inputs p.roots = .ok ch →
      ch.rows.length = p.queries.length := by
    intro ch hdraw
    rw [(Challenges.suits_of_draw hdraw).length_rows hqueries, hshape.queries]
    rfl
  constructor
  · intro h
    have hcanonical := canonical_of_judge h
    have hboundary := boundary_of_judge hlen h
    obtain ⟨ch, hdraw, verdict, -, h⟩ := (judge_eq_ok_iff hcanonical).1 h
    cases verdict with
    | rejected ground => cases h
    | accepted =>
      exact ⟨hcanonical, ch, hdraw, hboundary,
        (checkQueries_eq_accepted_iff (hrows ch hdraw) hshape.windows).1 h⟩
  · intro h
    obtain ⟨hcanonical, ch, hdraw, hcells, hpasses⟩ := h
    refine (judge_eq_ok_iff hcanonical).2
      ⟨ch, hdraw, .accepted, (checkBoundaryOpenings_eq_accepted_iff hlen).2 hcells, ?_⟩
    exact (checkQueries_eq_accepted_iff (hrows ch hdraw) hshape.windows).2 hpasses

theorem check_eq_ok_iff {key : Key} {c : Circuit} {bytes : Bytes} {inputs : PublicInputs}
    {verdict : Verdict} :
    check key c bytes inputs = .ok verdict ↔
      key.matches c = true ∧ ∃ assertions, c.assertions inputs key.numRows = .ok assertions ∧
        assertions.length = key.numBoundary ∧ key.layout.Fits ∧ ∃ p : Proof, p.Shaped key.layout ∧
          bytes = p.toBytes ∧ judge key c inputs assertions p = .ok verdict := by
  unfold check
  constructor
  · intro h
    split at h
    · rename_i hmatches
      obtain ⟨assertions, hassertions, h⟩ := bind_eq_ok_iff.1 h
      split at h
      · cases h
      · rename_i hcount
        obtain ⟨p, hp, hjudge⟩ := bind_eq_ok_iff.1 h
        obtain ⟨hfits, hshape, hbytes⟩ :=
          Proof.ofBytes_eq_ok_iff.1 (Outcome.relabel_eq_ok_iff.1 hp)
        exact ⟨hmatches, assertions, Outcome.relabel_eq_ok_iff.1 hassertions,
          Classical.not_not.1 hcount, hfits, p, hshape, hbytes,
          Outcome.ofFaulting_eq_ok_iff.1 hjudge⟩
    · cases h
  · intro h
    obtain ⟨hmatches, assertions, hassertions, hcount, hfits, p, hshape, hbytes, hjudge⟩ := h
    have hp : Proof.ofBytes key.layout bytes = .ok p :=
      Proof.ofBytes_eq_ok_iff.2 ⟨hfits, hshape, hbytes⟩
    rw [if_pos hmatches]
    refine bind_eq_ok_iff.2 ⟨assertions, Outcome.relabel_eq_ok_iff.2 hassertions, ?_⟩
    rw [if_neg (not_not_intro hcount)]
    exact bind_eq_ok_iff.2 ⟨p, Outcome.relabel_eq_ok_iff.2 hp,
      Outcome.ofFaulting_eq_ok_iff.2 hjudge⟩

theorem verify_eq_ok_iff {key : Key} {c : Circuit} {bytes : Bytes} {inputs : PublicInputs}
    {length : Nat} {result : Bool} :
    verify key c bytes inputs length = .ok result ↔
      ∃ verdict, check key c bytes inputs length = .ok verdict ∧ verdict.isAccepted = result :=
  map_eq_ok_iff

end SpotCheck
