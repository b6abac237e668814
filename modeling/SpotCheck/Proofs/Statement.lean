import SpotCheck.Proofs.Verdict

/-!
# Other public inputs for an accepted proof

Other public inputs lead to other challenges, hence to other queried rows. What a proof opens for
the asserted cells depends on neither, and is checked before the queries. So a proof that is
accepted under some public inputs is rejected under those that assert other values for the same
cells, on the ground of the first such value.
-/

namespace SpotCheck

/-! ### The first difference -/

/-- The lists agree in front of a position, and not at it. -/
structure DifferFirstAt {α : Type} (xs ys : List α) (k : Nat) : Prop where
  before : xs.take k = ys.take k
  here : xs[k]? ≠ ys[k]?

section Difference

variable {α : Type} {x y : α} {xs ys : List α}

theorem differFirstAt_zero_iff : DifferFirstAt (x :: xs) (y :: ys) 0 ↔ x ≠ y := by
  constructor
  · intro h hxy
    exact h.here (congrArg some hxy)
  · intro h
    exact ⟨rfl, fun hsome => h (Option.some.inj hsome)⟩

theorem differFirstAt_succ_iff {k : Nat} :
    DifferFirstAt (x :: xs) (y :: ys) (k + 1) ↔ x = y ∧ DifferFirstAt xs ys k := by
  constructor
  · intro h
    have hbefore := h.before
    rw [List.take_succ_cons, List.take_succ_cons, List.cons.injEq] at hbefore
    exact ⟨hbefore.1, hbefore.2, h.here⟩
  · intro h
    obtain ⟨rfl, hrest⟩ := h
    refine ⟨?_, hrest.here⟩
    rw [List.take_succ_cons, List.take_succ_cons, hrest.before]

theorem exists_differFirstAt (h : xs ≠ ys) : ∃ k, DifferFirstAt xs ys k := by
  induction xs generalizing ys with
  | nil =>
    cases ys with
    | nil => exact absurd rfl h
    | cons y ys => exact ⟨0, rfl, by simp⟩
  | cons x xs ih =>
    cases ys with
    | nil => exact ⟨0, rfl, by simp⟩
    | cons y ys =>
      by_cases hxy : x = y
      · have hrest : xs ≠ ys := fun hrest => h (by rw [hxy, hrest])
        obtain ⟨k, hk⟩ := ih hrest
        exact ⟨k + 1, differFirstAt_succ_iff.2 ⟨hxy, hk⟩⟩
      · exact ⟨0, differFirstAt_zero_iff.2 hxy⟩

end Difference

/-! ### Openings of asserted cells -/

/-- The cell that an assertion is about. -/
def Assertion.place (a : Assertion) : Nat × Nat := (a.column, a.row)

theorem checkBoundaryOpenings_of_differ {roots : List Digest} {index k : Nat}
    {assertions others : List Assertion} {openings : List Opening}
    (hpass : List.Forall₂ (fun a o => o.value = a.value ∧
      o.standsAt roots a.column a.row = .ok true) assertions openings)
    (hplaces : others.map (·.place) = assertions.map (·.place))
    (hdiffer : DifferFirstAt (assertions.map (·.value)) (others.map (·.value)) k) :
    checkBoundaryOpenings roots index others openings = .ok (.rejected (.boundaryValue (index + k)))
    := by
  induction hpass generalizing index others k with
  | nil =>
    obtain rfl := List.map_eq_nil_iff.1 hplaces
    exact absurd rfl hdiffer.here
  | @cons a o assertions openings hfirst _ ih =>
    obtain ⟨hvalue, hstands⟩ := hfirst
    obtain ⟨other, others, rfl, hplace, hplaces⟩ := List.map_eq_cons_iff.1 hplaces
    have hcolumn : other.column = a.column := congrArg Prod.fst hplace
    have hrow : other.row = a.row := congrArg Prod.snd hplace
    rw [checkBoundaryOpenings]
    cases k with
    | zero =>
      have hne : a.value ≠ other.value := differFirstAt_zero_iff.1 hdiffer
      rw [← hvalue] at hne
      rw [if_pos hne, Nat.add_zero]
    | succ k =>
      obtain ⟨hsame, hrest⟩ := differFirstAt_succ_iff.1 hdiffer
      -- The path leads to the root from the same cell as before.
      rw [if_neg (not_not_intro (hvalue.trans hsame)), hcolumn, hrow, hstands]
      show checkBoundaryOpenings roots (index + 1) others openings = _
      rw [ih hplaces hrest, Nat.add_assoc, Nat.add_comm 1]

/-! ### Verdicts -/

variable {key : Key} {c : Circuit} {bytes : Bytes} {inputs other : PublicInputs}
  {assertions others : List Assertion} {p : Proof} {k : Nat}

theorem judge_of_differ (hlen : assertions.length = p.boundary.length)
    (haccepted : judge key c inputs assertions p = .ok .accepted)
    (hplaces : others.map (·.place) = assertions.map (·.place))
    (hdiffer : DifferFirstAt (assertions.map (·.value)) (others.map (·.value)) k)
    {verdict : Verdict} :
    judge key c other others p = .ok verdict ↔
      (∃ ch, Challenges.draw key other p.roots = .ok ch) ∧
        verdict = .rejected (.boundaryValue k) := by
  have hcells : checkBoundaryOpenings p.roots 0 others p.boundary =
      .ok (.rejected (.boundaryValue (0 + k))) :=
    checkBoundaryOpenings_of_differ (boundary_of_judge hlen haccepted) hplaces hdiffer
  rw [Nat.zero_add] at hcells
  rw [judge_eq_ok_iff (canonical_of_judge haccepted)]
  simp only [hcells, Except.ok.injEq, exists_eq_left', exists_and_right]
  rw [eq_comm]

/-- An accepted proof gets no verdict but the rejection of the first value that differs, and gets
it whenever the search for the rows to query ends. -/
theorem check_of_differ (haccepted : check key c bytes inputs = .ok .accepted)
    (hassertions : c.assertions inputs key.numRows = .ok assertions)
    (hothers : c.assertions other key.numRows = .ok others)
    (hplaces : others.map (·.place) = assertions.map (·.place))
    (hdiffer : DifferFirstAt (assertions.map (·.value)) (others.map (·.value)) k)
    {verdict : Verdict} :
    check key c bytes other = .ok verdict ↔
      Challenges.SearchEnds key other
        ((List.range key.numColumns).map (ProofLayout.rootIn bytes)) ∧
      verdict = .rejected (.boundaryValue k) := by
  obtain ⟨hmatches, produced, hproduced, hcount, hfits, p, hshape, rfl, hjudge⟩ :=
    check_eq_ok_iff.1 haccepted
  obtain rfl := Except.ok.inj (hproduced.symm.trans hassertions)
  have hboundary : produced.length = p.boundary.length := hcount.trans hshape.boundary.symm
  have hcount' : others.length = key.numBoundary := by
    have hlen := congrArg List.length hplaces
    rw [List.length_map, List.length_map] at hlen
    exact hlen.trans hcount
  have hroots : p.roots = (List.range key.numColumns).map (ProofLayout.rootIn p.toBytes) :=
    hshape.roots_eq
  -- There was room for the coefficients before, which are as many as now.
  obtain ⟨ch, hdraw, -⟩ := (judge_eq_ok_iff (canonical_of_judge hjudge)).1 hjudge
  obtain ⟨hroom, -⟩ := Challenges.draw_isOk_iff.1 ⟨ch, hdraw⟩
  rw [check_toBytes_eq_ok_iff hmatches hothers hcount' hfits hshape,
    judge_of_differ hboundary hjudge hplaces hdiffer, Challenges.draw_isOk_iff, and_iff_right hroom,
    hroots]

end SpotCheck
