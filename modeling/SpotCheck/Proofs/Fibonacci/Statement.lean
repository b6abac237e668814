import SpotCheck.Proofs.Fibonacci.Detached
import SpotCheck.Proofs.Statement

/-!
# One statement for a proof of the sequence

The three asserted cells stand at the same places whatever the public values are, and these are the
public values in order. So a proof that is accepted is a proof for one choice of public inputs:
others differ in a first value, which is the ground of a rejection, or are not two values and one.
-/

namespace SpotCheck.Fibonacci

def publicValues (inputs : PublicInputs) : List Felt := inputs.initial ++ inputs.final

theorem publicValues_ne {inputs other : PublicInputs} (hshape : HasShape inputs)
    (hother : HasShape other) (hne : other ≠ inputs) :
    publicValues inputs ≠ publicValues other := by
  obtain ⟨initial, final⟩ := inputs
  obtain ⟨initial', final'⟩ := other
  intro hsame
  obtain ⟨rfl, rfl⟩ := List.append_inj hsame (hshape.1.trans hother.1.symm)
  exact hne rfl

theorem claims_of_shape {inputs : PublicInputs} (h : HasShape inputs) {rows : Nat}
    (hrows : 0 < rows) : ∃ claims, circuit.assertions inputs rows = .ok claims ∧
      claims.map (·.place) = [(0, 0), (0, 1), (0, rows - 1)] ∧
      claims.map (·.value) = publicValues inputs := by
  obtain ⟨initial, final⟩ := inputs
  obtain ⟨first, second, rfl⟩ := List.length_eq_two.1 h.1
  obtain ⟨output, rfl⟩ := List.length_eq_one_iff.1 h.2
  exact ⟨_, assertions_eq first second output hrows, rfl, rfl⟩

variable {key : Key} {bytes : Bytes} {inputs other : PublicInputs}

theorem hasShape_of_accepted (h : check key circuit bytes inputs = .ok .accepted) :
    HasShape inputs := by
  obtain ⟨-, claims, hclaims, -⟩ := check_eq_ok_iff.1 h
  by_contra hshape
  rw [assertions_of_not_shape hshape] at hclaims
  cases hclaims

theorem check_of_other_values (haccepted : check key circuit bytes inputs = .ok .accepted)
    (hshape : HasShape other) (hne : other ≠ inputs) :
    ∃ k, DifferFirstAt (publicValues inputs) (publicValues other) k ∧
      ∀ verdict, check key circuit bytes other = .ok verdict ↔
        Challenges.SearchEnds key other
          ((List.range key.numColumns).map (ProofLayout.rootIn bytes)) ∧
        verdict = .rejected (.boundaryValue k) := by
  have hshape' := hasShape_of_accepted haccepted
  obtain ⟨k, hdiffer⟩ := exists_differFirstAt (publicValues_ne hshape' hshape hne)
  obtain ⟨claims, hclaims, hplaces, hvalues⟩ := claims_of_shape hshape' key.numRows_pos
  obtain ⟨others, hothers, hplaces', hvalues'⟩ := claims_of_shape hshape key.numRows_pos
  refine ⟨k, hdiffer, fun verdict => ?_⟩
  rw [← hvalues, ← hvalues'] at hdiffer
  exact check_of_differ haccepted hclaims hothers (hplaces'.trans hplaces.symm) hdiffer

theorem check_of_not_shape (haccepted : check key circuit bytes inputs = .ok .accepted)
    (hshape : ¬ HasShape other) :
    check key circuit bytes other = Outcome.refuse (.publicInputs (wrongShape other)) := by
  obtain ⟨hmatches, -⟩ := check_eq_ok_iff.1 haccepted
  rw [check, if_pos hmatches, assertions_of_not_shape hshape]
  rfl

/-! ### Main theorem -/

/-- A proof serves one statement only. Under public inputs that assert other values for the same
cells, an accepted proof is rejected for the first of these, whenever the search for the rows to
query ends, and gets no other verdict. For the sequence there is no other choice of public inputs
under which it is accepted: all either differ in a first public value, for which the proof is
rejected, or have too few or too many values, which is refused. -/
theorem accepted_for_one_statement {key : Key} {bytes : Bytes} {inputs : PublicInputs} :
    (∀ {c : Circuit} {other : PublicInputs} {assertions others : List Assertion} {k : Nat},
      check key c bytes inputs = .ok .accepted →
      c.assertions inputs key.numRows = .ok assertions →
      c.assertions other key.numRows = .ok others →
      others.map (·.place) = assertions.map (·.place) →
      DifferFirstAt (assertions.map (·.value)) (others.map (·.value)) k →
      (Challenges.SearchEnds key other
          ((List.range key.numColumns).map (ProofLayout.rootIn bytes)) →
        check key c bytes other = .ok (.rejected (.boundaryValue k))) ∧
      ∀ verdict, check key c bytes other = .ok verdict →
        verdict = .rejected (.boundaryValue k)) ∧
    (check key circuit bytes inputs = .ok .accepted → ∀ other, other ≠ inputs →
      check key circuit bytes other ≠ .ok .accepted ∧
      (HasShape other → ∃ k, DifferFirstAt (publicValues inputs) (publicValues other) k ∧
        (Challenges.SearchEnds key other
            ((List.range key.numColumns).map (ProofLayout.rootIn bytes)) →
          check key circuit bytes other = .ok (.rejected (.boundaryValue k)))) ∧
      (¬ HasShape other →
        check key circuit bytes other = Outcome.refuse (.publicInputs (wrongShape other)))) := by
  constructor
  · intro c other assertions others k haccepted hassertions hothers hplaces hdiffer
    refine ⟨fun hsearch => ?_, fun verdict hverdict => ?_⟩
    · exact (check_of_differ haccepted hassertions hothers hplaces hdiffer).2 ⟨hsearch, rfl⟩
    · exact ((check_of_differ haccepted hassertions hothers hplaces hdiffer).1 hverdict).2
  · intro haccepted other hne
    refine ⟨fun hother => ?_, fun hshape => ?_, check_of_not_shape haccepted⟩
    · obtain ⟨k, -, hverdict⟩ :=
        check_of_other_values haccepted (hasShape_of_accepted hother) hne
      obtain ⟨-, hrejected⟩ := (hverdict _).1 hother
      cases hrejected
    · obtain ⟨k, hdiffer, hverdict⟩ := check_of_other_values haccepted hshape hne
      exact ⟨k, hdiffer, fun hsearch => (hverdict _).2 ⟨hsearch, rfl⟩⟩

/-- A proof for the values one, one and three is rejected for the third one when that is to be four,
and refused when a value is missing. -/
theorem accepted_for_one_statement_four_rows : ∃ p : Proof,
    check fourRowsKey circuit p.toBytes ⟨[⟨1⟩, ⟨1⟩], [⟨3⟩]⟩ = .ok .accepted ∧
      check fourRowsKey circuit p.toBytes ⟨[⟨1⟩, ⟨1⟩], [⟨4⟩]⟩ =
        .ok (.rejected (.boundaryValue 2)) ∧
      check fourRowsKey circuit p.toBytes ⟨[⟨1⟩], [⟨3⟩]⟩ =
        Outcome.refuse (.publicInputs (wrongShape ⟨[⟨1⟩], [⟨3⟩]⟩)) := by
  obtain ⟨p, -, haccepted⟩ := exists_accepted_four_rows
  have hinputs : Config.inputs ⟨2, 1, 1, none⟩ = ⟨[⟨1⟩, ⟨1⟩], [⟨3⟩]⟩ := by decide +kernel
  rw [hinputs] at haccepted
  have hsearch : Challenges.SearchEnds fourRowsKey ⟨[⟨1⟩, ⟨1⟩], [⟨4⟩]⟩
      ((List.range fourRowsKey.numColumns).map (ProofLayout.rootIn p.toBytes)) :=
    Challenges.searchEnds_of_one_query _ _ rfl (by decide)
  have hdiffer : DifferFirstAt [⟨1⟩, ⟨1⟩, ⟨3⟩] [⟨1⟩, ⟨1⟩, (⟨4⟩ : Felt)] 2 := ⟨rfl, by decide⟩
  obtain ⟨hrejected, -⟩ := accepted_for_one_statement.1 haccepted
    (assertions_eq ⟨1⟩ ⟨1⟩ ⟨3⟩ fourRowsKey.numRows_pos)
    (assertions_eq ⟨1⟩ ⟨1⟩ ⟨4⟩ fourRowsKey.numRows_pos) rfl hdiffer
  obtain ⟨-, -, hrefused⟩ := accepted_for_one_statement.2 haccepted ⟨[⟨1⟩], [⟨3⟩]⟩ (by decide)
  exact ⟨p, haccepted, hrejected hsearch, hrefused (by decide)⟩

end SpotCheck.Fibonacci
