import SpotCheck.Proofs.Soundness

/-!
# Accepted proofs are not malleable

The roots of an accepted proof leave no choice for what stands behind them: each opening is under
one of the roots, at a place that the roots and the assertions fix. The other way round, an opening
at the place of an assertion fixes the root of its column, whatever the digest is like.
-/

namespace SpotCheck

/-! ### One opening at a place -/

/-- Under given roots only one opening of a length stands at a place. -/
theorem Opening.eq_of_standsAt {o o' : Opening} {roots : List Digest} {column row : Nat}
    (hfree : CollisionFree (o.messages row ++ o'.messages row))
    (hlen : o.siblings.length = o'.siblings.length)
    (h : o.standsAt roots column row = .ok true) (h' : o'.standsAt roots column row = .ok true) :
    o = o' := by
  rw [standsAt_eq_ok_iff] at h h'
  have hclimb := Option.some.inj (h.symm.trans h')
  obtain ⟨hvalue, hsiblings⟩ := Merkle.eq_of_path_eq hfree hlen hclimb
  obtain ⟨value, siblings⟩ := o
  obtain ⟨value', siblings'⟩ := o'
  rw [Opening.mk.injEq]
  exact ⟨hvalue, hsiblings⟩

/-! ### One proof under given roots -/

namespace Proof

variable {p p' : Proof} {key : Key} {c : Circuit} {assertions : List Assertion} {ch : Challenges}

theorem boundary_unique {roots : List Digest} (hshape : p.Shaped key.layout)
    (hshape' : p'.Shaped key.layout)
    (hfree : CollisionFree (p.messages key assertions ch.rows ++
      p'.messages key assertions ch.rows))
    (h : List.Forall₂ (fun a o => o.value = a.value ∧ o.standsAt roots a.column a.row = .ok true)
      assertions p.boundary)
    (h' : List.Forall₂ (fun a o => o.value = a.value ∧ o.standsAt roots a.column a.row = .ok true)
      assertions p'.boundary) : p.boundary = p'.boundary := by
  refine eq_of_forall₂ h h' fun a o o' ho ho' hstands hstands' => ?_
  have hlen := hshape.siblings_boundary (List.of_mem_zip ho).2
  have hlen' := hshape'.siblings_boundary (List.of_mem_zip ho').2
  have hmessages := hfree.append (messages_of_boundary ho) (messages_of_boundary ho')
  exact Opening.eq_of_standsAt hmessages (hlen.trans hlen'.symm) hstands.2 hstands'.2

theorem queries_unique {roots : List Digest} (hshape : p.Shaped key.layout)
    (hshape' : p'.Shaped key.layout)
    (hfree : CollisionFree (p.messages key assertions ch.rows ++
      p'.messages key assertions ch.rows))
    (h : List.Forall₂ (QueryPasses key c roots ch.coefficients) ch.rows p.queries)
    (h' : List.Forall₂ (QueryPasses key c roots ch.coefficients) ch.rows p'.queries) :
    p.queries = p'.queries := by
  refine eq_of_forall₂ h h' fun row openings openings' hrow hrow' hpasses hpasses' => ?_
  refine eq_of_forall₂ hpasses.stands hpasses'.stands fun place o o' ho ho' hstands hstands' => ?_
  have hlen := hshape.siblings_query (List.of_mem_zip hrow).2 (List.of_mem_zip ho).2
  have hlen' := hshape'.siblings_query (List.of_mem_zip hrow').2 (List.of_mem_zip ho').2
  have hmessages := hfree.append (messages_of_query hrow ho) (messages_of_query hrow' ho')
  exact Opening.eq_of_standsAt hmessages (hlen.trans hlen'.symm) hstands hstands'

/-- What stands behind the roots determines the openings. -/
theorem boundary_eq_of_drop (hshape : p.Shaped key.layout) (hshape' : p'.Shaped key.layout)
    (h : p.toBytes.drop (32 * key.numColumns) = p'.toBytes.drop (32 * key.numColumns)) :
    p.boundary = p'.boundary := by
  rw [hshape.boundary_eq, hshape'.boundary_eq]
  exact List.map_congr_left fun number _ => Opening.inBytes_congr h ..

/-- The same opening at the place of an assertion leads to the same root, under whichever roots it
stands. -/
theorem root_eq_of_boundary (hshape : p.Shaped key.layout) (hshape' : p'.Shaped key.layout)
    (hsame : p.boundary = p'.boundary)
    (h : List.Forall₂ (fun a o => o.value = a.value ∧ o.standsAt p.roots a.column a.row = .ok true)
      assertions p.boundary)
    (h' : List.Forall₂
      (fun a o => o.value = a.value ∧ o.standsAt p'.roots a.column a.row = .ok true)
      assertions p'.boundary) {a : Assertion} (ha : a ∈ assertions) :
    a.column < key.numColumns ∧
      ProofLayout.rootIn p.toBytes a.column = ProofLayout.rootIn p'.toBytes a.column := by
  rw [← hsame] at h'
  obtain ⟨j, hj⟩ := List.mem_iff_getElem?.1 ha
  obtain ⟨o, ho, -, hstands⟩ := exists_getElem?_right h hj
  obtain ⟨o', ho', -, hstands'⟩ := exists_getElem?_right h' hj
  obtain rfl : o = o' := Option.some.inj (ho.symm.trans ho')
  rw [Opening.standsAt_eq_ok_iff] at hstands hstands'
  have hcolumn := (List.getElem?_eq_some_iff.1 hstands).1
  rw [hshape.roots] at hcolumn
  exact ⟨hcolumn, (hshape.rootIn_toBytes hstands).trans (hshape'.rootIn_toBytes hstands').symm⟩

end Proof

/-! ### Main theorem -/

/-- The messages hashed when all the paths of a byte string are checked. There are none for a byte
string on which the checks do not begin. -/
def checkedMessages (key : Key) (c : Circuit) (inputs : PublicInputs) (bytes : Bytes) :
    List Bytes :=
  match c.assertions inputs key.numRows, Proof.ofBytes key.layout bytes with
  | .ok assertions, .ok p =>
    match Challenges.draw key inputs p.roots with
    | .ok ch => p.messages key assertions ch.rows
    | .error _ => []
  | _, _ => []

theorem checkedMessages_toBytes {key : Key} {c : Circuit} {inputs : PublicInputs}
    {assertions : List Assertion} {p : Proof} {ch : Challenges}
    (hassertions : c.assertions inputs key.numRows = .ok assertions) (hfits : key.layout.Fits)
    (hshape : p.Shaped key.layout) (hdraw : Challenges.draw key inputs p.roots = .ok ch) :
    checkedMessages key c inputs p.toBytes = p.messages key assertions ch.rows := by
  have hread : Proof.ofBytes key.layout p.toBytes = .ok p :=
    Proof.ofBytes_eq_ok_iff.2 ⟨hfits, hshape, rfl⟩
  simp only [checkedMessages, hassertions, hread, hdraw]

/-- Two byte strings that are both accepted are the same once their roots are, unless two different
messages with one digest are among those that were hashed. Once they are the same behind the roots,
the columns with an assertion have the same roots. -/
theorem accepted_not_malleable {key : Key} {c : Circuit} {inputs : PublicInputs}
    {bytes bytes' : Bytes} (hkey : key.IsStandard)
    (haccepted : check key c bytes inputs = .ok .accepted)
    (haccepted' : check key c bytes' inputs = .ok .accepted) :
    (CollisionFree (checkedMessages key c inputs bytes ++ checkedMessages key c inputs bytes') →
      bytes.take (32 * key.numColumns) = bytes'.take (32 * key.numColumns) → bytes = bytes') ∧
    (bytes.drop (32 * key.numColumns) = bytes'.drop (32 * key.numColumns) →
      ∃ assertions, c.assertions inputs key.numRows = .ok assertions ∧ ∀ a ∈ assertions,
        a.column < key.numColumns ∧
          ProofLayout.rootIn bytes a.column = ProofLayout.rootIn bytes' a.column) := by
  obtain ⟨-, assertions, hassertions, hcount, hfits, p, hshape, rfl, hjudge⟩ :=
    check_eq_ok_iff.1 haccepted
  obtain ⟨-, assertions', hassertions', -, -, p', hshape', rfl, hjudge'⟩ :=
    check_eq_ok_iff.1 haccepted'
  obtain rfl : assertions = assertions' := Except.ok.inj (hassertions.symm.trans hassertions')
  obtain ⟨-, ch, hdraw, hboundary, hpasses⟩ :=
    (judge_eq_accepted_iff hshape hcount hkey.queriesFit).1 hjudge
  obtain ⟨-, ch', hdraw', hboundary', hpasses'⟩ :=
    (judge_eq_accepted_iff hshape' hcount hkey.queriesFit).1 hjudge'
  constructor
  · intro hfree htake
    have hroots : p.roots = p'.roots :=
      hshape.roots_unique hshape'.roots (htake.trans hshape'.take_toBytes)
    rw [← hroots] at hdraw' hboundary' hpasses'
    -- The same roots lead to the same challenges, hence to the same places.
    obtain rfl : ch = ch' := Except.ok.inj (hdraw.symm.trans hdraw')
    rw [checkedMessages_toBytes hassertions hfits hshape hdraw,
      checkedMessages_toBytes hassertions hfits hshape' (hroots ▸ hdraw)] at hfree
    have hfirst := Proof.boundary_unique hshape hshape' hfree hboundary hboundary'
    have hrest := Proof.queries_unique hshape hshape' hfree hpasses hpasses'
    rw [Proof.toBytes_eq, Proof.toBytes_eq, hroots, hfirst, hrest]
  · intro hdrop
    have hopenings := Proof.boundary_eq_of_drop hshape hshape' hdrop
    exact ⟨assertions, hassertions, fun a ha =>
      Proof.root_eq_of_boundary hshape hshape' hopenings hboundary hboundary' ha⟩

/-! ### A column without assertion -/

namespace Unasserted

/-- Two columns, of which only the first has an assertion, and no constraint. -/
def circuit : Circuit where
  id := "unasserted"
  numColumns := 2
  evaluate _ := .ok []
  constraintNames := []
  assertions _ _ := .ok [⟨0, 0, ⟨5⟩⟩]

/-- The key of the circuit for two rows, one of which is queried. -/
def key : Key :=
  { Constant.key with
    circuitId := "unasserted"
    numColumns := 2
    window := 1
    numConstraints := 0
    stringDigest := ReferenceString.pointsDigest [.one, .one]
    rowWeights := [.one, .one]
    one_le_window := Nat.one_pos
    window_le := by decide }

theorem setup_eq_key : Key.setup circuit 1 .empty ⟨1⟩ ⟨[.one, .one]⟩ = .ok key := rfl

/-- The roots when the second column holds seven at a row and zero at the other. -/
def roots (row : Nat) : List Digest :=
  Constant.trace.roots ++ [Merkle.climb (Merkle.leafDigest ⟨7⟩) row [Merkle.leafDigest ⟨0⟩]]

/-- The openings under these roots, the last one with a value that is given. -/
def proof (row : Nat) (value : Felt) : Proof :=
  ⟨roots row, [Constant.opening], [[Constant.opening, ⟨value, [Merkle.leafDigest ⟨0⟩]⟩]]⟩

theorem proof_shaped (row : Nat) (value : Felt) : (proof row value).Shaped key.layout where
  roots := rfl
  boundary := rfl
  queries := rfl
  windows := List.forall_mem_singleton.2 rfl
  siblings := List.forall_mem_cons.2 ⟨rfl, List.forall_mem_cons.2
    ⟨rfl, List.forall_mem_singleton.2 rfl⟩⟩

theorem openings_eq (row : Nat) (value : Felt) : (proof row value).openings =
    [Constant.opening, Constant.opening, ⟨value, [Merkle.leafDigest ⟨0⟩]⟩] := rfl

theorem fits : key.layout.Fits :=
  (ProofLayout.proofSize_eq_ok_iff.1 (show _ = Except.ok 172 from rfl)).2

theorem draw_eq_row (roots : List Digest) : Challenges.draw key .empty roots =
    .ok ⟨[], [(Transcript.scalarAt (seedTranscript key .empty roots).state 1).toNat % 2]⟩ := by
  have hdrawn := drawn_seedTranscript key .empty roots
  have hlimit : (seedTranscript key .empty roots).drawn + 1 < Word.limit := by
    rw [hdrawn]
    decide
  have hindices := Transcript.indices_one (show 0 < 2 by decide) hlimit
  rw [hdrawn] at hindices
  show ((seedTranscript key .empty roots).indices 1 2 >>= _) = _
  rw [hindices]
  rfl

/-- Each row is the one that is queried under its own roots. -/
theorem draw_eq : Challenges.draw key .empty (roots 0) = .ok ⟨[], [0]⟩ ∧
    Challenges.draw key .empty (roots 1) = .ok ⟨[], [1]⟩ := by
  rw [draw_eq_row, draw_eq_row]
  decide +kernel

/-- The cells of the first column are equal, so that either side of their parent will do. -/
theorem first_standsAt (row place : Nat) :
    Constant.opening.standsAt (roots row) 0 place = .ok true := by
  have hparent : Merkle.parent place (Merkle.leafDigest ⟨5⟩) (Merkle.leafDigest ⟨5⟩) =
      Merkle.pairDigest (Merkle.leafDigest ⟨5⟩) (Merkle.leafDigest ⟨5⟩) := ite_self _
  rw [Opening.standsAt_eq_ok_iff, Constant.opening, Merkle.climb_cons, hparent]
  rfl

theorem check_eq {row : Nat}
    (hdraw : Challenges.draw key .empty (roots row) = .ok ⟨[], [row]⟩) :
    check key circuit (proof row ⟨7⟩).toBytes .empty = .ok .accepted := by
  have hsecond : Opening.standsAt ⟨⟨7⟩, [Merkle.leafDigest ⟨0⟩]⟩ (roots row) 1 row = .ok true :=
    Opening.standsAt_eq_ok_iff.2 rfl
  have hcanonical : ∀ o ∈ (proof row ⟨7⟩).openings, o.value.IsCanonical := by
    rw [openings_eq]
    decide
  have hasserted : List.Forall₂ (fun (a : Assertion) (o : Opening) =>
      o.value = a.value ∧ o.standsAt (roots row) a.column a.row = .ok true)
      [⟨0, 0, ⟨5⟩⟩] [Constant.opening] := .cons ⟨rfl, first_standsAt row 0⟩ .nil
  have hpasses : QueryPasses key circuit (roots row) [] row
      [Constant.opening, ⟨⟨7⟩, [Merkle.leafDigest ⟨0⟩]⟩] :=
    ⟨.cons (first_standsAt row row) (.cons hsecond .nil), [], rfl,
      Felt.isZero_iff.2 (composeRow_of_zero (by simp) ..)⟩
  have hjudge := (judge_eq_accepted_iff (proof_shaped row ⟨7⟩) rfl (Nat.le_succ 1)).2
    ⟨hcanonical, _, hdraw, hasserted, .cons hpasses .nil⟩
  exact check_eq_ok_iff.2 ⟨rfl, _, rfl, rfl, fits, _, proof_shaped row ⟨7⟩, rfl, hjudge⟩

theorem check_zero : check key circuit (proof 0 ⟨7⟩).toBytes .empty = .ok .accepted :=
  check_eq draw_eq.1

theorem check_one : check key circuit (proof 1 ⟨7⟩).toBytes .empty = .ok .accepted :=
  check_eq draw_eq.2

theorem checkedMessages_eq (value : Felt) :
    checkedMessages key circuit .empty (proof 0 value).toBytes =
      (proof 0 value).messages key [⟨0, 0, ⟨5⟩⟩] [0] :=
  checkedMessages_toBytes rfl fits (proof_shaped 0 value) draw_eq.1

theorem collisionFree : CollisionFree ((proof 0 ⟨7⟩).messages key [⟨0, 0, ⟨5⟩⟩] [0] ++
    (proof 0 ⟨8⟩).messages key [⟨0, 0, ⟨5⟩⟩] [0]) := by
  decide +kernel

end Unasserted

/-- Two proofs are accepted that differ in the root of the column without assertion alone, so that
the root of the other column has to be the same. Under the roots of the first one another value is
not accepted. -/
theorem accepted_not_malleable_unasserted :
    check Unasserted.key Unasserted.circuit (Unasserted.proof 0 ⟨7⟩).toBytes .empty =
        .ok .accepted ∧
      check Unasserted.key Unasserted.circuit (Unasserted.proof 1 ⟨7⟩).toBytes .empty =
        .ok .accepted ∧
      ProofLayout.rootIn (Unasserted.proof 0 ⟨7⟩).toBytes 0 =
        ProofLayout.rootIn (Unasserted.proof 1 ⟨7⟩).toBytes 0 ∧
      check Unasserted.key Unasserted.circuit (Unasserted.proof 0 ⟨8⟩).toBytes .empty ≠
        .ok .accepted := by
  have hkey : Unasserted.key.IsStandard :=
    .inr ⟨_, _, _, _, _, fun _ => rfl, Unasserted.setup_eq_key⟩
  obtain ⟨-, hroots⟩ :=
    accepted_not_malleable hkey Unasserted.check_zero Unasserted.check_one
  have hdrop : (Unasserted.proof 0 ⟨7⟩).toBytes.drop (32 * Unasserted.key.numColumns) =
      (Unasserted.proof 1 ⟨7⟩).toBytes.drop (32 * Unasserted.key.numColumns) := by
    have hzero := (Unasserted.proof_shaped 0 ⟨7⟩).drop_toBytes
    have hone := (Unasserted.proof_shaped 1 ⟨7⟩).drop_toBytes
    rw [Unasserted.openings_eq] at hzero hone
    exact hzero.trans hone.symm
  obtain ⟨assertions, hassertions, hsame⟩ := hroots hdrop
  cases hassertions
  refine ⟨Unasserted.check_zero, Unasserted.check_one, (hsame ⟨0, 0, ⟨5⟩⟩ (by simp)).2,
    fun haccepted => ?_⟩
  obtain ⟨hunique, -⟩ := accepted_not_malleable hkey Unasserted.check_zero haccepted
  rw [Unasserted.checkedMessages_eq, Unasserted.checkedMessages_eq] at hunique
  have hbytes := hunique Unasserted.collisionFree
    ((Unasserted.proof_shaped 0 ⟨7⟩).take_toBytes.trans
      (Unasserted.proof_shaped 0 ⟨8⟩).take_toBytes.symm)
  have hseven := (Unasserted.proof_shaped 0 ⟨7⟩).openingIn_toBytes (show _[2]? = some _ from rfl)
  have height := (Unasserted.proof_shaped 0 ⟨8⟩).openingIn_toBytes (show _[2]? = some _ from rfl)
  rw [hbytes, height] at hseven
  exact absurd (congrArg Opening.value hseven) (by decide)

end SpotCheck
