import SpotCheck.Challenges
import SpotCheck.Proof.Basic

/-!
# Proving

The prover first checks the trace against the circuit, in the clear. It then commits to every
column, draws the challenges, makes sure that the composition vanishes on the queried rows, and
opens the asserted cells and a window of rows at each query.
-/

namespace SpotCheck

/-- The trace has the shape that the key is for. -/
def Key.checkShape (key : Key) (t : Trace) : Except ProvingError Unit :=
  if t.numRows ≠ key.numRows ∨ t.numColumns ≠ key.numColumns then
    .error (.traceShape t.numRows t.numColumns key.numRows key.numColumns)
  else .ok ()

/-- The assertions are as many as the key is for. -/
def Key.checkAssertions (key : Key) (assertions : List Assertion) : Except ProvingError Unit :=
  if assertions.length ≠ key.numBoundary then
    .error (.assertionCount assertions.length key.numBoundary)
  else .ok ()

/-- All constraints hold; the first violation is reported with the number of all. -/
def Circuit.checkConstraints (c : Circuit) (t : Trace) : Outcome ProvingError Unit := do
  match ← Outcome.ofFaulting (c.violations t) with
  | [] => .ok ()
  | (row, name) :: rest => Outcome.refuse (.constraint name row (rest.length + 1))

/-- The trace is a witness for the public inputs; gives the assertions that it satisfies. -/
def Circuit.checkWitness (c : Circuit) (key : Key) (t : Trace) (inputs : PublicInputs) :
    Outcome ProvingError (List Assertion) := do
  Outcome.ofResult t.validate
  Outcome.ofResult (key.checkShape t)
  let assertions ← c.assertions inputs t.numRows
  Outcome.ofResult (key.checkAssertions assertions)
  Outcome.ofResult (checkBoundary t assertions)
  c.checkConstraints t
  .ok assertions

def frameAt (t : Trace) (window row : Nat) : Outcome ProvingError Frame := do
  match ← Outcome.ofFaulting (Frame.ofTrace t row window) with
  | some frame => .ok frame
  | none => Outcome.refuse (.noFrame row)

/-- The first row whose composition is not zero. -/
def firstNonZero : List Nat → List Felt → Option Nat
  | row :: rows, value :: values => if value.isZero then firstNonZero rows values else some row
  | _, _ => none

/-- The composition vanishes on the queried rows. -/
def Circuit.checkComposition (c : Circuit) (key : Key) (t : Trace) (ch : Challenges) :
    Outcome ProvingError Unit := do
  let frames ← ch.rows.mapM (frameAt t c.window)
  let evals ← Outcome.ofFaulting (frames.mapM c.evaluate)
  match firstNonZero ch.rows (composeRows evals ch.coefficients (ch.rows.map key.rowWeight)) with
  | some row => Outcome.refuse (.nonVanishing row)
  | none => .ok ()

def commitTrace (t : Trace) : List Merkle.Commitment :=
  t.columns.map fun column => Merkle.Commitment.commit column.values.toList

def openCell (commitments : List Merkle.Commitment) (column row : Nat) :
    Except ProvingError Opening :=
  match commitments[column]? with
  | none => .error (.unopened row column)
  | some commitment =>
    match commitment.opening? row with
    | none => .error (.unopened row column)
    | some (value, path) => .ok ⟨value, path.siblings⟩

/-- The places of a window, row by row and column by column. -/
def windowPlaces (window columns : Nat) : List (Nat × Nat) :=
  (List.range window).flatMap fun offset => (List.range columns).map fun column => (offset, column)

def openWindow (commitments : List Merkle.Commitment) (window row : Nat) :
    Except ProvingError (List Opening) :=
  (windowPlaces window commitments.length).mapM fun (offset, column) =>
    openCell commitments column (row + offset)

/-- The openings that the assertions and the challenges ask for. -/
def openProof (commitments : List Merkle.Commitment) (assertions : List Assertion)
    (window : Nat) (rows : List Nat) : Except ProvingError Proof := do
  let boundary ← assertions.mapM fun a => openCell commitments a.column a.row
  let queries ← rows.mapM (openWindow commitments window)
  .ok ⟨commitments.map (·.root), boundary, queries⟩

/-- A proof that the trace is a witness for the public inputs. -/
def prove (key : Key) (c : Circuit) (t : Trace) (inputs : PublicInputs) :
    Outcome ProvingError Proof := do
  let assertions ← c.checkWitness key t inputs
  let commitments := commitTrace t
  let ch ← Outcome.ofFaulting (Challenges.draw key inputs (commitments.map (·.root)))
  c.checkComposition key t ch
  Outcome.ofResult (openProof commitments assertions c.window ch.rows)

end SpotCheck
