import SpotCheck.Challenges
import SpotCheck.Proof.Decode
import SpotCheck.Text.Quoted

/-!
# Verification

The verifier reads a byte string against the layout of the key, derives the challenges from the
roots in it, and checks every opening and the composed constraint at each queried row. A byte
string that can be read gives a verdict; the first thing that is wrong is the ground of a
rejection.
-/

namespace SpotCheck

/-- How a circuit and public inputs can differ from what a key is for. -/
inductive KeyMismatch where
  | circuit (key evaluator : String)
  | assertionCount (produced expected : Nat)
  deriving DecidableEq

def KeyMismatch.message : KeyMismatch → String
  | .circuit key evaluator =>
    "key is for " ++ Text.quoted key ++ ", evaluator is " ++ Text.quoted evaluator
  | .assertionCount produced expected =>
    "public inputs produce " ++ toString produced ++ " boundary assertions, key expects " ++
      toString expected

inductive VerificationError where
  | format (cause : ProofFormatError)
  | keyMismatch (cause : KeyMismatch)
  | publicInputs (cause : ProvingError)
  deriving DecidableEq

def VerificationError.message : VerificationError → String
  | .format cause => "malformed proof: " ++ cause.message
  | .keyMismatch cause => "verification key does not match circuit: " ++ cause.message
  | .publicInputs cause => "invalid public inputs: " ++ cause.message

inductive Rejection where
  | nonCanonicalValue
  | boundaryValue (index : Nat)
  | boundaryPath (index : Nat)
  | queryPath (row column : Nat)
  | constraint (row : Nat)
  deriving DecidableEq

def Rejection.message : Rejection → String
  | .nonCanonicalValue => "non-canonical field element"
  | .boundaryValue index => "boundary assertion " ++ toString index ++ " not satisfied"
  | .boundaryPath index => "boundary opening " ++ toString index ++ " has an invalid path"
  | .queryPath row column =>
    "opening at row " ++ toString row ++ " column " ++ toString column ++ " has an invalid path"
  | .constraint row => "composed constraint non-zero at row " ++ toString row

inductive Verdict where
  | accepted
  | rejected (ground : Rejection)
  deriving DecidableEq

def Verdict.isAccepted : Verdict → Bool
  | accepted => true
  | rejected _ => false

/-! ### Openings -/

/-- Whether an opening stands at a place of the columns with the given roots. A column without a
root faults. -/
def Opening.standsAt (o : Opening) (roots : List Digest) (column row : Nat) :
    Except Fault Bool :=
  match roots[column]? with
  | some root => .ok (o.authenticates row root)
  | none => .error (.outOfBounds roots.length column)

/-- Checks the openings of the asserted cells, numbered from `index` on. -/
def checkBoundaryOpenings (roots : List Digest) (index : Nat) :
    List Assertion → List Opening → Except Fault Verdict
  | a :: assertions, o :: openings =>
    if o.value ≠ a.value then .ok (.rejected (.boundaryValue index))
    else do
      if ← o.standsAt roots a.column a.row then
        checkBoundaryOpenings roots (index + 1) assertions openings
      else .ok (.rejected (.boundaryPath index))
  | _, _ => .ok .accepted

/-- Checks the openings of the window at a row, numbered from `index` on. -/
def checkWindowOpenings (roots : List Digest) (width row index : Nat) :
    List Opening → Except Fault Verdict
  | [] => .ok .accepted
  | o :: openings => do
    let place := row + index / width
    let column := index % width
    if ← o.standsAt roots column place then
      checkWindowOpenings roots width row (index + 1) openings
    else .ok (.rejected (.queryPath place column))

/-- Checks the queries: first the paths of a window, then the composed constraint on its frame. -/
def checkQueries (key : Key) (c : Circuit) (roots : List Digest) (coefficients : List Felt) :
    List Nat → List (List Opening) → Except Fault Verdict
  | row :: rows, openings :: queries => do
    match ← checkWindowOpenings roots key.numColumns row 0 openings with
    | .rejected ground => .ok (.rejected ground)
    | .accepted =>
      let evals ← c.evaluate ⟨openings.map (·.value), key.numColumns⟩
      if (composeRow evals coefficients (key.rowWeight row)).isZero then
        checkQueries key c roots coefficients rows queries
      else .ok (.rejected (.constraint row))
  | _, _ => .ok .accepted

/-- The verdict on a proof that has been read. -/
def judge (key : Key) (c : Circuit) (inputs : PublicInputs) (assertions : List Assertion)
    (proof : Proof) : Except Fault Verdict :=
  if proof.openings.all (·.value.IsCanonical) then do
    let ch ← Challenges.draw key inputs proof.roots
    match ← checkBoundaryOpenings proof.roots 0 assertions proof.boundary with
    | .rejected ground => .ok (.rejected ground)
    | .accepted => checkQueries key c proof.roots ch.coefficients ch.rows proof.queries
  else .ok (.rejected .nonCanonicalValue)

/-- The circuit is the one that the key is for. -/
def Key.matches (key : Key) (c : Circuit) : Bool :=
  c.id = key.circuitId && c.numColumns = key.numColumns && c.window = key.window &&
    c.constraintNames.length = key.numConstraints

/-- The verdict on a byte string of the stated length. -/
def check (key : Key) (c : Circuit) (bytes : Bytes) (inputs : PublicInputs)
    (length : Nat := bytes.length) : Outcome VerificationError Verdict :=
  if key.matches c then do
    let assertions ← Outcome.relabel .publicInputs (c.assertions inputs key.numRows)
    if assertions.length ≠ key.numBoundary then
      Outcome.refuse (.keyMismatch (.assertionCount assertions.length key.numBoundary))
    else
      let proof ← Outcome.relabel .format (Proof.ofBytes key.layout bytes length)
      Outcome.ofFaulting (judge key c inputs assertions proof)
  else Outcome.refuse (.keyMismatch (.circuit key.circuitId c.id))

/-- Whether a byte string of the stated length is accepted. -/
def verify (key : Key) (c : Circuit) (bytes : Bytes) (inputs : PublicInputs)
    (length : Nat := bytes.length) : Outcome VerificationError Bool :=
  (check key c bytes inputs length).map Verdict.isAccepted

end SpotCheck
