import SpotCheck.Key.Codec
import SpotCheck.Transcript

/-!
# Challenges

The transcript of a proof starts with the key, the public inputs and the roots of the committed
columns. From it prover and verifier draw the coefficients of the constraints and the rows to
query.
-/

namespace SpotCheck

/-- The transcript once the columns are committed. -/
def seedTranscript (key : Key) (inputs : PublicInputs) (roots : List Digest) : Transcript :=
  roots.foldl Transcript.append ((Transcript.start.append key.digest).append inputs.digest)

structure Challenges where
  coefficients : List Felt
  rows : List Nat
  deriving DecidableEq

/-- One coefficient per constraint, then the queried rows. -/
def Challenges.draw (key : Key) (inputs : PublicInputs) (roots : List Digest) :
    Except Fault Challenges := do
  let (coefficients, t) ← (seedTranscript key inputs roots).scalars key.numConstraints
  let (rows, _) ← t.indices key.numQueries key.transitionRows
  .ok ⟨coefficients, rows⟩

end SpotCheck
