import SpotCheck.Proving
import SpotCheck.Verification

/-!
# Proving contexts

A session holds a reference string and the key derived from it, makes proofs as byte strings and
counts them.
-/

namespace SpotCheck

structure ProvingContext where
  string : ReferenceString
  key : Key
  proofsCreated : Nat

namespace ProvingContext

def setup (c : Circuit) (logRows : Nat) (inputs : PublicInputs) (string : ReferenceString)
    (config : ProverConfig) : Outcome KeyError ProvingContext := do
  let key ← Key.setup c logRows inputs config string
  .ok ⟨string, key, 0⟩

/-- A proof as a byte string; only proofs that are made are counted. -/
def createProof (ctx : ProvingContext) (c : Circuit) (t : Trace) (inputs : PublicInputs) :
    Outcome ProvingError Bytes × ProvingContext :=
  match prove ctx.key c t inputs with
  | .ok proof => (.ok proof.toBytes, { ctx with proofsCreated := ctx.proofsCreated + 1 })
  | .error stop => (.error stop, ctx)

def verifyProof (ctx : ProvingContext) (c : Circuit) (bytes : Bytes) (inputs : PublicInputs)
    (length : Nat := bytes.length) : Outcome VerificationError Bool :=
  verify ctx.key c bytes inputs length

def checkProof (ctx : ProvingContext) (c : Circuit) (bytes : Bytes) (inputs : PublicInputs) :
    Outcome VerificationError Verdict :=
  check ctx.key c bytes inputs

end ProvingContext

end SpotCheck
