import SpotCheck.Fibonacci.Session
import SpotCheck.Hex
import SpotCheck.Json.Record

/-!
# Proof bundles

A bundle is all that a verifier needs besides the reference string: the parameters of the circuit,
the public inputs, the stored key and the proof. It is written as a JSON record, with the key and
the proof in hexadecimal.
-/

namespace SpotCheck

structure ProofBundle where
  config : Fibonacci.Config
  initial : List UInt32
  final : List UInt32
  keyText : String
  proofText : String

/-- Why a bundle gives no statement to verify. -/
inductive BundleError where
  | keyNotHex (cause : Hex.Malformed)
  | proofNotHex (cause : Hex.Malformed)
  | notInField (value : UInt32)
  | logRows (claimed actual : Nat)
  deriving DecidableEq

/-- The texts of an error, each with its cause after it. -/
def BundleError.chain : BundleError → List String
  | .keyNotHex cause => ["verification key is not hex", cause.message]
  | .proofNotHex cause => ["proof is not hex", cause.message]
  | .notInField value => ["public input " ++ toString value.toNat ++ " is not a field element"]
  | .logRows claimed actual =>
    ["bundle claims log_rows " ++ toString claimed ++ " but the key has " ++ toString actual]

namespace ProofBundle

def make (config : Fibonacci.Config) (inputs : PublicInputs) (key proof : Bytes) :
    ProofBundle where
  config := config
  initial := inputs.initial.map Felt.raw
  final := inputs.final.map Felt.raw
  keyText := Hex.encode key
  proofText := Hex.encode proof

def elements (words : List UInt32) : Except BundleError (List Felt) :=
  words.mapM fun word =>
    if word.toNat < modulus then .ok (Felt.ofWord word) else .error (.notInField word)

def publicInputs (b : ProofBundle) : Except BundleError PublicInputs := do
  let initial ← elements b.initial
  let final ← elements b.final
  .ok ⟨initial, final⟩

def keyBytes (b : ProofBundle) : Except BundleError Bytes :=
  (Hex.decode b.keyText).mapError .keyNotHex

def proofBytes (b : ProofBundle) : Except BundleError Bytes :=
  (Hex.decode b.proofText).mapError .proofNotHex

def words (list : List UInt32) : Json := .array (list.map fun word => Json.ofNat word.toNat)

def toJson (b : ProofBundle) : Json :=
  Json.record [
    ("circuit", b.config.toJson),
    ("initial_state", words b.initial),
    ("final_state", words b.final),
    ("verification_key", Json.ofText b.keyText),
    ("proof", Json.ofText b.proofText)]

def render (b : ProofBundle) : String := b.toJson.render

def ofJson? (v : Json) : Option ProofBundle := do
  match ← v.fields? ["circuit", "initial_state", "final_state", "verification_key", "proof"] with
  | [config, initial, final, keyText, proofText] =>
    some {
      config := ← Json.required Fibonacci.Config.ofJson? config
      initial := ← Json.required (Json.list? Json.word32?) initial
      final := ← Json.required (Json.list? Json.word32?) final
      keyText := ← Json.required Json.text? keyText
      proofText := ← Json.required Json.text? proofText }
  | _ => none

def parse? (text : String) : Option ProofBundle := do ofJson? (← Json.parse? text)

end ProofBundle

end SpotCheck
