import SpotCheck.Fibonacci.Circuit
import SpotCheck.ProvingContext
import SpotCheck.ReferenceString.Provider
import SpotCheck.Session.Ledger
import SpotCheck.Session.Lifecycle

/-!
# Sessions of the Fibonacci circuit

A session pairs a witness with a proving context. It takes its reference string from the provider
of its host and is entered in the host's ledger. What a session has made, a stored key and a
proof, can be verified without it.
-/

namespace SpotCheck.Fibonacci

inductive SessionError where
  | config (cause : ConfigError)
  | string (cause : ReferenceString.Error)
  | key (cause : KeyError)
  | proving (cause : ProvingError)
  | verification (cause : VerificationError)
  deriving DecidableEq

def SessionError.message : SessionError → String
  | config cause => cause.message
  | string cause => cause.message
  | key cause => cause.message
  | proving cause => cause.message
  | verification cause => cause.message

/-- What a session takes from its surroundings. -/
structure Host where
  files : Files
  provider : Provider
  ledger : SessionLedger

namespace Host

def request (host : Host) (least : Nat) :
    Outcome ReferenceString.Error ReferenceString × Host :=
  let (answer, provider) := host.provider.request host.files least
  (answer, { host with provider := provider })

end Host

structure Session where
  witness : Witness
  context : ProvingContext

namespace Session

/-- Builds a session. It is entered in the ledger when all else has succeeded. -/
def build (config : Config) (prover : ProverConfig) (host : Host) :
    Outcome SessionError Session × Host :=
  match Witness.ofConfig config with
  | .error cause => (Outcome.refuse (.config cause), host)
  | .ok witness =>
    match host.request witness.trace.numRows with
    | (.error stop, host) => (Outcome.relabel .string (.error stop), host)
    | (.ok string, host) =>
      match ProvingContext.setup circuit config.logRows witness.inputs string prover with
      | .error stop => (Outcome.relabel .key (.error stop), host)
      | .ok context => (.ok ⟨witness, context⟩, { host with ledger := host.ledger.enter })

def createProof (s : Session) : Outcome SessionError Bytes × Session :=
  let (answer, context) := s.context.createProof circuit s.witness.trace s.witness.inputs
  (Outcome.relabel .proving answer, { s with context := context })

def verifyProof (s : Session) (bytes : Bytes) (length : Nat := bytes.length) :
    Outcome SessionError Bool :=
  Outcome.relabel .verification (s.context.verifyProof circuit bytes s.witness.inputs length)

def checkProof (s : Session) (bytes : Bytes) : Outcome SessionError Verdict :=
  Outcome.relabel .verification (s.context.checkProof circuit bytes s.witness.inputs)

def release (_ : Session) (host : Host) : Host := { host with ledger := host.ledger.leave }

end Session

def proofSystem (config : Config) (prover : ProverConfig) :
    ProofSystem Host Session SessionError where
  build := Session.build config prover
  synthesize session host :=
    let (answer, session) := session.createProof
    (answer, session, host)
  verify session bytes host := (session.verifyProof bytes, session, host)
  release session host := (.ok (), session.release host)
  describe := SessionError.message

/-- Verifies a proof against a stored key, both of the stated lengths, without a session. -/
def verifyDetached (host : Host) (keyBytes proof : Bytes) (inputs : PublicInputs)
    (keyLength : Nat := keyBytes.length) (proofLength : Nat := proof.length) :
    Outcome SessionError Bool × Host :=
  match host.request 0 with
  | (.error stop, host) => (Outcome.relabel .string (.error stop), host)
  | (.ok string, host) =>
    match Key.ofBytes keyBytes string keyLength with
    | .error cause => (Outcome.refuse (.key cause), host)
    | .ok key => (Outcome.relabel .verification (verify key circuit proof inputs proofLength), host)

end SpotCheck.Fibonacci
