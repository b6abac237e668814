import SpotCheck.Boundary.Arguments
import SpotCheck.LogFilter
import SpotCheck.Text.Utf8

/-!
# Foreign calls

The library keeps the installed provider, the sessions that foreign callers hold, and for every
thread the latest diagnostic, as long as the thread lasts. A call changes this state and the places
it was given. Every refusal and every fault ends up as a diagnostic; a call that returns none has
succeeded.
-/

namespace SpotCheck.Boundary

open Fibonacci (Session SessionError)

/-- Where a thread keeps its latest diagnostic. The slot goes when the thread ends; a call that the
thread makes after that, while it is taken down, has nowhere to keep one. -/
inductive Slot where
  | standing (latest : Option String)
  | gone
  deriving DecidableEq

namespace Slot

/-- The diagnostic that a thread without a slot is given in the place of any other. -/
def unavailable : String := "zkbind: diagnostic storage unavailable on this thread"

def latest : Slot → Option String
  | standing latest => latest
  | gone => none

def keep (slot : Slot) (message : String) : Slot :=
  match slot with
  | standing _ => standing (some message)
  | gone => gone

/-- What a call with a message returns. -/
def told (slot : Slot) (message : String) : String :=
  match slot with
  | standing _ => message
  | gone => unavailable

end Slot

structure Library where
  provider : Provider
  ledger : SessionLedger
  sessions : List (Handle × Session)
  nextHandle : Handle
  slots : Thread → Slot
  hasLogger : Bool

namespace Library

def initial : Library where
  provider := Provider.default
  ledger := SessionLedger.empty
  sessions := []
  nextHandle := 1
  slots := fun _ => .standing none
  hasLogger := false

def live (lib : Library) : Nat := lib.ledger.live

def host (lib : Library) (files : Files) : Fibonacci.Host := ⟨files, lib.provider, lib.ledger⟩

/-- Takes over what a session has changed in its surroundings. -/
def withHost (lib : Library) (host : Fibonacci.Host) : Library :=
  { lib with provider := host.provider, ledger := host.ledger }

/-- The latest diagnostic of a thread. -/
def diagnostics (lib : Library) (thread : Thread) : Option String := (lib.slots thread).latest

def report (lib : Library) (thread : Thread) (text : String) : Library × Returned :=
  let text := foreignMessage text
  ({ lib with slots := fun t => if t = thread then (lib.slots t).keep text else lib.slots t },
    .diagnostic (some ((lib.slots thread).told text)))

/-- The end of a thread takes its slot away. -/
def tearDown (lib : Library) (thread : Thread) : Library :=
  { lib with slots := fun t => if t = thread then .gone else lib.slots t }

def session (lib : Library) (composer : Option Handle) (entry : String) :
    Except String (Handle × Session) :=
  match composer with
  | none => .error ("null composer passed to " ++ entry)
  | some handle =>
    match lib.sessions.lookup handle with
    | some session => .ok (handle, session)
    | none => .error ("null composer passed to " ++ entry)

def putSession (lib : Library) (handle : Handle) (session : Session) : Library :=
  { lib with
    sessions := lib.sessions.map fun entry =>
      if entry.1 = handle then (handle, session) else entry }

/-! ### Bodies

The body of a call gives the state and the places after it, and why it has failed if it has. -/

/-- The state and places after a call's body, and its stop if it did not succeed. -/
structure Result (Out : Type) where
  library : Library
  places : Out
  stop : Option (Stop String)

def Result.success {Out : Type} (lib : Library) (places : Out) : Result Out := ⟨lib, places, none⟩

def Result.failure {Out : Type} (lib : Library) (places : Out) (text : String) : Result Out :=
  ⟨lib, places, some (.refused text)⟩

/-- A body that stops, with words in front of the text of a refusal. -/
def Result.stopped {Out ε : Type} (lib : Library) (places : Out) (words : String)
    (describe : ε → String) (stop : Stop ε) : Result Out :=
  ⟨lib, places, some (match stop with
    | .refused error => .refused (words ++ describe error)
    | .fault f => .fault f)⟩

def createAndVerify (lib : Library) (files : Files) (valid : Place Bool) : Result (Place Bool) :=
  match valid with
  | none =>
    .failure lib none "null `valid` pointer passed to zkbind_simple_create_and_verify_proof"
  | some _ =>
    let system := Fibonacci.proofSystem Fibonacci.Config.default ProverConfig.default
    let (outcome, host) := system.run (lib.host files)
    let lib := lib.withHost host
    match outcome with
    | .verified result => .success lib (some result)
    | .failed failure => .failure lib (some false) failure.message

/-- Installs a provider that can be loaded. -/
def installProvider (lib : Library) (files : Files) (source : Source) : Result Unit :=
  match Provider.loaded files source with
  | .ok provider => .success { lib with provider := provider } ()
  | .error stop => .stopped lib () "" ReferenceString.Error.message stop

def stringGenerated (lib : Library) (files : Files) (points : Nat) (seed : Slice UInt8) :
    Result Unit :=
  match seed.read "seed" with
  | .error text => .failure lib () text
  | .ok seed => lib.installProvider files (.seeded points seed)

def stringFromFile (lib : Library) (files : Files) (path : Option Bytes) : Result Unit :=
  match path with
  | none => .failure lib () "null path passed to zkbind_srs_init_from_file"
  | some bytes =>
    let bytes := foreignText bytes
    match Text.utf8Error? bytes with
    | some error => .failure lib () ("path is not valid UTF-8: " ++ error.message)
    | none => lib.installProvider files (.file (Text.lossy bytes))

def composerNew (lib : Library) (files : Files) (logRows : Nat) (out : Place (Option Handle)) :
    Result (Place (Option Handle)) :=
  match out with
  | none => .failure lib none "null output pointer passed to zkbind_composer_new"
  | some _ =>
    let config := Fibonacci.Config.ofLogRows logRows
    match Session.build config ProverConfig.default (lib.host files) with
    | (.error stop, host) =>
      .stopped (lib.withHost host) (some none) "setup failed: " SessionError.message stop
    | (.ok session, host) =>
      let lib := lib.withHost host
      let handle := lib.nextHandle
      .success
        { lib with sessions := (handle, session) :: lib.sessions, nextHandle := handle + 1 }
        (some (some handle))

/-- Hands out a byte string through places that were cleared before. -/
def handOut (lib : Library) (out : BufferPlaces) (bytes : Bytes) : Result BufferPlaces :=
  match out.store bytes with
  | .ok out => .success lib out
  | .error text => .failure lib out text

def createProof (lib : Library) (composer : Option Handle) (out : BufferPlaces) :
    Result BufferPlaces :=
  let out := out.clear
  match lib.session composer "zkbind_composer_create_proof" with
  | .error text => .failure lib out text
  | .ok (handle, session) =>
    let (answer, session) := session.createProof
    let lib := lib.putSession handle session
    match answer with
    | .error stop => .stopped lib out "proof construction failed: " SessionError.message stop
    | .ok proof => lib.handOut out proof

def verificationKey (lib : Library) (composer : Option Handle) (out : BufferPlaces) :
    Result BufferPlaces :=
  let out := out.clear
  match lib.session composer "zkbind_composer_get_verification_key" with
  | .error text => .failure lib out text
  | .ok (_, session) => lib.handOut out session.context.key.toBytes

/-- Writes the answer of a verification that a call has asked for. -/
def storeVerdict (lib : Library) (answer : Outcome SessionError Bool) : Result (Place Bool) :=
  match answer with
  | .ok result => .success lib (some result)
  | .error stop => .stopped lib (some false) "verification failed: " SessionError.message stop

def verifyProof (lib : Library) (composer : Option Handle) (proof : Slice UInt8)
    (valid : Place Bool) : Result (Place Bool) :=
  match valid with
  | none => .failure lib none "null `valid` pointer passed to zkbind_composer_verify_proof"
  | some _ =>
    match lib.session composer "zkbind_composer_verify_proof" with
    | .error text => .failure lib (some false) text
    | .ok (_, session) =>
      match proof.read "proof" with
      | .error text => .failure lib (some false) text
      | .ok bytes => lib.storeVerdict (session.verifyProof bytes proof.length)

/-- The field elements in a slice of words, all of which have to be canonical. -/
def fieldElements (slice : Slice UInt32) (what : String) : Except String (List Felt) := do
  let words ← slice.read what
  words.mapM fun word =>
    if word.toNat < modulus then .ok (Felt.ofWord word)
    else .error (what ++ " value " ++ toString word.toNat ++ " is not a canonical field element")

/-- The data of a detached verification: key, proof and public inputs. -/
def detachedArguments (key proof : Slice UInt8) (initial final : Slice UInt32) :
    Except String (Bytes × Bytes × PublicInputs) := do
  let key ← key.read "verification key"
  let proof ← proof.read "proof"
  let initial ← fieldElements initial "initial state"
  let final ← fieldElements final "final state"
  .ok (key, proof, ⟨initial, final⟩)

def verifyWithKey (lib : Library) (files : Files) (key proof : Slice UInt8)
    (initial final : Slice UInt32) (valid : Place Bool) : Result (Place Bool) :=
  match valid with
  | none => .failure lib none "null `valid` pointer passed to zkbind_verify_with_key"
  | some _ =>
    match detachedArguments key proof initial final with
    | .error text => .failure lib (some false) text
    | .ok (keyBytes, proofBytes, inputs) =>
      let (answer, host) :=
        Fibonacci.verifyDetached (lib.host files) keyBytes proofBytes inputs key.length proof.length
      (lib.withHost host).storeVerdict answer

structure SizePlaces where
  exact : Place Nat
  total : Place Nat
  subgroup : Place Nat

def circuitSizes (lib : Library) (logRows : Nat) (out : SizePlaces) : Result SizePlaces :=
  if out.exact.isSome && out.total.isSome && out.subgroup.isSome then
    match Fibonacci.circuitSizes logRows with
    | .error cause => .failure lib out cause.message
    | .ok sizes =>
      .success lib
        ⟨out.exact.write sizes.exact, out.total.write sizes.total,
          out.subgroup.write sizes.subgroup⟩
  else .failure lib out "null output pointer passed to zkbind_get_circuit_sizes"

/-- Installs a logger; there can be one in a process. -/
def enableLogging (lib : Library) (filter : Option Bytes) : Result Unit :=
  let directives := match filter with
    | none => "info"
    | some bytes => Text.lossy (foreignText bytes)
  match LogFilter.isValid directives with
  | .error f => ⟨lib, (), some (.fault f)⟩
  | .ok false =>
    .failure lib ()
      ("invalid log filter " ++ Text.quoted directives ++ ": invalid filter directive")
  | .ok true =>
    if lib.hasLogger then
      .failure lib ()
        "cannot install logger: a global default trace dispatcher has already been set"
    else .success { lib with hasLogger := true } ()

def composerDelete (lib : Library) (files : Files) (composer : Option Handle) : Library :=
  match composer with
  | none => lib
  | some handle =>
    match lib.sessions.lookup handle with
    | none => lib
    | some session =>
      let lib := lib.withHost (session.release (lib.host files))
      { lib with sessions := lib.sessions.filter (·.1 ≠ handle) }

/-! ### Calls -/

/-- Turns the end of a body into what the call returns. -/
def Result.settle {Out : Type} (r : Result Out) (thread : Thread) (entry : String)
    (places : Out → Places) : Library × Places × Returned :=
  match r.stop with
  | none => (r.library, places r.places, .diagnostic none)
  | some (.refused text) =>
    let (lib, returned) := r.library.report thread text
    (lib, places r.places, returned)
  | some (.fault f) =>
    let (lib, returned) := r.library.report thread (entry ++ ": panic: " ++ f.message)
    (lib, places r.places, returned)

def step (lib : Library) (files : Files) (thread : Thread) :
    Call → Library × Places × Returned
  | .createAndVerify valid =>
    (lib.createAndVerify files valid).settle thread "zkbind_simple_create_and_verify_proof" .valid
  | .stringGenerated points seed =>
    (lib.stringGenerated files points seed).settle thread "zkbind_srs_init_generated"
      fun _ => .none
  | .stringFromFile path =>
    (lib.stringFromFile files path).settle thread "zkbind_srs_init_from_file" fun _ => .none
  | .composerNew logRows out =>
    (lib.composerNew files logRows out).settle thread "zkbind_composer_new" .handle
  | .createProof composer out =>
    (lib.createProof composer out).settle thread "zkbind_composer_create_proof" .buffer
  | .verificationKey composer out =>
    (lib.verificationKey composer out).settle thread "zkbind_composer_get_verification_key"
      .buffer
  | .verifyProof composer proof valid =>
    (lib.verifyProof composer proof valid).settle thread "zkbind_composer_verify_proof" .valid
  | .verifyWithKey key proof initial final valid =>
    (lib.verifyWithKey files key proof initial final valid).settle thread
      "zkbind_verify_with_key" .valid
  | .circuitSizes logRows exact total subgroup =>
    (lib.circuitSizes logRows ⟨exact, total, subgroup⟩).settle thread "zkbind_get_circuit_sizes"
      fun out => .sizes out.exact out.total out.subgroup
  | .enableLogging filter =>
    (lib.enableLogging filter).settle thread "zkbind_enable_logging" fun _ => .none
  | .composerDelete composer => (lib.composerDelete files composer, .none, .nothing)
  | .freeBytes => (lib, .none, .nothing)
  | .lastDiagnostic => (lib, .none, .latest (lib.diagnostics thread))
  | .liveSessions => (lib, .none, .count lib.live)

end Library

end SpotCheck.Boundary
