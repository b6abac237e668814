import SpotCheck.Boundary.Library
import SpotCheck.Bundle
import SpotCheck.Command.Arguments
import SpotCheck.Command.Report

/-!
# Running commands

Each command is a function of the files as they stand. It prints as it goes along, so that an
error leaves behind what was printed before it.
-/

namespace SpotCheck

/-! ### Chains of causes

An error is shown with the causes that its own text does not stand for. -/

def ReferenceString.Error.chain (e : ReferenceString.Error) : List String :=
  match e with
  | .io _ cause => [e.message, cause.message]
  | _ => [e.message]

def KeyError.chain (e : KeyError) : List String :=
  match e with
  | .string cause => cause.chain
  | _ => [e.message]

def VerificationError.chain (e : VerificationError) : List String :=
  match e with
  | .format cause => [e.message, cause.message]
  | .publicInputs cause => [e.message, cause.message]
  | .keyMismatch _ => [e.message]

def Fibonacci.SessionError.chain (e : Fibonacci.SessionError) : List String :=
  match e with
  | .string cause => cause.chain
  | .key cause => cause.chain
  | .verification cause => cause.chain
  | _ => [e.message]

namespace Command

/-! ### Steps of a command -/

inductive Halt where
  /-- An error with its causes. -/
  | refused (chain : List String)
  | fault (fault : Fault)
  /-- So many bytes at once are more than the system has. -/
  | starved (bytes : Nat)

/-- What is printed and stored so far. -/
structure Progress where
  printed : List Piece
  files : Files

/-- A step of a command: it prints and stores, and may halt. -/
abbrev Step (α : Type) := ExceptT Halt (StateM Progress) α

def lines (texts : List String) : Step Unit :=
  modify fun p => { p with printed := p.printed ++ texts.map fun text => .text (text ++ "\n") }

def line (text : String) : Step Unit := lines [text]

def timedLine (before after : String) : Step Unit :=
  modify fun p => { p with printed := p.printed ++ [.text before, .elapsed, .text (after ++ "\n")] }

def fail {α : Type} (chain : List String) : Step α := throw (.refused chain)

/-- Takes the value of an outcome, or halts with its error under further words. -/
def expect {ε α : Type} (words : List String) (chain : ε → List String) (outcome : Outcome ε α) :
    Step α :=
  match outcome with
  | .ok a => pure a
  | .error (.refused e) => throw (.refused (words ++ chain e))
  | .error (.fault f) => throw (.fault f)

def readText (name : String) : Step String := do
  let p ← get
  expect ["failed to read " ++ Text.quoted name] (fun e => [FileError.message e])
    (Outcome.ofResult (p.files.readText name))

/-- Stores what a change of the files gives. -/
def store {ε : Type} (words : List String) (chain : ε → List String)
    (change : Files → Except ε Files) : Step Unit := do
  let p ← get
  let files ← expect words chain (Outcome.ofResult (change p.files))
  set { p with files := files }

def providerFor : Option String → Provider
  | some path => Provider.file path
  | none => Provider.default

/-! ### The commands -/

def generate (points : Nat) (seed : Option String) (output : String) : Step Unit := do
  line "🔑 zkbind - Generating reference string\n"
  let seed := match seed with
    | some text => Bytes.ofText text
    | none => Provider.defaultSeed
  let string ← expect [] ReferenceString.Error.chain (ReferenceString.generate points seed)
  store [] ReferenceString.Error.chain fun files => string.toFile files output
  line ("   Points: " ++ toString string.size)
  line ("   Digest: 0x" ++ Hex.encode string.digest.bytes)
  line ("\n✅ Reference string saved to " ++ Text.quoted output)

def readConfig : Option String → Step ProverConfig
  | none => pure ProverConfig.default
  | some path => do
    let text ← readText path
    match (Json.parse? text).bind ProverConfig.ofJson? with
    | some config => pure config
    | none => fail ["invalid prover config " ++ Text.quoted path, "malformed JSON"]

/-- Proves the default instance of a size, verifies the proof and stores a bundle. -/
def prove (logRows : Nat) (srs config : Option String) (output : String) : Step Unit := do
  line "🔐 zkbind - Generating proof\n"
  let proverConfig ← readConfig config
  let provider := providerFor srs
  line ("   Reference string: " ++ provider.describe)
  let parameters := Fibonacci.Config.ofLogRows logRows
  let host : Fibonacci.Host := ⟨(← get).files, provider, SessionLedger.empty⟩
  let session ← expect ["setup failed"] Fibonacci.SessionError.chain
    (Fibonacci.Session.build parameters proverConfig host).1
  timedLine "   Setup: " ""
  let sizes := session.context.key.circuitSizes
  line ("   Circuit: " ++ toString sizes.subgroup ++ " rows, " ++ toString sizes.exact ++
    " transition rows, " ++ toString sizes.total ++ " cells")
  let proof ← expect ["proof construction failed"] Fibonacci.SessionError.chain
    session.createProof.1
  timedLine "   Proving: " (" (" ++ toString proof.length ++ " bytes)")
  let valid ← expect ["verification failed"] Fibonacci.SessionError.chain
    (session.verifyProof proof)
  if !valid then fail ["freshly created proof did not verify"]
  let bundle := ProofBundle.make session.witness.config session.witness.inputs
    session.context.key.toBytes proof
  store ["failed to write " ++ Text.quoted output] (fun e => [FileError.message e])
    fun files => files.write output (Bytes.ofText bundle.render)
  line ("\n✅ Proof bundle saved to " ++ Text.quoted output)
  line ("   Verify with: zkbind verify -b " ++ output)

def verify (bundlePath : String) (srs : Option String) : Step Unit := do
  line "🔍 zkbind - Verifying proof\n"
  let text ← readText bundlePath
  let bundle ← match ProofBundle.parse? text with
    | some bundle => pure bundle
    | none => fail ["invalid proof bundle", "malformed JSON"]
  let string ← expect [] ReferenceString.Error.chain
    ((providerFor srs).request (← get).files 0).1
  let keyBytes ← expect [] BundleError.chain (Outcome.ofResult bundle.keyBytes)
  let key ← expect [] KeyError.chain (Outcome.ofResult (Key.ofBytes keyBytes string))
  if key.logRows ≠ bundle.config.logRows then
    fail (BundleError.logRows bundle.config.logRows key.logRows).chain
  let inputs ← expect [] BundleError.chain (Outcome.ofResult bundle.publicInputs)
  let proof ← expect [] BundleError.chain (Outcome.ofResult bundle.proofBytes)
  line ("   Circuit: " ++ key.circuitId ++ " (" ++ toString key.numRows ++ " rows)")
  line ("   Proof size: " ++ toString proof.length ++ " bytes")
  let verdict ← expect [] VerificationError.chain (check key Fibonacci.circuit proof inputs)
  timedLine "   Verification: " ""
  match verdict with
  | .accepted => line "\n✅ Proof is valid"
  | .rejected ground =>
    line ("\n❌ Proof rejected: " ++ ground.message)
    fail ["proof rejected: " ++ ground.message]

/-- The failure that a call has ended with, if it has. -/
def failure? : Boundary.Places → Boundary.Returned → Option String
  | .valid (some true), .diagnostic none => none
  | _, .diagnostic (some text) => some text
  | _, _ => some "proof rejected"

/-- One foreign call of a run, by a thread; the failure to report, if there is one. -/
def callOnce (files : Files) (thread : Boundary.Thread) (lib : Boundary.Library) :
    Boundary.Library × Option String :=
  let (lib, places, returned) := lib.step files thread (.createAndVerify (some false))
  (lib, failure? places returned)

/-- The failures of so many calls that end alike. -/
def failuresOf (count : Nat) : Option String → List String
  | none => []
  | some text => List.replicate count text

/-- A number of foreign calls, one after another, with their failures in order. Every call closes
the session that it opens, so that a call which leaves the provider as it was is followed by calls
like itself, and need not be repeated. -/
def callAll (files : Files) : Nat → Boundary.Library → Boundary.Library × List String
  | 0, lib => (lib, [])
  | count + 1, lib =>
    let (next, failure) := callOnce files 1 lib
    if next.provider = lib.provider then (next, failuresOf (count + 1) failure)
    else
      let (last, failures) := callAll files count next
      (last, failure.toList ++ failures)

/-- The foreign library with the reference string of a file installed, or the diagnostic. -/
def libraryFor (files : Files) : Option String → Except String Boundary.Library
  | none => .ok Boundary.Library.initial
  | some path =>
    match Boundary.Library.initial.step files 0 (.stringFromFile (some (Bytes.ofText path))) with
    | (_, _, .diagnostic (some text)) => .error text
    | (lib, _, _) => .ok lib

/-! ### Workers

Every worker is remembered until it ends, and keeps what each of its calls has given. How many
bytes and workers there are is a matter of the system. -/

structure Limits where
  /-- A request for that many bytes or more at once is not met. -/
  memory : Nat
  /-- The workers that there can be at the same time. -/
  workers : Nat

/-- The bytes by which a worker is remembered. -/
def workerWidth : Nat := 24

/-- The bytes that a worker keeps of a call. -/
def callWidth : Nat := 32

/-- What is asked for at once does not exceed what the system has. -/
def acquire (limits : Limits) (bytes : Nat) : Step Unit :=
  if bytes < limits.memory then pure () else throw (.starved bytes)

/-- There is room for the workers, and each of them has room for what it keeps of its calls. A
worker that asks for an impossible block breaks down alone, which is an error of the command like
any other; one that is starved takes the command with it. -/
def makeRoom (limits : Limits) (workers calls : Nat) : Step Unit := do
  expect [] (fun text => [text]) (Outcome.ofFaulting (Word.reserve workers workerWidth))
  acquire limits (workers * workerWidth)
  let possible := (Word.reserve calls callWidth).isOk
  if possible then acquire limits (calls * callWidth)
  if workers > limits.workers then throw (.fault .noWorker)
  if !possible then fail ["worker thread panicked"]

/-- Drives the foreign entry point from several workers. -/
def run (limits : Limits) (srs : Option String) (iterations threads : Nat) : Step Unit := do
  line "🚀 zkbind - Running the C entry point\n"
  let files := (← get).files
  let start ← expect [] (fun text => [text]) (Outcome.ofResult (libraryFor files srs))
  let workers := max threads 1
  makeRoom limits workers iterations
  let total := workers * iterations
  let (lib, failures) := callAll files total start
  lines (failures.map ("   ❌ " ++ ·))
  timedLine ("   Calls: " ++ toString total ++ " in ") ""
  line ("   Live sessions: " ++ toString lib.live)
  if !failures.isEmpty then
    fail [toString failures.length ++ " of " ++ toString total ++ " calls failed"]
  line "\n✅ All proofs verified"

def sizes (logRows : Nat) : Step Unit := do
  let sizes ← expect [] (fun e => [Fibonacci.ConfigError.message e])
    (Outcome.ofResult (Fibonacci.circuitSizes logRows))
  line ("📐 Simple circuit at 2^" ++ toString logRows ++ " rows")
  line ("   Exact:    " ++ toString sizes.exact)
  line ("   Total:    " ++ toString sizes.total)
  line ("   Subgroup: " ++ toString sizes.subgroup)

def steps (limits : Limits) : Action → Step Unit
  | .srs points seed output => generate points seed output
  | .prove logRows path config output => prove logRows path config output
  | .verify bundle path => verify bundle path
  | .run path iterations threads => run limits path iterations threads
  | .sizes logRows => sizes logRows

/-- Takes the steps of a command from the first to the last or until one halts. -/
def Step.report (step : Step Unit) (files : Files) : Report :=
  match step.run.run ⟨[], files⟩ with
  | (.ok (), p) => ⟨p.printed, p.files, .success⟩
  | (.error (.refused chain), p) => ⟨p.printed, p.files, .failure chain⟩
  | (.error (.fault f), p) => ⟨p.printed, p.files, .fault f⟩
  | (.error (.starved bytes), p) => ⟨p.printed, p.files, .aborted bytes⟩

/-- A system with 32 GiB for one request, which maps 65530 regions into a process; every worker
takes two of them, and the process a few for itself. -/
def Limits.usual : Limits := ⟨1 <<< 35, 32700⟩

/-- A whole command; a filter that is none is refused before anything else. -/
def Invocation.report (invocation : Invocation) (files : Files)
    (limits : Limits := Limits.usual) : Report :=
  match LogFilter.isValid invocation.log with
  | .error f => ⟨[], files, .fault f⟩
  | .ok false => ⟨[], files, .failure ["invalid log filter", "invalid filter directive"]⟩
  | .ok true => (steps limits invocation.action).report files

end Command

end SpotCheck
