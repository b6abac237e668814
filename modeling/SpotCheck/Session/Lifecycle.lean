import SpotCheck.Bytes
import SpotCheck.Fault

/-!
# The life of a session

A run takes a proof system through four stages: it builds a session, lets it make a proof, lets it
verify that proof, and releases the session. What a stage refuses or faults with is captured, and
the caller gets either the validity of the proof or the failure of the first stage that did not
succeed. Errors and what faults carry are values of the proof system, with code of their own that
runs when they are rendered and dropped. Some of it runs where nothing is captured: a fault there
ends the run without an outcome.
-/

namespace SpotCheck

inductive Stage where
  | idle
  | building
  | synthesizing
  | verifying
  | releasing
  | done
  deriving DecidableEq

def Stage.name : Stage → String
  | idle => "idle"
  | building => "building"
  | synthesizing => "synthesizing"
  | verifying => "verifying"
  | releasing => "releasing"
  | done => "done"

/-- The failure of a run: what failed, and the text of the cause. -/
inductive RunFailure where
  | setup (cause : String)
  | proving (cause : String)
  | verification (cause : String)
  deriving DecidableEq

namespace RunFailure

/-- The failure of a stage; all but two stages belong to the setup. -/
def ofStage (stage : Stage) (cause : String) : RunFailure :=
  match stage with
  | .synthesizing => proving cause
  | .verifying => verification cause
  | _ => setup cause

def stage : RunFailure → Stage
  | setup _ => .building
  | proving _ => .synthesizing
  | verification _ => .verifying

def cause : RunFailure → String
  | setup cause => cause
  | proving cause => cause
  | verification cause => cause

def message : RunFailure → String
  | setup cause => "setup failed: " ++ cause
  | proving cause => "proof construction failed: " ++ cause
  | verification cause => "verification failed: " ++ cause

end RunFailure

inductive RunOutcome where
  | verified (valid : Bool)
  | failed (failure : RunFailure)
  deriving DecidableEq

namespace RunOutcome

def validity : RunOutcome → Option Bool
  | verified valid => some valid
  | failed _ => none

def diagnostic : RunOutcome → Option String
  | verified _ => none
  | failed failure => some failure.message

def isFailure : RunOutcome → Bool
  | verified _ => false
  | failed _ => true

end RunOutcome

/-- The text of a captured fault: that of the fault with a mark. -/
def panicText (f : Fault) : String := "panic: " ++ f.message

/-- The text of a captured stop: that of the refusal, or that of the fault with a mark. -/
def Stop.cause {ε : Type} (describe : ε → String) : Stop ε → String
  | refused error => describe error
  | fault f => panicText f

/-- The stages of a proof system. Each may change the world around it and, once there is a
session, the session; the changes stand also when the stage stops early. -/
structure ProofSystem (World Session ε : Type) where
  build : World → Outcome ε Session × World
  synthesize : Session → World → Outcome ε Bytes × Session × World
  verify : Session → Bytes → World → Outcome ε Bool × Session × World
  release : Session → World → Outcome ε Unit × World
  /-- The text that an error is rendered as. -/
  describe : ε → String

/-- The code of a proof system that runs outside its stages. It may change the world, and the
faults that it may end with are of a type of their own: the empty one if it never faults. -/
structure Cleanup (World Session ε φ : Type) where
  /-- Renders an error and drops it. -/
  render : ε → World → Except φ Unit × World
  /-- Drops what a captured fault carried. -/
  dispose : Fault → World → Except φ Unit × World
  /-- Drops a session that nobody releases. -/
  abandon : Session → World → World
  /-- A fault of this code to the scope that captures it. -/
  asFault : φ → Fault

/-- Errors that can be rendered, and values that are dropped without any doing. -/
def Cleanup.quiet {World Session ε : Type} : Cleanup World Session ε Empty where
  render _ world := (.ok (), world)
  dispose _ world := (.ok (), world)
  abandon _ world := world
  asFault f := nomatch f

/-- The fault of a release, captured. -/
structure TeardownFault where
  cause : String
  deriving DecidableEq

def TeardownFault.message (f : TeardownFault) : String := "teardown failed: " ++ f.cause

/-- What a run keeps outside the scope in which it captures faults: the session, once there is
one, and the stage entered last. A fault leaves both as they are. -/
structure Progress (Session : Type) where
  session : Option Session
  stage : Stage

def Progress.idle {Session : Type} : Progress Session := ⟨none, .idle⟩

namespace ProofSystem

variable {World Session ε φ : Type}

/-- Renders the error of a stage and names the refusal. This is done in the scope that captures
faults, so that an error which cannot be rendered is one more fault of the stage. -/
def named (sys : ProofSystem World Session ε) (cleanup : Cleanup World Session ε φ)
    (failure : String → RunFailure) (stop : Stop ε) (world : World) : Stop RunFailure × World :=
  match stop with
  | .fault f => (.fault f, world)
  | .refused e =>
    match cleanup.render e world with
    | (.ok (), world) => (.refused (failure (sys.describe e)), world)
    | (.error f, world) => (.fault (cleanup.asFault f), world)

/-- The three stages up to the verdict, in the scope that captures faults. A refusal is named
after its stage here; a fault travels on and is named, outside, after the stage entered last. -/
def drive (sys : ProofSystem World Session ε) (cleanup : Cleanup World Session ε φ)
    (p : Progress Session) (world : World) :
    Outcome RunFailure Bool × Progress Session × World :=
  match sys.build world with
  | (.error stop, world) =>
    let (stop, world) := sys.named cleanup .setup stop world
    (.error stop, { p with stage := .building }, world)
  | (.ok session, world) =>
    match sys.synthesize session world with
    | (.error stop, session, world) =>
      let (stop, world) := sys.named cleanup .proving stop world
      (.error stop, ⟨some session, .synthesizing⟩, world)
    | (.ok proof, session, world) =>
      match sys.verify session proof world with
      | (.error stop, session, world) =>
        let (stop, world) := sys.named cleanup .verification stop world
        (.error stop, ⟨some session, .verifying⟩, world)
      | (.ok valid, session, world) => (.ok valid, ⟨some session, .verifying⟩, world)

/-- The failure that comes out of the captured scope. A fault is put down to the stage entered last,
and what it carried is dropped, outside of every scope that captures faults. -/
def settle (cleanup : Cleanup World Session ε φ) (stage : Stage) (stop : Stop RunFailure)
    (world : World) : Except φ RunFailure × World :=
  match stop with
  | .refused failure => (.ok failure, world)
  | .fault f =>
    match cleanup.dispose f world with
    | (.ok (), world) => (.ok (.ofStage stage (panicText f)), world)
    | (.error escaped, world) => (.error escaped, world)

/-- Releases a session on its own and captures what goes wrong. The error is rendered, and what a
fault carried is dropped, when the scope has been left. -/
def attemptRelease (sys : ProofSystem World Session ε) (cleanup : Cleanup World Session ε φ)
    (session : Session) (world : World) : Except φ (Except TeardownFault Unit) × World :=
  match sys.release session world with
  | (.ok (), world) => (.ok (.ok ()), world)
  | (.error (.refused e), world) =>
    match cleanup.render e world with
    | (.ok (), world) => (.ok (.error ⟨sys.describe e⟩), world)
    | (.error escaped, world) => (.error escaped, world)
  | (.error (.fault f), world) =>
    match cleanup.dispose f world with
    | (.ok (), world) => (.ok (.error ⟨panicText f⟩), world)
    | (.error escaped, world) => (.error escaped, world)

/-- Ends a run that has its outcome: whatever session there is is released. -/
def leave (sys : ProofSystem World Session ε) (cleanup : Cleanup World Session ε φ)
    (session : Option Session) (outcome : RunOutcome) (world : World) :
    Except φ RunOutcome × World :=
  match session with
  | none => (.ok outcome, world)
  | some session =>
    match sys.attemptRelease cleanup session world with
    | (.ok _, world) => (.ok outcome, world)
    | (.error escaped, world) => (.error escaped, world)

/-- Ends a run that has no outcome: whatever session there is is dropped and not released. -/
def unwind (cleanup : Cleanup World Session ε φ) (session : Option Session) (escaped : φ)
    (world : World) : Except φ RunOutcome × World :=
  match session with
  | none => (.error escaped, world)
  | some session => (.error escaped, cleanup.abandon session world)

/-- A whole run: the captured scope, its outcome, then the release. A fault that nothing captures
takes the place of the outcome. -/
def attempt (sys : ProofSystem World Session ε) (cleanup : Cleanup World Session ε φ)
    (world : World) : Except φ RunOutcome × World :=
  match sys.drive cleanup .idle world with
  | (.ok valid, p, world) => sys.leave cleanup p.session (.verified valid) world
  | (.error stop, p, world) =>
    match settle cleanup p.stage stop world with
    | (.ok failure, world) => sys.leave cleanup p.session (.failed failure) world
    | (.error escaped, world) => unwind cleanup p.session escaped world

/-- The release of a session by a system that cleans up without faults. -/
def releaseSession (sys : ProofSystem World Session ε) (session : Session) (world : World) :
    Except TeardownFault Unit × World :=
  match sys.attemptRelease .quiet session world with
  | (.ok answer, world) => (answer, world)
  | (.error escaped, _) => nomatch escaped

/-- The run of a system that cleans up without faults. -/
def run (sys : ProofSystem World Session ε) (world : World) : RunOutcome × World :=
  match sys.attempt .quiet world with
  | (.ok outcome, world) => (outcome, world)
  | (.error escaped, _) => nomatch escaped

end ProofSystem

end SpotCheck
