import SpotCheck.Session.Lifecycle

/-!
# Runs by their stages

What a run comes to is told by what its stages answer: the first that stops is settled and the
session left, or the verdict is given and the session released. When rendering and dropping never
fault, nothing more is needed.
-/

namespace SpotCheck

variable {World Session ε φ : Type}

namespace ProofSystem

/-! ### Runs by what their stages answer -/

/-- The failure that the stop of a stage comes to once the captured scope is left. -/
def fail (sys : ProofSystem World Session ε) (cleanup : Cleanup World Session ε φ) (stage : Stage)
    (stop : Stop ε) (world : World) : Except φ RunFailure × World :=
  let (stop, world) := sys.named cleanup (.ofStage stage) stop world
  settle cleanup stage stop world

/-- The end of a run that was stopped. -/
def close (sys : ProofSystem World Session ε) (cleanup : Cleanup World Session ε φ)
    (session : Option Session) (failed : Except φ RunFailure × World) :
    Except φ RunOutcome × World :=
  match failed with
  | (.ok failure, world) => sys.leave cleanup session (.failed failure) world
  | (.error escaped, world) => unwind cleanup session escaped world

section Stages

variable {sys : ProofSystem World Session ε} {cleanup : Cleanup World Session ε φ}
  {world w w' w'' : World} {s s' s'' : Session} {proof : Bytes} {stop : Stop ε} {valid : Bool}

theorem attempt_of_build_error (hb : sys.build world = (.error stop, w)) :
    sys.attempt cleanup world = sys.close cleanup none (sys.fail cleanup .building stop w) := by
  simp only [attempt, drive, hb]
  rfl

theorem attempt_of_synthesize_error (hb : sys.build world = (.ok s, w))
    (hs : sys.synthesize s w = (.error stop, s', w')) :
    sys.attempt cleanup world =
      sys.close cleanup (some s') (sys.fail cleanup .synthesizing stop w') := by
  simp only [attempt, drive, hb, hs]
  rfl

theorem attempt_of_verify_error (hb : sys.build world = (.ok s, w))
    (hs : sys.synthesize s w = (.ok proof, s', w'))
    (hv : sys.verify s' proof w' = (.error stop, s'', w'')) :
    sys.attempt cleanup world =
      sys.close cleanup (some s'') (sys.fail cleanup .verifying stop w'') := by
  simp only [attempt, drive, hb, hs, hv]
  rfl

theorem attempt_of_verify_ok (hb : sys.build world = (.ok s, w))
    (hs : sys.synthesize s w = (.ok proof, s', w'))
    (hv : sys.verify s' proof w' = (.ok valid, s'', w'')) :
    sys.attempt cleanup world = sys.leave cleanup (some s'') (.verified valid) w'' := by
  simp only [attempt, drive, hb, hs, hv]

end Stages

/-! ### Runs without faults of rendering and dropping -/

section Quiet

variable (sys : ProofSystem World Session ε)

theorem fail_quiet (stage : Stage) (stop : Stop ε) (world : World) :
    sys.fail .quiet stage stop world = (.ok (.ofStage stage (stop.cause sys.describe)), world) := by
  cases stop <;> rfl

theorem attemptRelease_quiet (s : Session) (world : World) :
    ∃ answer, sys.attemptRelease .quiet s world = (.ok answer, (sys.release s world).2) := by
  unfold attemptRelease
  rcases sys.release s world with ⟨(e | f) | _, w⟩
  · exact ⟨.error ⟨sys.describe e⟩, rfl⟩
  · exact ⟨.error ⟨panicText f⟩, rfl⟩
  · exact ⟨.ok (), rfl⟩

theorem releaseSession_world (s : Session) (world : World) :
    (sys.releaseSession s world).2 = (sys.release s world).2 := by
  obtain ⟨answer, h⟩ := sys.attemptRelease_quiet s world
  rw [releaseSession, h]

theorem leave_quiet (s : Session) (outcome : RunOutcome) (world : World) :
    sys.leave .quiet (some s) outcome world = (.ok outcome, (sys.release s world).2) := by
  obtain ⟨answer, h⟩ := sys.attemptRelease_quiet s world
  simp only [leave, h]

theorem close_quiet (s : Session) (stage : Stage) (stop : Stop ε) (world : World) :
    sys.close .quiet (some s) (sys.fail .quiet stage stop world) =
      (.ok (.failed (.ofStage stage (stop.cause sys.describe))), (sys.release s world).2) := by
  rw [fail_quiet, close, leave_quiet]

end Quiet

section Stages

variable {sys : ProofSystem World Session ε} {world w w' w'' : World} {s s' s'' : Session}
  {proof : Bytes} {stop : Stop ε} {valid : Bool}

theorem run_of_build_error (hb : sys.build world = (.error stop, w)) :
    sys.run world = (.failed (.setup (stop.cause sys.describe)), w) := by
  rw [run, attempt_of_build_error hb, fail_quiet]
  rfl

theorem run_of_synthesize_error (hb : sys.build world = (.ok s, w))
    (hs : sys.synthesize s w = (.error stop, s', w')) :
    sys.run world = (.failed (.proving (stop.cause sys.describe)), (sys.release s' w').2) := by
  rw [run, attempt_of_synthesize_error hb hs, close_quiet]
  rfl

theorem run_of_verify_error (hb : sys.build world = (.ok s, w))
    (hs : sys.synthesize s w = (.ok proof, s', w'))
    (hv : sys.verify s' proof w' = (.error stop, s'', w'')) :
    sys.run world =
      (.failed (.verification (stop.cause sys.describe)), (sys.release s'' w'').2) := by
  rw [run, attempt_of_verify_error hb hs hv, close_quiet]
  rfl

theorem run_of_verify_ok (hb : sys.build world = (.ok s, w))
    (hs : sys.synthesize s w = (.ok proof, s', w'))
    (hv : sys.verify s' proof w' = (.ok valid, s'', w'')) :
    sys.run world = (.verified valid, (sys.release s'' w'').2) := by
  rw [run, attempt_of_verify_ok hb hs hv, leave_quiet]

end Stages

end ProofSystem

end SpotCheck
