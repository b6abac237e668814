import SpotCheck.Proofs.Session.Runs

/-!
# Courses of a run

What is done in a run is kept in the world of a second proof system, `recorded`, which otherwise
does what the first one does: the calls of the stages, and the rendering and dropping around them.
Whatever the stages do, the acts take one of three courses: a stage stops and is settled, it stops
and a fault gets out, or there is a verdict.
-/

namespace SpotCheck

variable {World Session ε φ : Type}

/-! ### Acts -/

/-- A call of a stage: the session and proof it was given, its answer, and the session as it left
it. -/
inductive StageCall (Session ε : Type) where
  | build (answer : Outcome ε Session)
  | synthesize (before : Session) (answer : Outcome ε Bytes) (after : Session)
  | verify (before : Session) (proof : Bytes) (answer : Outcome ε Bool) (after : Session)
  | release (session : Session) (answer : Outcome ε Unit)

namespace StageCall

def stage : StageCall Session ε → Stage
  | build _ => .building
  | synthesize .. => .synthesizing
  | verify .. => .verifying
  | release .. => .releasing

/-- The session that a call has left, if it has left one. -/
def after : StageCall Session ε → Option Session
  | build answer => answer.toOption
  | synthesize _ _ session => some session
  | verify _ _ _ session => some session
  | release .. => none

end StageCall

/-- What is done in a run: a stage is called, an error rendered, what a fault carried dropped, or
a session dropped that is not released. -/
inductive Act (Session ε φ : Type) where
  | call (call : StageCall Session ε)
  | render (error : ε) (answer : Except φ Unit)
  | dispose (fault : Fault) (answer : Except φ Unit)
  | abandon (session : Session)

namespace Act

def call? : Act Session ε φ → Option (StageCall Session ε)
  | call c => some c
  | _ => none

def abandoned? : Act Session ε φ → Option Session
  | abandon session => some session
  | _ => none

def rendering? : Act Session ε φ → Option (Except φ Unit)
  | render _ answer => some answer
  | _ => none

/-- The fault with which rendering or dropping has ended. -/
def fault? : Act Session ε φ → Option φ
  | render _ (.error f) => some f
  | dispose _ (.error f) => some f
  | _ => none

end Act

def stageCalls (acts : List (Act Session ε φ)) : List (StageCall Session ε) :=
  acts.filterMap Act.call?

def abandoned (acts : List (Act Session ε φ)) : List Session := acts.filterMap Act.abandoned?

/-- A fault gets out of the run: with it something was dropped, or an error rendered at the very
end, after the release. An error of the stages before is rendered in the captured scope. -/
def Escapes (f : φ) (acts : List (Act Session ε φ)) : Prop :=
  (∃ g, .dispose g (.error f) ∈ acts) ∨ ∃ e, acts.getLast? = some (.render e (.error f))

/-- The text of a stop: that of the fault, if there was one in rendering the first error. -/
def causeIn (describe : ε → String) (asFault : φ → Fault) (acts : List (Act Session ε φ)) :
    Stop ε → String
  | .fault f => panicText f
  | .refused e =>
    match acts.findSome? Act.rendering? with
    | some (.error f) => panicText (asFault f)
    | _ => describe e

/-- The same system in a world that keeps what was done so far. -/
def ProofSystem.recorded (sys : ProofSystem World Session ε) :
    ProofSystem (World × List (Act Session ε φ)) Session ε where
  build w :=
    let (answer, world) := sys.build w.1
    (answer, world, w.2 ++ [.call (.build answer)])
  synthesize session w :=
    let (answer, after, world) := sys.synthesize session w.1
    (answer, after, world, w.2 ++ [.call (.synthesize session answer after)])
  verify session proof w :=
    let (answer, after, world) := sys.verify session proof w.1
    (answer, after, world, w.2 ++ [.call (.verify session proof answer after)])
  release session w :=
    let (answer, world) := sys.release session w.1
    (answer, world, w.2 ++ [.call (.release session answer)])
  describe := sys.describe

def Cleanup.recorded (cleanup : Cleanup World Session ε φ) :
    Cleanup (World × List (Act Session ε φ)) Session ε φ where
  render e w :=
    let (answer, world) := cleanup.render e w.1
    (answer, world, w.2 ++ [.render e answer])
  dispose f w :=
    let (answer, world) := cleanup.dispose f w.1
    (answer, world, w.2 ++ [.dispose f answer])
  abandon session w := (cleanup.abandon session w.1, w.2 ++ [.abandon session])
  asFault := cleanup.asFault

def ProofSystem.acts (sys : ProofSystem World Session ε) (cleanup : Cleanup World Session ε φ)
    (world : World) : List (Act Session ε φ) :=
  (sys.recorded.attempt cleanup.recorded (world, [])).2.2

/-! ### The courses of a run -/

/-- The calls up to the end of the captured scope, with the session that there is then, and the
verdict or the stop of a stage. -/
inductive Driven :
    List (StageCall Session ε) → Option Session → Except (Stage × Stop ε) Bool → Prop where
  | unbuilt (stop : Stop ε) : Driven [.build (.error stop)] none (.error (.building, stop))
  | unproved (built : Session) (stop : Stop ε) (left : Session) :
    Driven [.build (.ok built), .synthesize built (.error stop) left] (some left)
      (.error (.synthesizing, stop))
  | unverified (built : Session) (proof : Bytes) (proved : Session) (stop : Stop ε)
      (left : Session) :
    Driven [.build (.ok built), .synthesize built (.ok proof) proved,
      .verify proved proof (.error stop) left] (some left) (.error (.verifying, stop))
  | verified (built : Session) (proof : Bytes) (proved : Session) (valid : Bool)
      (left : Session) :
    Driven [.build (.ok built), .synthesize built (.ok proof) proved,
      .verify proved proof (.ok valid) left] (some left) (.ok valid)

/-- What is done about the stop of a stage, with the text that it is reported under or the fault
that gets out. -/
inductive Settled (describe : ε → String) (asFault : φ → Fault) :
    Stop ε → List (Act Session ε φ) → Except φ String → Prop where
  | rendered (e : ε) :
    Settled describe asFault (.refused e) [.render e (.ok ())] (.ok (describe e))
  | unrendered (e : ε) (f : φ) (dropped : Except φ Unit) :
    Settled describe asFault (.refused e) [.render e (.error f), .dispose (asFault f) dropped]
      (dropped.map fun _ => panicText (asFault f))
  | faulted (f : Fault) (dropped : Except φ Unit) :
    Settled describe asFault (.fault f) [.dispose f dropped] (dropped.map fun _ => panicText f)

/-- What is done at the end about the session that there is, if there is one. -/
inductive Left : Option Session → List (Act Session ε φ) → Except φ Unit → Prop where
  | nothing : Left none [] (.ok ())
  | released (s : Session) : Left (some s) [.call (.release s (.ok ()))] (.ok ())
  | refused (s : Session) (e : ε) (rendered : Except φ Unit) :
    Left (some s) [.call (.release s (.error (.refused e))), .render e rendered] rendered
  | faulted (s : Session) (f : Fault) (dropped : Except φ Unit) :
    Left (some s) [.call (.release s (.error (.fault f))), .dispose f dropped] dropped

/-- The courses that a run can take, with their ends. -/
inductive Course (describe : ε → String) (asFault : φ → Fault) :
    List (Act Session ε φ) → Except φ RunOutcome → Prop where
  | stopped {calls : List (StageCall Session ε)} {session : Option Session} {stage : Stage}
      {stop : Stop ε} {settling ending : List (Act Session ε φ)} {cause : String}
      {answer : Except φ Unit} (hdriven : Driven calls session (.error (stage, stop)))
      (hsettled : Settled describe asFault stop settling (.ok cause))
      (hleft : Left session ending answer) :
    Course describe asFault (calls.map .call ++ settling ++ ending)
      (answer.map fun _ => .failed (.ofStage stage cause))
  | escaped {calls : List (StageCall Session ε)} {session : Option Session} {stage : Stage}
      {stop : Stop ε} {settling : List (Act Session ε φ)} {f : φ}
      (hdriven : Driven calls session (.error (stage, stop)))
      (hsettled : Settled describe asFault stop settling (.error f)) :
    Course describe asFault (calls.map .call ++ settling ++ session.toList.map .abandon) (.error f)
  | verified {calls : List (StageCall Session ε)} {session : Option Session} {valid : Bool}
      {ending : List (Act Session ε φ)} {answer : Except φ Unit}
      (hdriven : Driven calls session (.ok valid)) (hleft : Left session ending answer) :
    Course describe asFault (calls.map .call ++ ending) (answer.map fun _ => .verified valid)

namespace ProofSystem

section Recorded

variable (sys : ProofSystem World Session ε) (cleanup : Cleanup World Session ε φ)

/-- Recording changes nothing about the end of a stop, which is one of three. -/
theorem fail_recorded (stage : Stage) (stop : Stop ε) (world : World)
    (acts : List (Act Session ε φ)) :
    ∃ settling text, Settled sys.describe cleanup.asFault stop settling text ∧
      (sys.fail cleanup stage stop world).1 = text.map (.ofStage stage) ∧
      sys.recorded.fail cleanup.recorded stage stop (world, acts) =
        ((sys.fail cleanup stage stop world).1, (sys.fail cleanup stage stop world).2,
          acts ++ settling) := by
  cases stop with
  | refused e =>
    rcases hr : cleanup.render e world with ⟨f | _, w⟩
    · rcases hd : cleanup.dispose (cleanup.asFault f) w with ⟨g | _, w'⟩
      · exact ⟨_, _, .unrendered e f (.error g),
          by simp [fail, named, settle, Cleanup.recorded, hr, hd, Except.map]⟩
      · exact ⟨_, _, .unrendered e f (.ok ()),
          by simp [fail, named, settle, Cleanup.recorded, hr, hd, Except.map]⟩
    · exact ⟨_, _, .rendered e,
        by simp [fail, named, settle, recorded, Cleanup.recorded, hr, Except.map]⟩
  | fault f =>
    rcases hd : cleanup.dispose f world with ⟨g | _, w⟩
    · exact ⟨_, _, .faulted f (.error g),
        by simp [fail, named, settle, Cleanup.recorded, hd, Except.map]⟩
    · exact ⟨_, _, .faulted f (.ok ()),
        by simp [fail, named, settle, Cleanup.recorded, hd, Except.map]⟩

theorem leave_recorded (session : Option Session) (outcome : RunOutcome) (world : World)
    (acts : List (Act Session ε φ)) :
    ∃ ending answer, Left session ending answer ∧
      (sys.leave cleanup session outcome world).1 = answer.map (fun _ => outcome) ∧
      sys.recorded.leave cleanup.recorded session outcome (world, acts) =
        ((sys.leave cleanup session outcome world).1,
          (sys.leave cleanup session outcome world).2, acts ++ ending) := by
  cases session with
  | none => exact ⟨[], .ok (), .nothing, by simp [leave, Except.map]⟩
  | some s =>
    rcases hs : sys.release s world with ⟨(e | f) | _, w⟩
    · rcases hr : cleanup.render e w with ⟨g | _, w'⟩
      · exact ⟨_, _, .refused s e (.error g),
          by simp [leave, attemptRelease, recorded, Cleanup.recorded, hs, hr, Except.map]⟩
      · exact ⟨_, _, .refused s e (.ok ()),
          by simp [leave, attemptRelease, recorded, Cleanup.recorded, hs, hr, Except.map]⟩
    · rcases hd : cleanup.dispose f w with ⟨g | _, w'⟩
      · exact ⟨_, _, .faulted s f (.error g),
          by simp [leave, attemptRelease, recorded, Cleanup.recorded, hs, hd, Except.map]⟩
      · exact ⟨_, _, .faulted s f (.ok ()),
          by simp [leave, attemptRelease, recorded, Cleanup.recorded, hs, hd, Except.map]⟩
    · exact ⟨_, _, .released s, by simp [leave, attemptRelease, recorded, hs, Except.map]⟩

theorem close_recorded {calls : List (StageCall Session ε)} {session : Option Session}
    {stage : Stage} {stop : Stop ε} (hdriven : Driven calls session (.error (stage, stop)))
    (world : World) :
    ∃ acts, sys.recorded.close cleanup.recorded session
        (sys.recorded.fail cleanup.recorded stage stop (world, calls.map .call)) =
          ((sys.close cleanup session (sys.fail cleanup stage stop world)).1,
            (sys.close cleanup session (sys.fail cleanup stage stop world)).2, acts) ∧
      Course sys.describe cleanup.asFault acts
        (sys.close cleanup session (sys.fail cleanup stage stop world)).1 := by
  obtain ⟨settling, text, hsettled, hfail, hrecorded⟩ :=
    sys.fail_recorded cleanup stage stop world (calls.map .call)
  rw [hrecorded]
  rcases hfailed : sys.fail cleanup stage stop world with ⟨result, w⟩
  rw [hfailed] at hfail
  dsimp only at hfail ⊢
  cases text with
  | error f =>
    rw [hfail]
    cases session with
    | none =>
      refine ⟨_, rfl, ?_⟩
      have hcourse := Course.escaped hdriven hsettled
      rwa [Option.toList_none, List.map_nil, List.append_nil] at hcourse
    | some s => exact ⟨_, rfl, .escaped hdriven hsettled⟩
  | ok cause =>
    obtain ⟨ending, answer, hleft, hanswer, hleave⟩ := sys.leave_recorded cleanup session
      (.failed (.ofStage stage cause)) w (calls.map .call ++ settling)
    rw [hfail]
    refine ⟨_, hleave, ?_⟩
    show Course _ _ _ (sys.leave cleanup session (.failed (.ofStage stage cause)) w).1
    rw [hanswer]
    exact .stopped hdriven hsettled hleft

/-- Recording changes neither the end of a run nor the world, and what is done takes a course. -/
theorem attempt_recorded (world : World) :
    ∃ acts, sys.recorded.attempt cleanup.recorded (world, []) =
        ((sys.attempt cleanup world).1, (sys.attempt cleanup world).2, acts) ∧
      Course sys.describe cleanup.asFault acts (sys.attempt cleanup world).1 := by
  rcases hb : sys.build world with ⟨stop | s, w⟩
  · have rb : sys.recorded.build (world, ([] : List (Act Session ε φ))) =
        (.error stop, w, [.build (.error stop)].map .call) := by
      simp [recorded, hb]
    rw [attempt_of_build_error hb, attempt_of_build_error rb]
    exact sys.close_recorded cleanup (.unbuilt stop) w
  · have rb : sys.recorded.build (world, ([] : List (Act Session ε φ))) =
        (.ok s, w, [.build (.ok s)].map .call) := by
      simp [recorded, hb]
    rcases hs : sys.synthesize s w with ⟨stop | proof, s', w'⟩
    · have rs : sys.recorded.synthesize s
          (w, ([.build (.ok s)].map .call : List (Act Session ε φ))) =
            (.error stop, s', w', [.build (.ok s), .synthesize s (.error stop) s'].map .call) := by
        simp [recorded, hs]
      rw [attempt_of_synthesize_error hb hs, attempt_of_synthesize_error rb rs]
      exact sys.close_recorded cleanup (.unproved s stop s') w'
    · have rs : sys.recorded.synthesize s
          (w, ([.build (.ok s)].map .call : List (Act Session ε φ))) =
            (.ok proof, s', w', [.build (.ok s), .synthesize s (.ok proof) s'].map .call) := by
        simp [recorded, hs]
      rcases hv : sys.verify s' proof w' with ⟨answer, s'', w''⟩
      have rv : sys.recorded.verify s' proof (w',
          ([.build (.ok s), .synthesize s (.ok proof) s'].map .call : List (Act Session ε φ))) =
            (answer, s'', w'', [.build (.ok s), .synthesize s (.ok proof) s',
              .verify s' proof answer s''].map .call) := by
        simp [recorded, hv]
      cases answer with
      | error stop =>
        rw [attempt_of_verify_error hb hs hv, attempt_of_verify_error rb rs rv]
        exact sys.close_recorded cleanup (.unverified s proof s' stop s'') w''
      | ok valid =>
        obtain ⟨ending, answer, hleft, hanswer, hleave⟩ :=
          sys.leave_recorded cleanup (some s'') (.verified valid) w'' ([.build (.ok s),
            .synthesize s (.ok proof) s', .verify s' proof (.ok valid) s''].map .call)
        rw [attempt_of_verify_ok hb hs hv, attempt_of_verify_ok rb rs rv, hanswer]
        exact ⟨_, hanswer ▸ hleave, .verified (.verified s proof s' valid s'') hleft⟩

end Recorded

end ProofSystem

end SpotCheck
