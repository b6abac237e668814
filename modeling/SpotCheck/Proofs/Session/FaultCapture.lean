import SpotCheck.Proofs.Session.Courses

/-!
# Fault capture

Whatever the stages of a run do, they are called in order, and a session that was built is released
once. The course of the run decides its outcome. All this is so as long as errors can be rendered
and values dropped; a fault of this code is captured at some places and ends the run at others.
-/

namespace SpotCheck

variable {World Session ε φ : Type}

/-! ### What a course says -/

/-- What the calls of a run, and the sessions that were dropped in it without a release, have to do
with each other. -/
structure InOrder (calls : List (StageCall Session ε)) (abandoned : List Session) : Prop where
  /-- The stages run in one order, each at most once. -/
  order : (calls.map StageCall.stage).Sublist [.building, .synthesizing, .verifying, .releasing]
  /-- The first call builds. -/
  starts : ∃ answer, calls.head? = some (.build answer)
  /-- A proof is made if and only if a session was built, by that session. -/
  synthesizes : ∀ s, (∃ answer left, .synthesize s answer left ∈ calls) ↔ .build (.ok s) ∈ calls
  /-- A proof is verified if and only if it was made, by the session as it was left. -/
  verifies : ∀ s proof, (∃ answer left, .verify s proof answer left ∈ calls) ↔
    ∃ built, .synthesize built (.ok proof) s ∈ calls
  /-- A session that was built is released or dropped, once. -/
  ends : (∃ s, .build (.ok s) ∈ calls) →
    (calls.filter (·.stage = .releasing)).length + abandoned.length = 1
  /-- Without a session nothing is released or dropped. -/
  spares : (¬ ∃ s, .build (.ok s) ∈ calls) →
    calls.filter (·.stage = .releasing) = [] ∧ abandoned = []
  /-- Released or dropped is the session as the last of the other stages has left it. -/
  leaves : ∀ s, (∃ answer, .release s answer ∈ calls) ∨ s ∈ abandoned →
    (calls.filterMap StageCall.after).getLast? = some s

/-- What the calls of a run say about its outcome. -/
structure Captured (cause : Stop ε → String) (calls : List (StageCall Session ε))
    (outcome : RunOutcome) : Prop where
  /-- A session that was built is released once. -/
  releases : (∃ s, .build (.ok s) ∈ calls) → (calls.filter (·.stage = .releasing)).length = 1
  /-- The validity is that which the verification gave. -/
  verified : ∀ valid, outcome = .verified valid ↔
    ∃ s proof left, .verify s proof (.ok valid) left ∈ calls
  /-- Any other outcome names the stage that stopped, with the text of its stop. -/
  setup : ∀ text, outcome = .failed (.setup text) ↔
    ∃ stop, .build (.error stop) ∈ calls ∧ text = cause stop
  proving : ∀ text, outcome = .failed (.proving text) ↔
    ∃ s stop left, .synthesize s (.error stop) left ∈ calls ∧ text = cause stop
  verification : ∀ text, outcome = .failed (.verification text) ↔
    ∃ s proof stop left, .verify s proof (.error stop) left ∈ calls ∧ text = cause stop

/-- The releases and the sessions dropped at the end of a run. -/
inductive Parted :
    Option Session → List (StageCall Session ε) → List Session → Prop where
  | nothing : Parted none [] []
  | released (s : Session) (answer : Outcome ε Unit) : Parted (some s) [.release s answer] []
  | dropped (s : Session) : Parted (some s) [] [s]

variable {describe : ε → String} {asFault : φ → Fault} {calls releases : List (StageCall Session ε)}
  {session : Option Session} {dropped : List Session}

theorem Driven.inOrder {verdict : Except (Stage × Stop ε) Bool}
    (hdriven : Driven calls session verdict) (hparted : Parted session releases dropped) :
    InOrder (calls ++ releases) dropped := by
  cases hdriven with
  | unbuilt stop =>
    cases hparted
    constructor <;> simp [StageCall.stage]
  | unproved built stop left =>
    cases hparted <;> constructor <;>
      simp [StageCall.stage, StageCall.after, Except.toOption, List.filterMap]
  | unverified built proof proved stop left =>
    cases hparted <;> constructor
    case released.verifies | dropped.verifies => exact fun s proof' => by simp [and_comm]
    all_goals simp [StageCall.stage, StageCall.after, Except.toOption, List.filterMap]
  | verified built proof proved valid left =>
    cases hparted <;> constructor
    case released.verifies | dropped.verifies => exact fun s proof' => by simp [and_comm]
    all_goals simp [StageCall.stage, StageCall.after, Except.toOption, List.filterMap]

theorem Driven.captured_failed {stage : Stage} {stop : Stop ε}
    (hdriven : Driven calls session (.error (stage, stop))) (hparted : Parted session releases [])
    (cause : Stop ε → String) :
    Captured cause (calls ++ releases) (.failed (.ofStage stage (cause stop))) := by
  cases hdriven with
  | unbuilt =>
    cases hparted
    constructor <;> simp [RunFailure.ofStage, StageCall.stage, eq_comm]
  | unproved =>
    cases hparted
    constructor <;> simp [RunFailure.ofStage, StageCall.stage, eq_comm, and_assoc]
  | unverified =>
    cases hparted
    constructor <;> simp [RunFailure.ofStage, StageCall.stage, eq_comm, and_assoc]

theorem Driven.captured_verified {valid : Bool} (hdriven : Driven calls session (.ok valid))
    (hparted : Parted session releases []) (cause : Stop ε → String) :
    Captured cause (calls ++ releases) (.verified valid) := by
  cases hdriven
  cases hparted
  constructor <;> simp [StageCall.stage, eq_comm]

/-! ### Parts of the acts -/

section Parts

variable {acts settling ending : List (Act Session ε φ)} {stop : Stop ε} {text : Except φ String}
  {answer : Except φ Unit} {result : Except φ RunOutcome} {f : φ}

@[simp] theorem stageCalls_append (acts more : List (Act Session ε φ)) :
    stageCalls (acts ++ more) = stageCalls acts ++ stageCalls more := List.filterMap_append

@[simp] theorem abandoned_append (acts more : List (Act Session ε φ)) :
    abandoned (acts ++ more) = abandoned acts ++ abandoned more := List.filterMap_append

@[simp] theorem stageCalls_map_call (calls : List (StageCall Session ε)) :
    stageCalls (calls.map Act.call : List (Act Session ε φ)) = calls := by
  rw [stageCalls, List.filterMap_map]
  exact List.filterMap_some

@[simp] theorem abandoned_map_call (calls : List (StageCall Session ε)) :
    abandoned (calls.map Act.call : List (Act Session ε φ)) = [] := by
  rw [abandoned, List.filterMap_map]
  exact List.filterMap_eq_nil_iff.2 fun _ _ => rfl

@[simp] theorem stageCalls_map_abandon (sessions : List Session) :
    stageCalls (sessions.map .abandon : List (Act Session ε φ)) = [] := by
  rw [stageCalls, List.filterMap_map]
  exact List.filterMap_eq_nil_iff.2 fun _ _ => rfl

@[simp] theorem abandoned_map_abandon (sessions : List Session) :
    abandoned (sessions.map .abandon : List (Act Session ε φ)) = sessions := by
  rw [abandoned, List.filterMap_map]
  exact List.filterMap_some

theorem Settled.stageCalls (h : Settled describe asFault stop settling text) :
    stageCalls settling = [] ∧ abandoned settling = [] := by
  cases h <;> exact ⟨rfl, rfl⟩

theorem Left.parted (h : Left session ending answer) :
    Parted session (stageCalls ending) [] ∧ abandoned ending = [] := by
  cases h with
  | nothing => exact ⟨.nothing, rfl⟩
  | released s => exact ⟨.released s _, rfl⟩
  | refused s e rendered => exact ⟨.released s _, rfl⟩
  | faulted s f dropped => exact ⟨.released s _, rfl⟩

theorem Settled.error_iff (h : Settled describe asFault stop settling text) :
    text = .error f ↔ ∃ g, .dispose g (.error f) ∈ settling := by
  cases h with
  | rendered e => simp
  | unrendered e g dropped => cases dropped <;> simp [Except.map, eq_comm]
  | faulted g dropped => cases dropped <;> simp [Except.map, eq_comm]

theorem Settled.getLast?_ne (h : Settled describe asFault stop settling text)
    (calls : List (StageCall Session ε)) (e : ε) :
    (calls.map Act.call ++ settling).getLast? ≠ some (.render e (.error f)) := by
  cases h <;> simp

theorem Left.error_iff (h : Left session ending answer) :
    answer = .error f ↔ Escapes f ending := by
  cases h <;> simp [Escapes, eq_comm]

theorem escapes_append {before : List (Act Session ε φ)}
    (h : ∀ e, before.getLast? ≠ some (.render e (.error f))) :
    Escapes f (before ++ ending) ↔
      (∃ g, .dispose g (.error f) ∈ before) ∨ Escapes f ending := by
  have hlast : (∃ e, (before ++ ending).getLast? = some (.render e (.error f))) ↔
      ∃ e, ending.getLast? = some (.render e (.error f)) := by
    rw [List.getLast?_append]
    cases ending.getLast? with
    | none => simp [h]
    | some act => rfl
  simp only [Escapes, List.mem_append, exists_or, hlast, or_assoc]

theorem dispose_mem_append_iff {calls : List (StageCall Session ε)} {g : Fault} :
    .dispose g (.error f) ∈ calls.map Act.call ++ settling ↔
      .dispose g (.error f) ∈ settling := by
  simp

theorem getLast?_map_call_ne (calls : List (StageCall Session ε)) (e : ε) :
    (calls.map Act.call).getLast? ≠ some (.render e (.error f)) := by
  simp [List.getLast?_map]

/-- A run has no outcome if and only if a fault gets out of it. -/
theorem Course.error_iff (h : Course describe asFault acts result) :
    result = .error f ↔ Escapes f acts := by
  cases h with
  | @stopped calls _ _ _ _ _ cause answer hdriven hsettled hleft =>
    rw [escapes_append (hsettled.getLast?_ne calls), ← hleft.error_iff]
    simp only [dispose_mem_append_iff, ← hsettled.error_iff]
    cases answer <;> simp [Except.map]
  | @escaped calls session _ _ _ g hdriven hsettled =>
    rw [escapes_append (hsettled.getLast?_ne calls)]
    simp only [dispose_mem_append_iff, ← hsettled.error_iff]
    cases session <;> simp [Escapes]
  | @verified calls _ _ _ answer hdriven hleft =>
    rw [escapes_append (getLast?_map_call_ne calls), ← hleft.error_iff]
    cases answer <;> simp [Except.map]

theorem Course.inOrder (h : Course describe asFault acts result) :
    InOrder (stageCalls acts) (abandoned acts) := by
  cases h with
  | stopped hdriven hsettled hleft =>
    obtain ⟨hcalls, hnone⟩ := hsettled.stageCalls
    obtain ⟨hparted, hkept⟩ := hleft.parted
    simpa [hcalls, hnone, hkept] using hdriven.inOrder hparted
  | @escaped calls session _ _ _ _ hdriven hsettled =>
    obtain ⟨hcalls, hnone⟩ := hsettled.stageCalls
    have hparted : Parted session ([] : List (StageCall Session ε)) session.toList := by
      cases session with
      | none => exact .nothing
      | some s => exact .dropped s
    simpa [hcalls, hnone] using hdriven.inOrder hparted
  | verified hdriven hleft =>
    obtain ⟨hparted, hkept⟩ := hleft.parted
    simpa [hkept] using hdriven.inOrder hparted

/-- A session is dropped without a release only if something that a fault carried could not be. -/
theorem Course.exists_dispose (h : Course describe asFault acts result)
    (hne : abandoned acts ≠ []) : ∃ g f, .dispose g (.error f) ∈ acts := by
  cases h with
  | stopped hdriven hsettled hleft =>
    simp [hsettled.stageCalls.2, hleft.parted.2] at hne
  | @escaped calls _ _ _ _ f hdriven hsettled =>
    obtain ⟨g, hmem⟩ := hsettled.error_iff.1 rfl
    exact ⟨g, f, by simp [hmem]⟩
  | verified hdriven hleft =>
    simp [hleft.parted.2] at hne

/-- The text of a stop is the one that it was reported under. -/
theorem Settled.causeIn_eq {cause : String} (h : Settled describe asFault stop settling (.ok cause))
    (calls : List (StageCall Session ε)) (ending : List (Act Session ε φ)) :
    causeIn describe asFault (calls.map .call ++ settling ++ ending) stop = cause := by
  have hnone : (calls.map Act.call : List (Act Session ε φ)).findSome? Act.rendering? = none := by
    simp [List.findSome?_eq_none_iff, Act.rendering?]
  have hfirst : (calls.map Act.call ++ settling ++ ending).findSome? Act.rendering? =
      (settling ++ ending).findSome? Act.rendering? := by
    rw [List.append_assoc, List.findSome?_append, hnone, Option.none_or]
  generalize htext : Except.ok cause = text at h
  cases h with
  | rendered e =>
    cases htext
    rw [causeIn, hfirst]
    rfl
  | unrendered e f dropped =>
    cases dropped <;> cases htext
    rw [causeIn, hfirst]
    rfl
  | faulted f dropped =>
    cases dropped <;> cases htext
    rfl

/-- If a run has an outcome, it is the one that its calls make for. -/
theorem Course.captured {outcome : RunOutcome} (h : Course describe asFault acts (.ok outcome)) :
    Captured (causeIn describe asFault acts) (stageCalls acts) outcome := by
  generalize hresult : Except.ok outcome = result at h
  cases h with
  | @stopped calls _ _ _ settling ending cause answer hdriven hsettled hleft =>
    cases answer <;> cases hresult
    have hcaptured := hdriven.captured_failed hleft.parted.1
      (causeIn describe asFault (calls.map .call ++ settling ++ ending))
    rw [hsettled.causeIn_eq] at hcaptured
    simpa [hsettled.stageCalls.1] using hcaptured
  | escaped => cases hresult
  | @verified calls _ _ ending answer hdriven hleft =>
    cases answer <;> cases hresult
    simpa using hdriven.captured_verified hleft.parted.1 _

theorem causeIn_of_quiet (h : ∀ act ∈ acts, act.fault? = none) (describe : ε → String)
    (asFault : φ → Fault) : causeIn describe asFault acts = Stop.cause describe := by
  funext stop
  cases stop with
  | fault f => rfl
  | refused e =>
    rw [causeIn]
    split
    case h_1 f hfirst =>
      -- The first rendering has ended with a fault, which is one of an act.
      obtain ⟨act, hmem, hact⟩ := List.exists_of_findSome?_eq_some hfirst
      have hfault : act.fault? = some f := by
        cases act <;> simp_all [Act.rendering?, Act.fault?]
      rw [h act hmem] at hfault
      cases hfault
    case h_2 => rfl

theorem not_escapes_of_quiet (h : ∀ act ∈ acts, act.fault? = none) : ¬ Escapes f acts := by
  rintro (⟨g, hmem⟩ | ⟨e, hlast⟩)
  · exact Option.some_ne_none f (h _ hmem)
  · exact Option.some_ne_none f (h _ (List.mem_of_getLast? hlast))

end Parts

/-! ### Runs -/

namespace ProofSystem

/-- The outcome of the captured scope, before anything is released. -/
def settled (sys : ProofSystem World Session ε) (cleanup : Cleanup World Session ε φ)
    (world : World) : Except φ RunOutcome :=
  match sys.drive cleanup .idle world with
  | (.ok valid, _, _) => .ok (.verified valid)
  | (.error stop, p, world) => (settle cleanup p.stage stop world).1.map .failed

variable {sys : ProofSystem World Session ε} {cleanup : Cleanup World Session ε φ} {world : World}
  {session : Option Session} {outcome outcome' : RunOutcome}

theorem eq_of_leave (h : (sys.leave cleanup session outcome world).1 = .ok outcome') :
    outcome = outcome' := by
  obtain ⟨_, answer, -, hanswer, -⟩ := sys.leave_recorded cleanup session outcome world []
  rw [hanswer] at h
  cases answer <;> cases h
  rfl

theorem unwind_ne_ok {escaped : φ} :
    (unwind cleanup session escaped world).1 ≠ .ok outcome := by
  cases session <;> exact nofun

theorem settled_of_attempt (h : (sys.attempt cleanup world).1 = .ok outcome) :
    sys.settled cleanup world = .ok outcome := by
  rcases hdriven : sys.drive cleanup .idle world with ⟨stop | valid, p, w⟩
  · rcases hsettled : settle cleanup p.stage stop w with ⟨escaped | failure, w'⟩
    · simp only [attempt, hdriven, hsettled] at h
      exact absurd h unwind_ne_ok
    · simp only [attempt, hdriven, hsettled] at h
      rw [← eq_of_leave h]
      simp [settled, hdriven, hsettled, Except.map]
  · simp only [attempt, hdriven] at h
    rw [← eq_of_leave h]
    simp only [settled, hdriven]

/-- What is done in a run, kept on the side, changes nothing about it. The stages are called in
order, and a session that was built is released or dropped, once; it is dropped only if what a fault
carried could not be. The run has no outcome exactly if a fault of rendering or dropping gets out of
it. If it has one, that is the validity or the failure of the stage that stopped, whatever is done
at the release. If no rendering and no dropping has ended with a fault, there is an outcome, with
the text of the error or of the fault that the stage has stopped with. -/
theorem attempt_captures_faults (sys : ProofSystem World Session ε)
    (cleanup : Cleanup World Session ε φ) (world : World) :
    sys.recorded.attempt cleanup.recorded (world, []) =
        ((sys.attempt cleanup world).1, (sys.attempt cleanup world).2, sys.acts cleanup world) ∧
      InOrder (stageCalls (sys.acts cleanup world)) (abandoned (sys.acts cleanup world)) ∧
      (abandoned (sys.acts cleanup world) ≠ [] →
        ∃ g f, .dispose g (.error f) ∈ sys.acts cleanup world) ∧
      (∀ f, (sys.attempt cleanup world).1 = .error f ↔ Escapes f (sys.acts cleanup world)) ∧
      (∀ outcome, (sys.attempt cleanup world).1 = .ok outcome →
        Captured (causeIn sys.describe cleanup.asFault (sys.acts cleanup world))
          (stageCalls (sys.acts cleanup world)) outcome ∧
        ∀ release outcome', (attempt { sys with release := release } cleanup world).1 =
          .ok outcome' → outcome' = outcome) ∧
      ((∀ act ∈ sys.acts cleanup world, act.fault? = none) →
        ∃ outcome, (sys.attempt cleanup world).1 = .ok outcome ∧
          Captured (Stop.cause sys.describe) (stageCalls (sys.acts cleanup world)) outcome) := by
  obtain ⟨acts, hrecorded, hcourse⟩ := sys.attempt_recorded cleanup world
  have hacts : sys.acts cleanup world = acts := by rw [ProofSystem.acts, hrecorded]
  rw [hacts]
  refine ⟨hrecorded, hcourse.inOrder, hcourse.exists_dispose, fun f => hcourse.error_iff,
    fun outcome h => ⟨?_, fun release outcome' h' => ?_⟩, fun hquiet => ?_⟩
  · rw [h] at hcourse
    exact hcourse.captured
  · have hsettled : settled { sys with release := release } cleanup world =
        sys.settled cleanup world := rfl
    rw [settled_of_attempt h, settled_of_attempt h'] at hsettled
    exact Except.ok.inj hsettled
  · cases hresult : (sys.attempt cleanup world).1 with
    | error f => exact absurd (hcourse.error_iff.1 hresult) (not_escapes_of_quiet hquiet)
    | ok outcome =>
      rw [hresult] at hcourse
      exact ⟨outcome, rfl, causeIn_of_quiet hquiet _ _ ▸ hcourse.captured⟩

/-- A system whose stages all succeed, with a proof that is valid, and whose release refuses. -/
def reluctant : ProofSystem Unit Unit Unit where
  build _ := (.ok (), ())
  synthesize _ _ := (.ok [], (), ())
  verify _ _ _ := (.ok true, (), ())
  release _ _ := (Outcome.refuse (), ())
  describe _ := "still in use"

/-- The proof faults with a value that has no text. -/
def startled : ProofSystem Unit Unit Unit :=
  { reluctant with synthesize := fun _ _ => (.error (.fault (.raised .other)), (), ()) }

theorem attempt_captures_faults_reluctant :
    (∀ act ∈ reluctant.acts .quiet (), act.fault? = none) ∧
      (reluctant.attempt .quiet ()).1 = .ok (.verified true) := by
  obtain ⟨-, -, -, -, -, hcaptured⟩ := attempt_captures_faults reluctant .quiet ()
  have hquiet : ∀ act ∈ reluctant.acts .quiet (), act.fault? = none := by decide
  obtain ⟨outcome, hresult, hcaptured⟩ := hcaptured hquiet
  have hverified := (hcaptured.verified true).2 ⟨(), [], (), .tail _ (.tail _ (.head _))⟩
  exact ⟨hquiet, hresult.trans (congrArg Except.ok hverified)⟩

/-- The fault of code that renders or drops. -/
def loose : Fault := .raised (.literal "loose")

/-- Nothing can be rendered, and nothing that a fault carried be dropped. -/
def unruly : Cleanup Unit Unit Unit Fault where
  render _ _ := (.error loose, ())
  dispose _ _ := (.error loose, ())
  abandon _ _ := ()
  asFault f := f

/-- A valid proof is reported to nobody, because the error of the release cannot be rendered; and
after a fault that carried something which cannot be dropped, a session is not released. -/
theorem attempt_lets_fault_out :
    (reluctant.attempt unruly ()).1 = .error loose ∧
      .verify () [] (.ok true) () ∈ stageCalls (reluctant.acts unruly ()) ∧
      (startled.attempt unruly ()).1 = .error loose ∧
      stageCalls (startled.acts unruly ()) =
        [.build (.ok ()), .synthesize () (.error (.fault (.raised .other))) ()] :=
  ⟨rfl, .tail _ (.tail _ (.head _)), rfl, rfl⟩

end ProofSystem

/-- A fault raised with a text is reported with that text, after the mark. -/
example : Stop.cause (fun e : String => e) (.fault (.raised (.made "boom"))) = "panic: boom" := by
  decide

end SpotCheck
