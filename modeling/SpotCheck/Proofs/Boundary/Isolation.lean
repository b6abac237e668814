import Mathlib.Data.List.Induction
import SpotCheck.Proofs.Boundary.Accounting
import SpotCheck.Proofs.Boundary.Slots
import SpotCheck.Proofs.ReferenceString.File

/-!
# Providers and sessions keep apart

The provider of the process is the one that was installed last. A session holds its key and its
witness: what becomes of the provider and of the other sessions afterwards is nothing that it could
notice.
-/

namespace SpotCheck.Boundary

open Fibonacci (Session)

/-! ### The provider in force -/

/-- The provider that a successful call has installed, with its string. -/
def Event.installed? (e : Event) : Option Provider :=
  match e.returned with
  | .diagnostic none => e.call.source?.bind fun source => (Provider.loaded e.files source).toOption
  | _ => none

/-- The provider installed last, or the default one. -/
def lastInstalled (events : List Event) : Provider :=
  (events.filterMap Event.installed?).getLast?.getD Provider.default

theorem lastInstalled_append (events : List Event) (e : Event) :
    lastInstalled (events ++ [e]) = e.installed?.getD (lastInstalled events) := by
  rw [lastInstalled, List.filterMap_append]
  cases h : e.installed? <;> simp [lastInstalled, h]

theorem Call.installs_of_source {call : Call} {source : Source} (h : call.source? = some source) :
    call.Installs := by
  cases call <;> trivial

/-- Calls that take a reference string from the provider. -/
def Call.ReadsProvider : Call → Prop
  | createAndVerify _ | composerNew .. | verifyWithKey .. => True
  | _ => False

/-- Arguments that name no reference string: null pointers, numbers of points out of range, paths
that are no text and files that are missing or are not the file of a reference string. -/
inductive Unusable (files : Files) : Call → Prop where
  | nullSeed {points length : Nat} (hlength : length ≠ 0) :
      Unusable files (.stringGenerated points ⟨none, length⟩)
  | points {points : Nat} {seed : Slice UInt8} (hpoints : points = 0 ∨ 2 ^ 24 < points) :
      Unusable files (.stringGenerated points seed)
  | nullPath : Unusable files (.stringFromFile none)
  | notText {path : Bytes} {error : Text.Utf8Error}
      (herror : Text.utf8Error? (foreignText path) = some error) :
      Unusable files (.stringFromFile (some path))
  | missing {path : Bytes} {cause : FileError}
      (hread : files.read (Text.lossy (foreignText path)) = .error cause) :
      Unusable files (.stringFromFile (some path))
  | malformed {path bytes : Bytes} (hread : files.read (Text.lossy (foreignText path)) = .ok bytes)
      (hbytes : ∀ string : ReferenceString, string.size ≤ ReferenceString.maxPoints →
        ReferenceString.IsProgression string.points → bytes ≠ string.toFileBytes) :
      Unusable files (.stringFromFile (some path))

theorem Unusable.installs {files : Files} {call : Call} (h : Unusable files call) :
    call.Installs := by
  cases h <;> trivial

namespace Library

variable {files : Files} {lib : Library} {thread : Thread} {call : Call} {handle : Handle}
  {session : Session} {result : Library × Places × Returned}

theorem Effect.alike {p : Provider} (heffect : Effect files lib call result) (h : lib.Consistent)
    (hp : p.Alike lib.provider) :
    ((Event.mk ⟨thread, files, call⟩ result.2.1 result.2.2).installed?.getD p).Alike
      result.1.provider := by
  cases heffect with
  | @kept call after places returned hkept hfails hdead =>
    have hnone : (Event.mk ⟨thread, files, call⟩ places returned).installed? = none := by
      unfold Event.installed?
      split
      · rename_i hreturned
        cases hsource : call.source? with
        | none => rfl
        | some source => exact absurd (Call.installs_of_source hsource) (hfails hreturned).1
      · rfl
    dsimp only
    rw [hnone]
    exact hp.trans (hkept.provider.alike h.steady)
  | @installed call source string hsource hload =>
    have hloaded : Provider.loaded files source = .ok ⟨source, some string⟩ :=
      Provider.loaded_eq_ok_iff.2 ⟨string, hload, rfl⟩
    simp only [Event.installed?, hsource, Option.bind_some, hloaded, Except.toOption,
      Option.getD_some]
    exact .refl _
  | opened hbuild hprovider => exact hp.trans (hprovider.alike h.steady)
  | ended hmem => exact hp

theorem alike_lastInstalled (calls : List Invocation) :
    (lastInstalled (initial.history calls)).Alike (initial.afterCalls calls).provider := by
  induction calls using List.reverseRecOn with
  | nil => exact .refl _
  | append_singleton calls i ih =>
    rw [history_append_singleton, afterCalls_append_singleton, lastInstalled_append]
    exact (effect_step i.files _ i.thread i.call).alike
      (consistent_afterCalls consistent_initial calls) ih

theorem installed_or_kept (lib : Library) (i : Invocation) (hcall : i.call.Installs) :
    ((lib.invoke i).2.returned = .diagnostic none ∧ ∃ source string,
        i.call.source? = some source ∧ Provider.load i.files source = .ok string ∧
        (lib.invoke i).1.provider = ⟨source, some string⟩) ∨
      ((lib.invoke i).2.returned ≠ .diagnostic none ∧
        (lib.invoke i).1.provider = lib.provider) := by
  have hend := installation_step i.files lib i.thread hcall
  rw [invoke_eq]
  generalize lib.step i.files i.thread i.call = result at hend ⊢
  generalize i.call.source? = source at hend ⊢
  cases hend with
  | @done source string hload => exact .inl ⟨rfl, source, string, rfl, hload, rfl⟩
  | failed hload => exact .inr ⟨nofun, rfl⟩

theorem load_ne_ok_of_unusable {source : Source} (h : Unusable files call)
    (hsource : call.source? = some source) (string : ReferenceString) :
    Provider.load files source ≠ .ok string := by
  intro hload
  cases h with
  | nullSeed hlength => simp [Call.source?, Slice.read, hlength] at hsource
  | @points points seed hpoints =>
    rw [Call.source?] at hsource
    split at hsource
    · cases hsource
      obtain ⟨⟨hzero, hmax⟩, -⟩ := ReferenceString.generate_eq_ok_iff.1 hload
      rcases hpoints with hpoints | hpoints
      · exact hzero hpoints
      · exact Nat.not_le.2 hpoints hmax
    · cases hsource
  | nullPath => cases hsource
  | notText herror => simp [Call.source?, herror] at hsource
  | missing hread =>
    rw [Call.source?] at hsource
    split at hsource
    · cases hsource
      simp [Provider.load, ReferenceString.ofFile, hread] at hload
    · cases hsource
  | @malformed path bytes hread hbytes =>
    rw [Call.source?] at hsource
    split at hsource
    · cases hsource
      have hfile : ReferenceString.ofFileBytes bytes = .ok string := by
        simpa [Provider.load, ReferenceString.ofFile, hread] using hload
      obtain ⟨hsize, hprogression, hsame⟩ := ReferenceString.ofFileBytes_eq_ok_iff.1 hfile
      exact hbytes string hsize hprogression hsame
    · cases hsource

/-! ### Sessions and what they answer -/

/-- Calls with the handle give the same from both libraries, whatever the files and the thread. -/
def Agree (handle : Handle) (lib lib' : Library) : Prop :=
  ∀ call, call.composer? = some handle → ∀ files files' thread thread',
    (lib'.step files' thread' call).2 = (lib.step files thread call).2

/-- A library in which nothing has happened but that it holds one session. -/
def holding (handle : Handle) (session : Session) : Library :=
  { initial with sessions := [(handle, session)] }

theorem lookup_holding (handle : Handle) (session : Session) :
    (holding handle session).sessions.lookup handle = some session := by
  rw [holding, lookup_cons, if_pos rfl]

theorem session_of_lookup (h : lib.sessions.lookup handle = some session) (entry : String) :
    lib.session (some handle) entry = .ok (handle, session) := by
  simp only [Library.session, h]

/-- What is left of a result when nobody looks at the library. -/
def Result.answer {Out : Type} (r : Result Out) : Out × Option (Stop String) := (r.places, r.stop)

theorem settle_answer {Out : Type} {r r' : Result Out} (h : r'.answer = r.answer)
    {thread thread' : Thread}
    (htold : ∀ text, (r'.library.slots thread').told text = (r.library.slots thread).told text)
    (entry : String) (places : Out → Places) :
    (r'.settle thread' entry places).2 = (r.settle thread entry places).2 := by
  obtain ⟨hplaces, hstop⟩ := Prod.mk.inj h
  cases hr : r.stop with
  | none => rw [settle_of_none hr, settle_of_none (hstop.trans hr), hplaces]
  | some stop => rw [settle_of_some hr, settle_of_some (hstop.trans hr), hplaces, htold]

theorem answer_handOut (lib lib' : Library) (out : BufferPlaces) (bytes : Bytes) :
    (lib'.handOut out bytes).answer = (lib.handOut out bytes).answer := by
  unfold handOut
  cases out.store bytes <;> rfl

theorem answer_storeVerdict (lib lib' : Library) (answer : Outcome Fibonacci.SessionError Bool) :
    (lib'.storeVerdict answer).answer = (lib.storeVerdict answer).answer := by
  unfold storeVerdict
  cases answer <;> rfl

section Answers

variable {lib' : Library} {count : Nat} (h : lib.sessions.lookup handle = some session)
  (h' : lib'.sessions.lookup handle = some (session.withCount count))

include h h'

theorem answer_createProof (out : BufferPlaces) :
    (lib'.createProof (some handle) out).answer = (lib.createProof (some handle) out).answer := by
  have hsame := session.createProof_withCount count
  unfold createProof
  rw [session_of_lookup h, session_of_lookup h']
  dsimp only
  generalize session.createProof = made at hsame ⊢
  generalize (session.withCount count).createProof = made' at hsame ⊢
  obtain ⟨answer, after⟩ := made
  obtain ⟨answer', after'⟩ := made'
  obtain rfl : answer' = answer := hsame
  cases answer' with
  | error stop => rfl
  | ok bytes => exact answer_handOut ..

theorem answer_verificationKey (out : BufferPlaces) :
    (lib'.verificationKey (some handle) out).answer =
      (lib.verificationKey (some handle) out).answer := by
  unfold verificationKey
  rw [session_of_lookup h, session_of_lookup h']
  exact answer_handOut ..

theorem answer_verifyProof (proof : Slice UInt8) (valid : Place Bool) :
    (lib'.verifyProof (some handle) proof valid).answer =
      (lib.verifyProof (some handle) proof valid).answer := by
  unfold verifyProof
  rw [session_of_lookup h, session_of_lookup h']
  cases valid with
  | none => rfl
  | some before =>
    dsimp only
    cases proof.read "proof" with
    | error text => rfl
    | ok bytes => exact answer_storeVerdict ..

/-- A call with a handle answers by the session behind it, however many proofs that has made. -/
theorem agree_of_lookup (hstanding : lib.Standing) (hstanding' : lib'.Standing) :
    Agree handle lib lib' := by
  intro call hcall files files' thread thread'
  have htold : ∀ text, (lib'.slots thread').told text = (lib.slots thread).told text := fun text =>
    (Slot.told_of_ne_gone (hstanding' thread') text).trans
      (Slot.told_of_ne_gone (hstanding thread) text).symm
  cases call with
  | createProof composer out =>
    obtain rfl : composer = some handle := hcall
    refine settle_answer (answer_createProof h h' out) ?_ ..
    rwa [(kept_createProof lib files ..).slots, (kept_createProof lib' files' ..).slots]
  | verificationKey composer out =>
    obtain rfl : composer = some handle := hcall
    refine settle_answer (answer_verificationKey h h' out) ?_ ..
    rwa [library_verificationKey, library_verificationKey]
  | verifyProof composer proof valid =>
    obtain rfl : composer = some handle := hcall
    refine settle_answer (answer_verifyProof h h' proof valid) ?_ ..
    rwa [library_verifyProof, library_verifyProof]
  | composerDelete composer => rfl
  | _ => cases hcall

end Answers

theorem Effect.lookup (heffect : Effect files lib call result) (h : lib.Consistent)
    (hcall : call ≠ .composerDelete (some handle))
    (hlookup : lib.sessions.lookup handle = some session) :
    ∃ count, result.1.sessions.lookup handle = some (session.withCount count) := by
  cases heffect with
  | kept hkept hfails hdead => exact hkept.sessions handle session hlookup
  | installed hsource hload => exact ⟨session.context.proofsCreated, hlookup⟩
  | opened hbuild hprovider =>
    have hlt := h.below handle (lookup_isSome_iff.1 (by rw [hlookup]; rfl))
    refine ⟨session.context.proofsCreated, ?_⟩
    show List.lookup handle (_ :: _) = _
    rw [lookup_cons, if_neg (Nat.ne_of_lt hlt), hlookup]
    rfl
  | @ended other hmem =>
    have hne : handle ≠ other := fun heq => hcall (by rw [heq])
    refine ⟨session.context.proofsCreated, ?_⟩
    show (lib.sessions.filter (·.1 ≠ other)).lookup handle = _
    rw [lookup_remove, if_neg hne, hlookup]
    rfl

theorem lookup_afterCalls {calls : List Invocation} (h : lib.Consistent)
    (hcalls : ∀ i ∈ calls, i.call ≠ .composerDelete (some handle))
    (hlookup : lib.sessions.lookup handle = some session) :
    ∃ count, (lib.afterCalls calls).sessions.lookup handle = some (session.withCount count) := by
  induction calls generalizing lib session with
  | nil => exact ⟨session.context.proofsCreated, hlookup⟩
  | cons i calls ih =>
    obtain ⟨hcall, hcalls⟩ := List.forall_mem_cons.1 hcalls
    have heffect := effect_step i.files lib i.thread i.call
    obtain ⟨count, hnext⟩ := heffect.lookup h hcall hlookup
    obtain ⟨last, hlast⟩ := ih (heffect.consistent h) hcalls hnext
    exact ⟨last, hlast⟩

/-- A handle is given out by a creation, with the session of its number of rows and of the string
that the provider serves. -/
theorem Effect.exists_session (heffect : Effect files lib call result)
    (hissued : (Event.mk ⟨thread, files, call⟩ result.2.1 result.2.2).issued? = some handle) :
    ∃ logRows out string key, call = .composerNew logRows out ∧ (lib.host files).Serves string ∧
      Key.setup Fibonacci.circuit logRows (Fibonacci.Config.ofLogRows logRows).inputs
        ProverConfig.default string = .ok key ∧
      result.1.sessions.lookup handle =
        some (Fibonacci.sessionOf (Fibonacci.Config.ofLogRows logRows) string key) := by
  obtain ⟨hopens, hreturned⟩ := Event.opens_of_issued hissued
  cases heffect with
  | kept hkept hfails hdead => exact absurd hopens (hfails hreturned).2
  | @installed call source string hsource hload =>
    have hinstalls := Call.installs_of_source hsource
    cases call <;> trivial
  | @opened logRows before session provider hbuild hprovider =>
    obtain rfl : lib.nextHandle = handle := Option.some.inj hissued
    obtain ⟨string, hserves⟩ := Fibonacci.exists_serves_of_build hbuild
    obtain ⟨-, -, key, hsetup, rfl⟩ := (Fibonacci.build_eq_ok_iff hserves).1 hbuild
    refine ⟨logRows, some before, string, key, rfl, hserves, hsetup, ?_⟩
    show List.lookup _ (_ :: _) = _
    rw [lookup_cons, if_pos rfl]
  | ended hmem => exact hopens.elim

/-! ### Calls without a provider -/

def withProvider (lib : Library) (provider : Provider) : Library :=
  { lib with provider := provider }

/-- Results that differ in nothing but the provider. -/
structure Result.Twins {Out : Type} (r r' : Result Out) : Prop where
  answer : r'.answer = r.answer
  library : ∀ provider, r'.library.withProvider provider = r.library.withProvider provider

theorem Result.Twins.settle {Out : Type} {r r' : Result Out} (h : r.Twins r') (thread : Thread)
    (entry : String) (places : Out → Places) :
    (r'.settle thread entry places).2 = (r.settle thread entry places).2 ∧
      ∀ provider, (r'.settle thread entry places).1.withProvider provider =
        (r.settle thread entry places).1.withProvider provider := by
  have hslots : r'.library.slots = r.library.slots := by
    show (r'.library.withProvider Provider.default).slots = _
    rw [h.library]
    rfl
  refine ⟨settle_answer h.answer (fun text => by rw [hslots]) .., fun provider => ?_⟩
  obtain ⟨hplaces, hstop⟩ := Prod.mk.inj h.answer
  have hlibrary := h.library provider
  cases hr : r.stop with
  | none => rwa [settle_of_none hr, settle_of_none (hstop.trans hr)]
  | some stop =>
    rw [settle_of_some hr, settle_of_some (hstop.trans hr)]
    exact congrArg (reporting · thread _) hlibrary

section Twins

variable (lib : Library) (p : Provider)

theorem session_withProvider (composer : Option Handle) (entry : String) :
    (lib.withProvider p).session composer entry = lib.session composer entry := rfl

theorem twins_installProvider (files : Files) (source : Source) :
    (lib.installProvider files source).Twins
      ((lib.withProvider p).installProvider files source) := by
  unfold installProvider
  cases Provider.loaded files source <;> exact ⟨rfl, fun _ => rfl⟩

theorem twins_stringGenerated (files : Files) (points : Nat) (seed : Slice UInt8) :
    (lib.stringGenerated files points seed).Twins
      ((lib.withProvider p).stringGenerated files points seed) := by
  unfold stringGenerated
  cases seed.read "seed" with
  | error text => exact ⟨rfl, fun _ => rfl⟩
  | ok bytes => exact twins_installProvider ..

theorem twins_stringFromFile (files : Files) (path : Option Bytes) :
    (lib.stringFromFile files path).Twins ((lib.withProvider p).stringFromFile files path) := by
  unfold stringFromFile
  cases path with
  | none => exact ⟨rfl, fun _ => rfl⟩
  | some bytes =>
    dsimp only
    cases Text.utf8Error? (foreignText bytes) with
    | some error => exact ⟨rfl, fun _ => rfl⟩
    | none => exact twins_installProvider ..

theorem twins_handOut (out : BufferPlaces) (bytes : Bytes) :
    (lib.handOut out bytes).Twins ((lib.withProvider p).handOut out bytes) := by
  unfold handOut
  cases out.store bytes <;> exact ⟨rfl, fun _ => rfl⟩

theorem twins_createProof (composer : Option Handle) (out : BufferPlaces) :
    (lib.createProof composer out).Twins ((lib.withProvider p).createProof composer out) := by
  unfold createProof
  rw [session_withProvider]
  cases lib.session composer "zkbind_composer_create_proof" with
  | error text => exact ⟨rfl, fun _ => rfl⟩
  | ok found =>
    obtain ⟨handle, session⟩ := found
    dsimp only
    rcases session.createProof with ⟨stop | bytes, after⟩
    · exact ⟨rfl, fun _ => rfl⟩
    · exact twins_handOut (lib.putSession handle after) p ..

theorem twins_verificationKey (composer : Option Handle) (out : BufferPlaces) :
    (lib.verificationKey composer out).Twins
      ((lib.withProvider p).verificationKey composer out) := by
  unfold verificationKey
  rw [session_withProvider]
  cases lib.session composer "zkbind_composer_get_verification_key" with
  | error text => exact ⟨rfl, fun _ => rfl⟩
  | ok found => exact twins_handOut ..

theorem twins_verifyProof (composer : Option Handle) (proof : Slice UInt8) (valid : Place Bool) :
    (lib.verifyProof composer proof valid).Twins
      ((lib.withProvider p).verifyProof composer proof valid) := by
  unfold verifyProof
  cases valid with
  | none => exact ⟨rfl, fun _ => rfl⟩
  | some before =>
    dsimp only
    rw [session_withProvider]
    cases lib.session composer "zkbind_composer_verify_proof" with
    | error text => exact ⟨rfl, fun _ => rfl⟩
    | ok found =>
      dsimp only
      cases proof.read "proof" with
      | error text => exact ⟨rfl, fun _ => rfl⟩
      | ok bytes =>
        dsimp only [storeVerdict]
        cases found.2.verifyProof bytes proof.length <;> exact ⟨rfl, fun _ => rfl⟩

theorem twins_circuitSizes (logRows : Nat) (out : SizePlaces) :
    (lib.circuitSizes logRows out).Twins ((lib.withProvider p).circuitSizes logRows out) := by
  unfold circuitSizes
  split
  · cases Fibonacci.circuitSizes logRows <;> exact ⟨rfl, fun _ => rfl⟩
  · exact ⟨rfl, fun _ => rfl⟩

theorem twins_enableLogging (filter : Option Bytes) :
    (lib.enableLogging filter).Twins ((lib.withProvider p).enableLogging filter) := by
  unfold enableLogging
  dsimp only
  split
  · exact ⟨rfl, fun _ => rfl⟩
  · exact ⟨rfl, fun _ => rfl⟩
  · have hlogger : (lib.withProvider p).hasLogger = lib.hasLogger := rfl
    rw [hlogger]
    cases lib.hasLogger <;> exact ⟨rfl, fun _ => rfl⟩

end Twins

theorem step_withProvider (lib : Library) (p : Provider) (files : Files) (thread : Thread)
    (hcall : ¬ call.ReadsProvider) :
    ((lib.withProvider p).step files thread call).2 = (lib.step files thread call).2 ∧
      ∀ q, ((lib.withProvider p).step files thread call).1.withProvider q =
        (lib.step files thread call).1.withProvider q := by
  cases call with
  | createAndVerify valid => exact absurd trivial hcall
  | composerNew logRows out => exact absurd trivial hcall
  | verifyWithKey key proof initial final valid => exact absurd trivial hcall
  | stringGenerated points seed => exact (twins_stringGenerated lib p ..).settle ..
  | stringFromFile path => exact (twins_stringFromFile lib p ..).settle ..
  | createProof composer out => exact (twins_createProof lib p ..).settle ..
  | verificationKey composer out => exact (twins_verificationKey lib p ..).settle ..
  | verifyProof composer proof valid => exact (twins_verifyProof lib p ..).settle ..
  | circuitSizes logRows exact total subgroup => exact (twins_circuitSizes lib p ..).settle ..
  | enableLogging filter => exact (twins_enableLogging lib p ..).settle ..
  | composerDelete composer =>
    refine ⟨rfl, fun q => ?_⟩
    cases composer with
    | none => rfl
    | some handle =>
      show ((lib.withProvider p).composerDelete files (some handle)).withProvider q =
        (lib.composerDelete files (some handle)).withProvider q
      have hsessions : (lib.withProvider p).sessions = lib.sessions := rfl
      simp only [composerDelete, hsessions]
      cases lib.sessions.lookup handle <;> rfl
  | freeBytes => exact ⟨rfl, fun _ => rfl⟩
  | lastDiagnostic => exact ⟨rfl, fun _ => rfl⟩
  | liveSessions => exact ⟨rfl, fun _ => rfl⟩

/-! ### Main theorem -/

/-- The provider of the process is the one installed last; a call that fails to install one leaves
the one before in place, and what names no reference string fails. Whatever is called after the
creation of a session, by whichever threads, the session answers as it did when it was created;
only creations, runs and verifications without a session look at the provider at all. -/
theorem provider_and_sessions_apart :
    (∀ calls, (lastInstalled (initial.history calls)).Alike (initial.afterCalls calls).provider) ∧
    (∀ (lib : Library) (i : Invocation), i.call.Installs →
      ((lib.invoke i).2.returned = .diagnostic none ∧ ∃ source string,
          i.call.source? = some source ∧ Provider.load i.files source = .ok string ∧
          (lib.invoke i).1.provider = ⟨source, some string⟩) ∨
        ((lib.invoke i).2.returned ≠ .diagnostic none ∧
          (lib.invoke i).1.provider = lib.provider)) ∧
    (∀ (lib : Library) (i : Invocation), Unusable i.files i.call →
      (lib.invoke i).2.returned ≠ .diagnostic none) ∧
    (∀ before creation between handle,
      ((initial.afterCalls before).invoke creation).2.issued? = some handle →
      (∀ i ∈ between, i.call ≠ .composerDelete (some handle)) →
      ∃ logRows out string key, creation.call = .composerNew logRows out ∧
        ((initial.afterCalls before).host creation.files).Serves string ∧
        Key.setup Fibonacci.circuit logRows (Fibonacci.Config.ofLogRows logRows).inputs
          ProverConfig.default string = .ok key ∧
        Agree handle (initial.afterCalls (before ++ [creation]))
          (initial.afterCalls (before ++ creation :: between)) ∧
        Agree handle
          (holding handle (Fibonacci.sessionOf (Fibonacci.Config.ofLogRows logRows) string key))
          (initial.afterCalls (before ++ creation :: between))) ∧
    ∀ (lib : Library) (p : Provider) files thread (call : Call), ¬ call.ReadsProvider →
      ((lib.withProvider p).step files thread call).2 = (lib.step files thread call).2 ∧
        ∀ q, ((lib.withProvider p).step files thread call).1.withProvider q =
          (lib.step files thread call).1.withProvider q := by
  refine ⟨alike_lastInstalled, fun lib i hcall => ?_, fun lib i hunusable => ?_,
    fun before creation between handle hissued hbetween => ?_,
    fun lib p files thread call => step_withProvider lib p files thread⟩
  · exact installed_or_kept lib i hcall
  · intro hreturned
    rcases installed_or_kept lib i hunusable.installs with
      ⟨-, source, string, hsource, hload, -⟩ | ⟨hfailed, -⟩
    · exact load_ne_ok_of_unusable hunusable hsource string hload
    · exact hfailed hreturned
  · obtain ⟨logRows, out, string, key, hcall, hserves, hsetup, hlookup⟩ :=
      (effect_step creation.files _ creation.thread creation.call).exists_session hissued
    have hcreated : (initial.afterCalls (before ++ [creation])).sessions.lookup handle =
        some (Fibonacci.sessionOf (Fibonacci.Config.ofLogRows logRows) string key) := by
      rw [afterCalls_append_singleton]
      exact hlookup
    obtain ⟨count, hlast⟩ :=
      lookup_afterCalls (consistent_afterCalls consistent_initial _) hbetween hcreated
    rw [← afterCalls_append, ← List.append_cons] at hlast
    have hstanding := fun calls => standing_initial.afterCalls calls
    exact ⟨logRows, out, string, key, hcall, hserves, hsetup,
      agree_of_lookup hcreated hlast (hstanding _) (hstanding _),
      agree_of_lookup (lookup_holding ..) hlast standing_initial (hstanding _)⟩

/-- The provider is replaced, another session is opened and ended, and a file is asked for without a
path. -/
def replacement : List Invocation :=
  [⟨1, .empty, .stringGenerated 8 ⟨some [1], 1⟩⟩, ⟨1, .empty, .composerNew 3 (some none)⟩,
    ⟨2, .empty, .composerDelete (some 2)⟩, ⟨0, .empty, .stringFromFile none⟩]

theorem provider_and_sessions_apart_replacement :
    let before : List Invocation := [⟨0, .empty, .stringGenerated 4 ⟨none, 0⟩⟩]
    let creation : Invocation := ⟨0, .empty, .composerNew 2 (some none)⟩
    Agree 1 (initial.afterCalls (before ++ [creation]))
        (initial.afterCalls (before ++ creation :: replacement)) ∧
      (initial.afterCalls (before ++ creation :: replacement)).provider.source = .seeded 8 [1] := by
  intro before creation
  obtain ⟨halike, -, -, hsessions, -⟩ := provider_and_sessions_apart
  have hissued : ((initial.afterCalls before).invoke creation).2.issued? = some 1 := by
    decide +kernel
  have hsource : (lastInstalled (initial.history (before ++ creation :: replacement))).source =
      .seeded 8 [1] := by decide +kernel
  have hkept : ∀ i ∈ replacement, i.call ≠ .composerDelete (some 1) := by
    simp [replacement]
  obtain ⟨-, -, -, -, -, -, -, hagree, -⟩ := hsessions before creation replacement 1 hissued hkept
  exact ⟨hagree, (halike _).source.trans hsource⟩

end Library

end SpotCheck.Boundary
