import SpotCheck.Boundary.Library
import SpotCheck.Proofs.Fibonacci.Session

/-!
# What a call does to the library

All but a few calls leave the library as it is, as far as a caller can tell: sessions answer as
before, as many of them are live, and the provider is the same, though it may have loaded its
string. The others install a provider, open a session or end one. A call that returns a diagnostic
is never one of these.
-/

namespace SpotCheck.Boundary

open Fibonacci (Session Host)

/-! ### Sessions by their handles -/

section Entries

variable {sessions : List (Handle × Session)} {handle other : Handle} {session : Session}

theorem lookup_cons (entry : Handle × Session) (sessions : List (Handle × Session))
    (handle : Handle) :
    (entry :: sessions).lookup handle =
      if handle = entry.1 then some entry.2 else sessions.lookup handle := by
  rw [List.lookup_cons]
  by_cases h : handle = entry.1
  · rw [if_pos h, beq_iff_eq.2 h]
  · rw [if_neg h, beq_eq_false_iff_ne.2 h]

theorem lookup_isSome_iff : (sessions.lookup handle).isSome ↔ handle ∈ sessions.map (·.1) := by
  induction sessions with
  | nil => simp
  | cons entry sessions ih =>
    rw [lookup_cons, List.map_cons, List.mem_cons, ← ih]
    by_cases h : handle = entry.1 <;> simp [h]

theorem lookup_replace :
    (sessions.map fun entry => if entry.1 = handle then (handle, session) else entry).lookup other =
      if other = handle then (sessions.lookup other).map fun _ => session
      else sessions.lookup other := by
  induction sessions with
  | nil => simp
  | cons entry sessions ih =>
    obtain ⟨key, value⟩ := entry
    rw [List.map_cons, lookup_cons, lookup_cons, ih]
    by_cases hkey : key = handle
    · by_cases hother : other = handle <;> simp [hkey, hother]
    · by_cases hother : other = key
      · simp [hkey, hother]
      · simp [hkey, hother]

theorem map_fst_replace :
    (sessions.map fun entry => if entry.1 = handle then (handle, session) else entry).map (·.1) =
      sessions.map (·.1) := by
  rw [List.map_map]
  refine List.map_congr_left fun entry _ => ?_
  by_cases h : entry.1 = handle <;> simp [h]

theorem lookup_remove :
    (sessions.filter (·.1 ≠ handle)).lookup other =
      if other = handle then none else sessions.lookup other := by
  induction sessions with
  | nil => simp
  | cons entry sessions ih =>
    obtain ⟨key, value⟩ := entry
    rw [List.filter_cons, lookup_cons]
    by_cases hkey : key = handle
    · rw [if_neg (by simp [hkey]), ih]
      by_cases hother : other = handle <;> simp [hkey, hother]
    · rw [if_pos (by simp [hkey]), lookup_cons, ih]
      by_cases hother : other = key
      · simp [hkey, hother]
      · simp [hother]

end Entries

/-! ### Kinds of calls -/

namespace Call

/-- The entry point of a call that returns a diagnostic; the other calls cannot fail. -/
def entry? : Call → Option String
  | createAndVerify _ => some "zkbind_simple_create_and_verify_proof"
  | stringGenerated .. => some "zkbind_srs_init_generated"
  | stringFromFile _ => some "zkbind_srs_init_from_file"
  | composerNew .. => some "zkbind_composer_new"
  | createProof .. => some "zkbind_composer_create_proof"
  | verificationKey .. => some "zkbind_composer_get_verification_key"
  | verifyProof .. => some "zkbind_composer_verify_proof"
  | verifyWithKey .. => some "zkbind_verify_with_key"
  | circuitSizes .. => some "zkbind_get_circuit_sizes"
  | enableLogging _ => some "zkbind_enable_logging"
  | composerDelete _ | freeBytes | lastDiagnostic | liveSessions => none

/-- The handle that a call is given. -/
def composer? : Call → Option Handle
  | createProof composer _ | verificationKey composer _ | verifyProof composer _ _
  | composerDelete composer => composer
  | _ => none

/-- The source that a call asks to install, if it can be read from the arguments. -/
def source? : Call → Option Source
  | stringGenerated points seed =>
    match seed.read "seed" with
    | .ok bytes => some (.seeded points bytes)
    | .error _ => none
  | stringFromFile (some path) =>
    match Text.utf8Error? (foreignText path) with
    | none => some (.file (Text.lossy (foreignText path)))
    | some _ => none
  | _ => none

def Installs : Call → Prop
  | stringGenerated .. | stringFromFile _ => True
  | _ => False

def Opens : Call → Prop
  | composerNew .. => True
  | _ => False

end Call

namespace Library

def handles (lib : Library) : List Handle := lib.sessions.map (·.1)

/-- The library as a caller finds it is the same: the handles and what their sessions answer, the
number of live sessions and the provider, which may have loaded its string. -/
structure Kept (files : Files) (lib after : Library) : Prop where
  handles : after.handles = lib.handles
  sessions : ∀ handle session, lib.sessions.lookup handle = some session →
    ∃ count, after.sessions.lookup handle = some (session.withCount count)
  nextHandle : after.nextHandle = lib.nextHandle
  ledger : ∃ count, after.ledger = ⟨lib.ledger.opened + count, lib.ledger.closed + count⟩
  provider : lib.provider.Loads files after.provider

variable {files : Files} {lib after : Library}

namespace Kept

theorem refl (files : Files) (lib : Library) : Kept files lib lib where
  handles := rfl
  sessions _ session h := ⟨session.context.proofsCreated, h⟩
  nextHandle := rfl
  ledger := ⟨0, rfl⟩
  provider := .kept

theorem live (h : Kept files lib after) : after.live = lib.live := by
  obtain ⟨count, hledger⟩ := h.ledger
  unfold Library.live SessionLedger.live
  rw [hledger]
  exact Nat.add_sub_add_right ..

end Kept

/-- What a body leaves: the library as it was, with the slots of all threads. -/
structure KeptByBody (files : Files) (lib after : Library) : Prop extends
    Kept files lib after where
  slots : after.slots = lib.slots

theorem KeptByBody.refl (files : Files) (lib : Library) : KeptByBody files lib lib :=
  ⟨.refl files lib, rfl⟩

theorem kept_withHost {provider : Provider} (count : Nat)
    (hprovider : lib.provider.Loads files provider) :
    KeptByBody files lib (lib.withHost
      ⟨files, provider, ⟨lib.ledger.opened + count, lib.ledger.closed + count⟩⟩) where
  handles := rfl
  sessions _ session h := ⟨session.context.proofsCreated, h⟩
  nextHandle := rfl
  ledger := ⟨count, rfl⟩
  provider := hprovider
  slots := rfl

theorem kept_putSession {handle : Handle} {session : Session} (count : Nat)
    (hlookup : lib.sessions.lookup handle = some session) :
    KeptByBody files lib (lib.putSession handle (session.withCount count)) where
  handles := map_fst_replace
  sessions other held hother := by
    show ∃ count, (lib.sessions.map _).lookup other = _
    rw [lookup_replace]
    by_cases h : other = handle
    · obtain rfl : session = held := by
        rw [h, hlookup] at hother
        exact Option.some.inj hother
      exact ⟨count, by rw [if_pos h, hother, Option.map_some]⟩
    · exact ⟨held.context.proofsCreated, by rw [if_neg h, hother]; rfl⟩
  nextHandle := rfl
  ledger := ⟨0, rfl⟩
  provider := .kept
  slots := rfl

/-! ### Bodies -/

theorem stop_stopped {Out ε : Type} (lib : Library) (places : Out) (words : String)
    (describe : ε → String) (stop : Stop ε) :
    (Result.stopped lib places words describe stop).stop ≠ none := by
  simp [Result.stopped]

theorem kept_createAndVerify (lib : Library) (files : Files) (valid : Place Bool) :
    KeptByBody files lib (lib.createAndVerify files valid).library := by
  unfold createAndVerify
  cases valid with
  | none => exact .refl files lib
  | some before =>
    dsimp only
    obtain ⟨provider, hloads, hhost⟩ :=
      Fibonacci.host_run Fibonacci.Config.default ProverConfig.default (lib.host files)
    rcases hrun : (Fibonacci.proofSystem Fibonacci.Config.default ProverConfig.default).run
      (lib.host files) with ⟨outcome, host⟩
    rw [hrun] at hhost
    dsimp only at hhost
    have hkept : KeptByBody files lib (lib.withHost host) := by
      rw [hhost]
      cases (Session.build Fibonacci.Config.default ProverConfig.default (lib.host files)).1 with
      | error stop => exact kept_withHost 0 hloads
      | ok session => exact kept_withHost 1 hloads
    cases outcome with
    | verified valid => exact hkept
    | failed failure => exact hkept

theorem composerNew_cases (lib : Library) (files : Files) (logRows : Nat)
    (out : Place (Option Handle)) :
    (KeptByBody files lib (lib.composerNew files logRows out).library ∧
        (lib.composerNew files logRows out).stop ≠ none) ∨
      ∃ before session provider, out = some before ∧ lib.provider.Loads files provider ∧
        (Session.build (Fibonacci.Config.ofLogRows logRows) ProverConfig.default
          (lib.host files)).1 = .ok session ∧
        lib.composerNew files logRows out =
          .success
            { lib with
              provider := provider
              ledger := lib.ledger.enter
              sessions := (lib.nextHandle, session) :: lib.sessions
              nextHandle := lib.nextHandle + 1 }
            (some (some lib.nextHandle)) := by
  unfold composerNew
  cases out with
  | none => exact .inl ⟨.refl files lib, by simp [Result.failure]⟩
  | some before =>
    dsimp only
    obtain ⟨provider, hloads, hhost⟩ := Fibonacci.host_build
      (Fibonacci.Config.ofLogRows logRows) ProverConfig.default (lib.host files)
    rcases hbuild : Session.build (Fibonacci.Config.ofLogRows logRows) ProverConfig.default
      (lib.host files) with ⟨stop | session, host⟩
    · rw [hbuild] at hhost
      dsimp only at hhost ⊢
      refine .inl ⟨?_, stop_stopped _ _ _ _ _⟩
      rw [hhost]
      exact kept_withHost 0 hloads
    · rw [hbuild] at hhost
      dsimp only at hhost
      refine .inr ⟨before, session, provider, rfl, hloads, rfl, ?_⟩
      rw [hhost]
      rfl

theorem library_handOut (lib : Library) (out : BufferPlaces) (bytes : Bytes) :
    (lib.handOut out bytes).library = lib := by
  unfold handOut
  cases out.store bytes <;> rfl

theorem library_storeVerdict (lib : Library) (answer : Outcome Fibonacci.SessionError Bool) :
    (lib.storeVerdict answer).library = lib := by
  unfold storeVerdict
  cases answer <;> rfl

theorem session_eq_ok {composer : Option Handle} {entry : String} {handle : Handle}
    {session : Session} (h : lib.session composer entry = .ok (handle, session)) :
    composer = some handle ∧ lib.sessions.lookup handle = some session := by
  unfold Library.session at h
  cases composer with
  | none => cases h
  | some held =>
    dsimp only at h
    cases hlookup : lib.sessions.lookup held with
    | none =>
      rw [hlookup] at h
      cases h
    | some found =>
      rw [hlookup] at h
      cases h
      exact ⟨rfl, hlookup⟩

theorem kept_createProof (lib : Library) (files : Files) (composer : Option Handle)
    (out : BufferPlaces) : KeptByBody files lib (lib.createProof composer out).library := by
  unfold createProof
  cases hsession : lib.session composer "zkbind_composer_create_proof" with
  | error text => exact .refl files lib
  | ok found =>
    obtain ⟨handle, session⟩ := found
    obtain ⟨-, hlookup⟩ := session_eq_ok hsession
    obtain ⟨count, hcount⟩ := session.exists_withCount_createProof
    rcases hproof : session.createProof with ⟨answer, after⟩
    obtain rfl : after = session.withCount count := by rw [← hcount, hproof]
    dsimp only
    rw [hproof]
    cases answer with
    | error stop => exact kept_putSession count hlookup
    | ok bytes =>
      dsimp only
      rw [library_handOut]
      exact kept_putSession count hlookup

theorem library_verificationKey (lib : Library) (composer : Option Handle) (out : BufferPlaces) :
    (lib.verificationKey composer out).library = lib := by
  unfold verificationKey
  cases lib.session composer "zkbind_composer_get_verification_key" with
  | error text => rfl
  | ok found => exact library_handOut ..

theorem library_verifyProof (lib : Library) (composer : Option Handle) (proof : Slice UInt8)
    (valid : Place Bool) : (lib.verifyProof composer proof valid).library = lib := by
  unfold verifyProof
  cases valid with
  | none => rfl
  | some before =>
    dsimp only
    cases lib.session composer "zkbind_composer_verify_proof" with
    | error text => rfl
    | ok found =>
      dsimp only
      cases proof.read "proof" with
      | error text => rfl
      | ok bytes => exact library_storeVerdict ..

theorem kept_verifyWithKey (lib : Library) (files : Files) (key proof : Slice UInt8)
    (initial final : Slice UInt32) (valid : Place Bool) :
    KeptByBody files lib (lib.verifyWithKey files key proof initial final valid).library := by
  unfold verifyWithKey
  cases valid with
  | none => exact .refl files lib
  | some before =>
    dsimp only
    cases detachedArguments key proof initial final with
    | error text => exact .refl files lib
    | ok arguments =>
      obtain ⟨keyBytes, proofBytes, inputs⟩ := arguments
      dsimp only
      rw [library_storeVerdict]
      have hhost : (Fibonacci.verifyDetached (lib.host files) keyBytes proofBytes inputs
          key.length proof.length).2 =
          ⟨files, (lib.provider.request files 0).2, lib.ledger⟩ := by
        unfold Fibonacci.verifyDetached
        rcases hrequest : (lib.host files).request 0 with ⟨stop | string, host⟩
        · exact (congrArg Prod.snd hrequest).symm
        · dsimp only
          cases Key.ofBytes keyBytes string key.length with
          | error cause => exact (congrArg Prod.snd hrequest).symm
          | ok decoded => exact (congrArg Prod.snd hrequest).symm
      rw [hhost]
      exact kept_withHost 0 (lib.provider.loads_request files 0)

theorem library_circuitSizes (lib : Library) (logRows : Nat) (out : SizePlaces) :
    (lib.circuitSizes logRows out).library = lib := by
  unfold circuitSizes
  split
  · cases Fibonacci.circuitSizes logRows <;> rfl
  · rfl

theorem kept_enableLogging (lib : Library) (files : Files) (filter : Option Bytes) :
    KeptByBody files lib (lib.enableLogging filter).library := by
  have hrefl := KeptByBody.refl files lib
  unfold enableLogging
  dsimp only
  split
  · exact hrefl
  · exact hrefl
  · split
    · exact hrefl
    · exact ⟨⟨hrefl.handles, hrefl.sessions, hrefl.nextHandle, hrefl.ledger, hrefl.provider⟩, rfl⟩

def Result.inPlaces {Out : Type} (r : Result Out) (places : Out → Places) : Result Places :=
  ⟨r.library, places r.places, r.stop⟩

/-- The body of a call, which does not know the thread. Calls without a diagnostic have
none. -/
def body (lib : Library) (files : Files) : Call → Result Places
  | .createAndVerify valid => (lib.createAndVerify files valid).inPlaces .valid
  | .stringGenerated points seed =>
    (lib.stringGenerated files points seed).inPlaces fun _ => .none
  | .stringFromFile path => (lib.stringFromFile files path).inPlaces fun _ => .none
  | .composerNew logRows out => (lib.composerNew files logRows out).inPlaces .handle
  | .createProof composer out => (lib.createProof composer out).inPlaces .buffer
  | .verificationKey composer out => (lib.verificationKey composer out).inPlaces .buffer
  | .verifyProof composer proof valid => (lib.verifyProof composer proof valid).inPlaces .valid
  | .verifyWithKey key proof initial final valid =>
    (lib.verifyWithKey files key proof initial final valid).inPlaces .valid
  | .circuitSizes logRows exact total subgroup =>
    (lib.circuitSizes logRows ⟨exact, total, subgroup⟩).inPlaces fun out =>
      .sizes out.exact out.total out.subgroup
  | .enableLogging filter => (lib.enableLogging filter).inPlaces fun _ => .none
  | .composerDelete _ | .freeBytes | .lastDiagnostic | .liveSessions => .success lib .none

theorem kept_body (files : Files) (lib : Library) {call : Call} (hinstalls : ¬ call.Installs)
    (hopens : ¬ call.Opens) : KeptByBody files lib (lib.body files call).library := by
  have hrefl := KeptByBody.refl files lib
  cases call with
  | createAndVerify valid => exact kept_createAndVerify ..
  | stringGenerated points seed => exact absurd trivial hinstalls
  | stringFromFile path => exact absurd trivial hinstalls
  | composerNew logRows out => exact absurd trivial hopens
  | createProof composer out => exact kept_createProof ..
  | verificationKey composer out => exact (library_verificationKey lib composer out).symm ▸ hrefl
  | verifyProof composer proof valid =>
    exact (library_verifyProof lib composer proof valid).symm ▸ hrefl
  | verifyWithKey key proof initial final valid => exact kept_verifyWithKey ..
  | circuitSizes logRows exact total subgroup =>
    exact (library_circuitSizes lib logRows _).symm ▸ hrefl
  | enableLogging filter => exact kept_enableLogging ..
  | composerDelete composer => exact hrefl
  | freeBytes => exact hrefl
  | lastDiagnostic => exact hrefl
  | liveSessions => exact hrefl

/-! ### Calls -/

theorem step_eq_settle {call : Call} {entry : String} (h : call.entry? = some entry)
    (files : Files) (lib : Library) (thread : Thread) :
    lib.step files thread call = (lib.body files call).settle thread entry id := by
  cases call <;> cases h <;> rfl

/-- What a call can do to the library, with what it gives back. -/
inductive Effect (files : Files) (lib : Library) : Call → Library × Places × Returned → Prop where
  | kept {call : Call} {after : Library} {places : Places} {returned : Returned}
      (hkept : Kept files lib after)
      (hfails : returned = .diagnostic none → ¬ call.Installs ∧ ¬ call.Opens)
      (hheld : ∀ handle, call = .composerDelete (some handle) → handle ∉ lib.handles) :
      Effect files lib call (after, places, returned)
  | installed {call : Call} {source : Source} {string : ReferenceString}
      (hsource : call.source? = some source) (hload : Provider.load files source = .ok string) :
      Effect files lib call
        ({ lib with provider := ⟨source, some string⟩ }, .none, .diagnostic none)
  | opened {logRows : Nat} {before : Option Handle} {session : Session} {provider : Provider}
      (hbuild : (Session.build (Fibonacci.Config.ofLogRows logRows) ProverConfig.default
        (lib.host files)).1 = .ok session)
      (hprovider : lib.provider.Loads files provider) :
      Effect files lib (.composerNew logRows (some before))
        ({ lib with
            provider := provider
            ledger := lib.ledger.enter
            sessions := (lib.nextHandle, session) :: lib.sessions
            nextHandle := lib.nextHandle + 1 },
          .handle (some (some lib.nextHandle)), .diagnostic none)
  | ended {handle : Handle} (hheld : handle ∈ lib.handles) :
      Effect files lib (.composerDelete (some handle))
        ({ lib with
            ledger := lib.ledger.leave
            sessions := lib.sessions.filter (·.1 ≠ handle) },
          .none, .nothing)

/-- The text under which a call reports why its body has stopped. -/
def stopText (entry : String) : Stop String → String
  | .refused text => text
  | .fault f => entry ++ ": panic: " ++ f.message

theorem settle_of_none {Out : Type} {r : Result Out} (h : r.stop = none) (thread : Thread)
    (entry : String) (places : Out → Places) :
    r.settle thread entry places = (r.library, places r.places, .diagnostic none) := by
  rw [Result.settle, h]

/-- The library once a thread has been given a diagnostic. -/
def reporting (lib : Library) (thread : Thread) (text : String) : Library :=
  { lib with slots := fun t => if t = thread then (lib.slots t).keep text else lib.slots t }

theorem settle_of_some {Out : Type} {r : Result Out} {stop : Stop String} (h : r.stop = some stop)
    (thread : Thread) (entry : String) (places : Out → Places) :
    r.settle thread entry places =
      (r.library.reporting thread (foreignMessage (stopText entry stop)), places r.places,
        .diagnostic (some ((r.library.slots thread).told
          (foreignMessage (stopText entry stop))))) := by
  rw [Result.settle, h]
  cases stop <;> rfl

theorem Kept.reporting (h : Kept files lib after) (thread : Thread) (text : String) :
    Kept files lib (after.reporting thread text) :=
  ⟨h.handles, h.sessions, h.nextHandle, h.ledger, h.provider⟩

theorem effect_settle {Out : Type} {call : Call} {entry : String} {r : Result Out}
    (hentry : call.entry? = some entry) (hkept : Kept files lib r.library)
    (hstop : r.stop = none → ¬ call.Installs ∧ ¬ call.Opens) (thread : Thread)
    (places : Out → Places) : Effect files lib call (r.settle thread entry places) := by
  have hheld : ∀ handle, call = .composerDelete (some handle) → handle ∉ lib.handles := by
    intro handle h
    rw [h] at hentry
    cases hentry
  cases hr : r.stop with
  | none =>
    rw [settle_of_none hr]
    exact .kept hkept (fun _ => hstop hr) hheld
  | some stop =>
    rw [settle_of_some hr]
    exact .kept (hkept.reporting ..) (fun h => by cases h) hheld

/-- The end of a call that installs the string of its source: that string, or a diagnostic. -/
inductive Installation (files : Files) (lib : Library) (thread : Thread) :
    Option Source → Library × Places × Returned → Prop where
  | done {source : Source} {string : ReferenceString}
      (hload : Provider.load files source = .ok string) :
      Installation files lib thread (some source)
        ({ lib with provider := ⟨source, some string⟩ }, .none, .diagnostic none)
  | failed {source : Option Source} {text told : String}
      (hload : ∀ s string, source = some s → Provider.load files s ≠ .ok string) :
      Installation files lib thread source
        (lib.reporting thread text, .none, .diagnostic (some told))

theorem installation_installProvider (lib : Library) (files : Files) (source : Source)
    (thread : Thread) (entry : String) :
    Installation files lib thread (some source)
      ((lib.installProvider files source).settle thread entry fun _ => .none) := by
  unfold installProvider
  cases hloaded : Provider.loaded files source with
  | error stop =>
    dsimp only
    rw [settle_of_some rfl]
    refine .failed fun s string hs hload => ?_
    cases hs
    rw [Provider.loaded_eq_ok_iff.2 ⟨string, hload, rfl⟩] at hloaded
    cases hloaded
  | ok provider =>
    obtain ⟨string, hload, rfl⟩ := Provider.loaded_eq_ok_iff.1 hloaded
    exact .done hload

theorem installation_step (files : Files) (lib : Library) (thread : Thread) {call : Call}
    (h : call.Installs) :
    Installation files lib thread call.source? (lib.step files thread call) := by
  cases call with
  | stringGenerated points seed =>
    rw [step, stringGenerated, Call.source?]
    cases seed.read "seed" with
    | error text => exact .failed nofun
    | ok bytes => exact installation_installProvider ..
  | stringFromFile path =>
    rw [step, stringFromFile.eq_def, Call.source?.eq_def]
    cases path with
    | none => exact .failed nofun
    | some bytes =>
      dsimp only
      cases Text.utf8Error? (foreignText bytes) with
      | some error => exact .failed nofun
      | none => exact installation_installProvider ..
  | _ => exact h.elim

theorem Installation.effect {call : Call} {thread : Thread} {result : Library × Places × Returned}
    (h : Installation files lib thread call.source? result) (hcall : call.Installs) :
    Effect files lib call result := by
  generalize hsource : call.source? = source at h
  cases h with
  | done hload => exact .installed hsource hload
  | failed hload =>
    refine .kept ((Kept.refl files lib).reporting ..) (fun h => by cases h) fun handle h => ?_
    rw [h] at hcall
    exact hcall.elim

theorem effect_composerNew (files : Files) (lib : Library) (thread : Thread) (logRows : Nat)
    (out : Place (Option Handle)) :
    Effect files lib (.composerNew logRows out)
      (lib.step files thread (.composerNew logRows out)) := by
  rw [step]
  rcases composerNew_cases lib files logRows out with
    ⟨hkept, hstop⟩ | ⟨before, session, provider, rfl, hprovider, hbuild, hresult⟩
  · exact effect_settle rfl hkept.toKept (fun h => absurd h hstop) thread _
  · rw [hresult]
    exact .opened hbuild hprovider

theorem effect_composerDelete (files : Files) (lib : Library) (thread : Thread)
    (composer : Option Handle) :
    Effect files lib (.composerDelete composer)
      (lib.step files thread (.composerDelete composer)) := by
  rw [step]
  cases composer with
  | none => exact .kept (.refl files lib) (fun h => by cases h) (fun handle h => by cases h)
  | some handle =>
    have hheld : (lib.sessions.lookup handle).isSome ↔ handle ∈ lib.handles := lookup_isSome_iff
    rw [composerDelete]
    cases hlookup : lib.sessions.lookup handle with
    | none =>
      rw [hlookup] at hheld
      refine .kept (.refl files lib) (fun h => by cases h) fun other h => ?_
      cases h
      exact fun hmem => Bool.false_ne_true (hheld.2 hmem)
    | some session =>
      rw [hlookup] at hheld
      exact .ended (hheld.1 rfl)

theorem effect_step (files : Files) (lib : Library) (thread : Thread) (call : Call) :
    Effect files lib call (lib.step files thread call) := by
  by_cases hinstalls : call.Installs
  · exact (installation_step files lib thread hinstalls).effect hinstalls
  by_cases hopens : call.Opens
  · cases call with
    | composerNew logRows out => exact effect_composerNew ..
    | _ => exact hopens.elim
  cases hentry : call.entry? with
  | some entry =>
    rw [step_eq_settle hentry]
    exact effect_settle hentry (kept_body files lib hinstalls hopens).toKept
      (fun _ => ⟨hinstalls, hopens⟩) thread id
  | none =>
    cases call with
    | composerDelete composer => exact effect_composerDelete ..
    | freeBytes | lastDiagnostic | liveSessions =>
      exact .kept (.refl files lib) (fun h => by cases h) (fun handle h => by cases h)
    | _ => cases hentry

end Library

end SpotCheck.Boundary
