import SpotCheck.Proofs.Boundary.Diagnostics
import SpotCheck.Proofs.Fibonacci.Detached

/-!
# What calls leave in their places

A call that fails leaves its places cleared and the library as it was, for a caller who asks it
anything else. A call that succeeds has filled them all, and it stores the answer of a
verification only if the bytes it was given were judged.
-/

namespace SpotCheck

/-! ### Stated lengths -/

/-- A proof that is read fills the length that is stated for it. -/
theorem Proof.length_of_ofBytes {l : ProofLayout} {bytes : Bytes} {length : Nat} {p : Proof}
    (h : ofBytes l bytes length = .ok p) : length ≤ bytes.length := by
  obtain ⟨size, hsize, h⟩ := bind_eq_ok_iff.1 h
  obtain ⟨rfl, hfits⟩ := ProofLayout.proofSize_eq_ok_iff.1 (Outcome.ofFaulting_eq_ok_iff.1 hsize)
  split at h
  · cases h
  · rename_i hlen
    obtain ⟨perQuery, hcount, hparse⟩ := bind_eq_ok_iff.1 h
    obtain ⟨rfl, -⟩ :=
      ProofLayout.openingsPerQuery_eq_ok_iff.1 (Outcome.ofFaulting_eq_ok_iff.1 hcount)
    obtain ⟨hshape, rest, rfl⟩ := parse_eq_ok_iff.1 (Outcome.ofResult_eq_ok_iff.1 hparse)
    rw [List.length_append, hshape.length_toBytes, Classical.not_not.1 hlen]
    exact Nat.le_add_right ..

theorem length_of_check {key : Key} {c : Circuit} {bytes : Bytes} {inputs : PublicInputs}
    {length : Nat} {verdict : Verdict} (h : check key c bytes inputs length = .ok verdict) :
    length ≤ bytes.length := by
  unfold check at h
  split at h
  · obtain ⟨assertions, hassertions, h⟩ := bind_eq_ok_iff.1 h
    split at h
    · cases h
    · obtain ⟨p, hp, hjudge⟩ := bind_eq_ok_iff.1 h
      exact Proof.length_of_ofBytes (Outcome.relabel_eq_ok_iff.1 hp)
  · cases h

theorem Key.length_of_fields {bytes : Bytes} {length : Nat} {f : Fields}
    (h : fields bytes length = .ok f) : length ≤ bytes.length := by
  simp only [fields, bind_eq_ok_iff, Prod.exists, ite_error_bind_eq_ok_iff, not_not] at h
  obtain ⟨_, _, -, -, _, _, -, _, _, -, h⟩ := h
  split at h
  · simp only [bind_eq_ok_iff, Prod.exists, ite_error_bind_eq_ok_iff, not_not] at h
    obtain ⟨_, -, _, _, -, _, _, -, _, _, -, _, _, -, _, _, -, _, _, -, _, _, -, hrest, -⟩ := h
    omega
  · cases h

theorem Key.length_of_ofBytes {bytes : Bytes} {string : ReferenceString} {length : Nat} {key : Key}
    (h : ofBytes bytes string length = .ok key) : length ≤ bytes.length := by
  obtain ⟨f, hfields, -⟩ := bind_eq_ok_iff.1 h
  exact length_of_fields (mapError_eq_ok_iff.1 hfields)

namespace Boundary

open Fibonacci (Session circuit)

/-! ### Slices -/

namespace Slice

variable {α : Type} {s : Slice α} {items : List α} {what : String}

/-- The items that a call gets to see. -/
def contents (s : Slice α) : List α := (s.items.getD []).take s.length

/-- A null pointer in front of items that should be there. -/
def IsNull (s : Slice α) : Prop := s.items = none ∧ s.length ≠ 0

theorem read_eq_ok_iff : s.read what = .ok items ↔ ¬ s.IsNull ∧ items = s.contents := by
  unfold read contents IsNull
  by_cases hlength : s.length = 0
  · simp [hlength, eq_comm]
  · rw [if_neg hlength]
    cases hitems : s.items <;> simp [hlength, eq_comm]

theorem length_contents_le (s : Slice α) : s.contents.length ≤ s.length := List.length_take_le ..

/-- The slice with a pointer if its length is zero. -/
def filled (s : Slice α) : Slice α := if s.length = 0 then ⟨some [], 0⟩ else s

theorem length_filled (s : Slice α) : s.filled.length = s.length := by
  unfold filled
  split
  · rename_i h
    exact h.symm
  · rfl

theorem read_filled (s : Slice α) (what : String) : s.filled.read what = s.read what := by
  unfold filled
  split
  · rename_i h
    rw [read, read, if_pos rfl, if_pos h]
  · rfl

end Slice

namespace Call

/-- The places of a call that has failed. -/
def cleared : Call → Places
  | createAndVerify valid | verifyProof _ _ valid | verifyWithKey _ _ _ _ valid =>
    .valid (valid.write false)
  | composerNew _ out => .handle (out.write none)
  | createProof _ out | verificationKey _ out => .buffer out.clear
  | circuitSizes _ exact total subgroup => .sizes exact total subgroup
  | _ => .none

/-- One of the slices of a call has a null pointer and should not be empty. -/
def HasNull : Call → Prop
  | stringGenerated _ seed => seed.IsNull
  | verifyProof _ proof _ => proof.IsNull
  | verifyWithKey key proof initial final _ =>
    key.IsNull ∨ proof.IsNull ∨ initial.IsNull ∨ final.IsNull
  | _ => False

/-- The call with pointers for all its empty slices. -/
def filled : Call → Call
  | stringGenerated points seed => .stringGenerated points seed.filled
  | verifyProof composer proof valid => .verifyProof composer proof.filled valid
  | verifyWithKey key proof initial final valid =>
    .verifyWithKey key.filled proof.filled initial.filled final.filled valid
  | call => call

end Call

namespace Library

theorem fieldElements_eq_ok_iff {slice : Slice UInt32} {what : String} {elements : List Felt} :
    fieldElements slice what = .ok elements ↔ ¬ slice.IsNull ∧
      (∀ word ∈ slice.contents, word.toNat < modulus) ∧
      elements = slice.contents.map Felt.ofWord := by
  have hmap : ∀ words : List UInt32,
      List.Forall₂ (fun word element => word.toNat < modulus ∧ Felt.ofWord word = element) words
          elements ↔
        (∀ word ∈ words, word.toNat < modulus) ∧ elements = words.map Felt.ofWord := by
    intro words
    rw [List.forall₂_and_left, ← List.forall₂_map_left_iff, List.forall₂_eq_eq_eq,
      eq_comm (a := elements)]
  simp only [fieldElements, bind_eq_ok_iff, Slice.read_eq_ok_iff, mapM_eq_ok_iff, ite_eq_ok_iff]
  simp only [and_comm (b := UInt32.toNat _ < _), hmap]
  constructor
  · intro h
    obtain ⟨_, ⟨hnull, rfl⟩, h⟩ := h
    exact ⟨hnull, h⟩
  · intro h
    exact ⟨_, ⟨h.1, rfl⟩, h.2⟩

variable {files : Files} {lib after : Library} {call : Call}

/-! ### Places of a successful call -/

/-- The verdict that a call asks for: on the proof that a run makes, on the bytes it is given under
the key and the public inputs of a session, or on the bytes it is given under the key and the public
inputs that it is given. -/
inductive Decides (files : Files) (lib : Library) : Call → Verdict → Prop where
  | run {before : Bool} {session : Session} {bytes : Bytes} {verdict : Verdict}
      (hbuild : (Session.build Fibonacci.Config.default ProverConfig.default (lib.host files)).1 =
        .ok session)
      (hproof : session.createProof.1 = .ok bytes)
      (hcheck : check session.context.key circuit bytes session.witness.inputs = .ok verdict) :
      Decides files lib (.createAndVerify (some before)) verdict
  | session {handle : Handle} {session : Session} {proof : Slice UInt8} {before : Bool}
      {verdict : Verdict} (hlookup : lib.sessions.lookup handle = some session)
      (hnull : ¬ proof.IsNull) (hlength : proof.contents.length = proof.length)
      (hcheck : check session.context.key circuit proof.contents session.witness.inputs =
        .ok verdict) :
      Decides files lib (.verifyProof (some handle) proof (some before)) verdict
  | detached {key proof : Slice UInt8} {initial final : Slice UInt32} {before : Bool}
      {string : ReferenceString} {decoded : Key} {verdict : Verdict}
      (hserves : (lib.host files).Serves string)
      (hnull : ¬ key.IsNull ∧ ¬ proof.IsNull ∧ ¬ initial.IsNull ∧ ¬ final.IsNull)
      (hlength : key.contents.length = key.length ∧ proof.contents.length = proof.length)
      (hwords : ∀ word ∈ initial.contents ++ final.contents, word.toNat < modulus)
      (hkey : Key.ofBytes key.contents string = .ok decoded)
      (hcheck : check decoded circuit proof.contents
        ⟨initial.contents.map Felt.ofWord, final.contents.map Felt.ofWord⟩ = .ok verdict) :
      Decides files lib (.verifyWithKey key proof initial final (some before)) verdict

/-- What a successful call has done for its caller. -/
inductive Fulfilled (files : Files) (lib after : Library) : Call → Places → Prop where
  | decided {call : Call} {verdict : Verdict} (h : Decides files lib call verdict) :
      Fulfilled files lib after call (.valid (some verdict.isAccepted))
  | installed {call : Call} {source : Source} {string : ReferenceString}
      (hsource : call.source? = some source) (hload : Provider.load files source = .ok string)
      (hafter : after.provider = ⟨source, some string⟩) :
      Fulfilled files lib after call .none
  | opened {logRows : Nat} {before : Option Handle} {session : Session} {handle : Handle}
      (hbuild : (Session.build (Fibonacci.Config.ofLogRows logRows) ProverConfig.default
        (lib.host files)).1 = .ok session)
      (hlookup : after.sessions.lookup handle = some session)
      (hhandles : after.handles = handle :: lib.handles) :
      Fulfilled files lib after (.composerNew logRows (some before))
        (.handle (some (some handle)))
  | proof {handle : Handle} {session : Session} {pointer : Option Bytes} {length : Nat}
      {bytes : Bytes} (hlookup : lib.sessions.lookup handle = some session)
      (hproof : session.createProof.1 = .ok bytes) :
      Fulfilled files lib after (.createProof (some handle) ⟨some pointer, some length⟩)
        (.buffer ⟨some (some bytes), some bytes.length⟩)
  | key {handle : Handle} {session : Session} {pointer : Option Bytes} {length : Nat}
      (hlookup : lib.sessions.lookup handle = some session) :
      Fulfilled files lib after (.verificationKey (some handle) ⟨some pointer, some length⟩)
        (.buffer ⟨some (some session.context.key.toBytes),
          some session.context.key.toBytes.length⟩)
  | sizes {logRows exact total subgroup : Nat} {sizes : CircuitSizes}
      (hsizes : Fibonacci.circuitSizes logRows = .ok sizes) :
      Fulfilled files lib after (.circuitSizes logRows (some exact) (some total) (some subgroup))
        (.sizes (some sizes.exact) (some sizes.total) (some sizes.subgroup))
  | logging {filter : Option Bytes} : Fulfilled files lib after (.enableLogging filter) .none

/-- How a body ends: with cleared places or with all that the call was to do. -/
inductive Ends (files : Files) (lib : Library) (call : Call) : Result Places → Prop where
  | failed {after : Library} {places : Places} {stop : Stop String}
      (hcleared : places = call.cleared) : Ends files lib call ⟨after, places, some stop⟩
  | fulfilled {after : Library} {places : Places} (h : Fulfilled files lib after call places) :
      Ends files lib call ⟨after, places, none⟩

theorem check_of_outcome {session : Session} {result : Bool}
    (h : session.outcome = .verified result) :
    ∃ bytes verdict, session.createProof.1 = .ok bytes ∧
      check session.context.key circuit bytes session.witness.inputs = .ok verdict ∧
      verdict.isAccepted = result := by
  unfold Session.outcome at h
  obtain ⟨hwitness, hkey⟩ := session.createProof_keeps
  rcases hproof : session.createProof with ⟨stop | bytes, made⟩
  · rw [hproof] at h
    cases h
  · rw [hproof] at h hwitness hkey
    dsimp only at h hwitness hkey
    cases hverify : made.verifyProof bytes with
    | error stop =>
      rw [hverify] at h
      cases h
    | ok answer =>
      rw [hverify] at h
      cases h
      have hanswer := Outcome.relabel_eq_ok_iff.1 hverify
      rw [ProvingContext.verifyProof, hwitness, hkey] at hanswer
      obtain ⟨verdict, hcheck, haccepted⟩ := verify_eq_ok_iff.1 hanswer
      exact ⟨bytes, verdict, rfl, hcheck, haccepted⟩

theorem ends_createAndVerify (files : Files) (lib : Library) (valid : Place Bool) :
    Ends files lib (.createAndVerify valid)
      ((lib.createAndVerify files valid).inPlaces .valid) := by
  unfold createAndVerify
  cases valid with
  | none => exact .failed rfl
  | some before =>
    dsimp only
    have hrun := Fibonacci.outcome_run Fibonacci.Config.default ProverConfig.default
      (lib.host files)
    rcases hresult : (Fibonacci.proofSystem Fibonacci.Config.default ProverConfig.default).run
      (lib.host files) with ⟨outcome, host⟩
    rw [hresult] at hrun
    dsimp only at hrun
    cases outcome with
    | failed failure => exact .failed rfl
    | verified result =>
      cases hbuild : (Session.build Fibonacci.Config.default ProverConfig.default
        (lib.host files)).1 with
      | error stop =>
        rw [hbuild] at hrun
        cases hrun
      | ok session =>
        rw [hbuild] at hrun
        obtain ⟨bytes, verdict, hproof, hcheck, rfl⟩ := check_of_outcome hrun.symm
        exact .fulfilled (.decided (.run hbuild hproof hcheck))

theorem ends_installProvider (files : Files) (lib : Library) {source : Source} {call : Call}
    (hsource : call.source? = some source) (hcleared : .none = call.cleared) :
    Ends files lib call ((lib.installProvider files source).inPlaces fun _ => .none) := by
  unfold installProvider
  cases hloaded : Provider.loaded files source with
  | error stop => exact .failed hcleared
  | ok provider =>
    obtain ⟨string, hload, rfl⟩ := Provider.loaded_eq_ok_iff.1 hloaded
    exact .fulfilled (.installed hsource hload rfl)

theorem ends_stringGenerated (files : Files) (lib : Library) (points : Nat) (seed : Slice UInt8) :
    Ends files lib (.stringGenerated points seed)
      ((lib.stringGenerated files points seed).inPlaces fun _ => .none) := by
  unfold stringGenerated
  cases hread : seed.read "seed" with
  | error text => exact .failed rfl
  | ok bytes => exact ends_installProvider files lib (by rw [Call.source?, hread]) rfl

theorem ends_stringFromFile (files : Files) (lib : Library) (path : Option Bytes) :
    Ends files lib (.stringFromFile path)
      ((lib.stringFromFile files path).inPlaces fun _ => .none) := by
  unfold stringFromFile
  cases path with
  | none => exact .failed rfl
  | some bytes =>
    dsimp only
    cases herror : Text.utf8Error? (foreignText bytes) with
    | some error => exact .failed rfl
    | none => exact ends_installProvider files lib (by rw [Call.source?, herror]) rfl

theorem ends_composerNew (files : Files) (lib : Library) (logRows : Nat)
    (out : Place (Option Handle)) :
    Ends files lib (.composerNew logRows out)
      ((lib.composerNew files logRows out).inPlaces .handle) := by
  unfold composerNew
  cases out with
  | none => exact .failed rfl
  | some before =>
    dsimp only
    rcases hbuild : Session.build (Fibonacci.Config.ofLogRows logRows) ProverConfig.default
      (lib.host files) with ⟨stop | session, host⟩
    · exact .failed rfl
    · refine .fulfilled (.opened (congrArg Prod.fst hbuild) ?_ rfl)
      show List.lookup _ (_ :: _) = _
      rw [lookup_cons, if_pos rfl]

theorem ends_handOut (files : Files) (lib current : Library) (out : BufferPlaces) (bytes : Bytes)
    {call : Call} (hcleared : .buffer out.clear = call.cleared)
    (hfulfilled : ∀ pointer length, out = ⟨some pointer, some length⟩ →
      Fulfilled files lib current call (.buffer ⟨some (some bytes), some bytes.length⟩)) :
    Ends files lib call ((current.handOut out.clear bytes).inPlaces .buffer) := by
  obtain ⟨pointer, length⟩ := out
  cases pointer with
  | none => exact .failed hcleared
  | some pointer =>
    cases length with
    | none => exact .failed hcleared
    | some length => exact .fulfilled (hfulfilled pointer length rfl)

theorem ends_createProof (files : Files) (lib : Library) (composer : Option Handle)
    (out : BufferPlaces) :
    Ends files lib (.createProof composer out)
      ((lib.createProof composer out).inPlaces .buffer) := by
  unfold createProof
  cases hsession : lib.session composer "zkbind_composer_create_proof" with
  | error text => exact .failed rfl
  | ok found =>
    obtain ⟨handle, session⟩ := found
    obtain ⟨rfl, hlookup⟩ := session_eq_ok hsession
    dsimp only
    rcases hproof : session.createProof with ⟨stop | bytes, made⟩
    · exact .failed rfl
    · refine ends_handOut files lib _ out bytes rfl fun pointer length hout => ?_
      rw [hout]
      exact .proof hlookup (congrArg Prod.fst hproof)

theorem ends_verificationKey (files : Files) (lib : Library) (composer : Option Handle)
    (out : BufferPlaces) :
    Ends files lib (.verificationKey composer out)
      ((lib.verificationKey composer out).inPlaces .buffer) := by
  unfold verificationKey
  cases hsession : lib.session composer "zkbind_composer_get_verification_key" with
  | error text => exact .failed rfl
  | ok found =>
    obtain ⟨handle, session⟩ := found
    obtain ⟨rfl, hlookup⟩ := session_eq_ok hsession
    refine ends_handOut files lib _ out _ rfl fun pointer length hout => ?_
    rw [hout]
    exact .key hlookup

theorem ends_storeVerdict (files : Files) (lib current : Library) {call : Call}
    {answer : Outcome Fibonacci.SessionError Bool}
    (hcleared : .valid (some false) = call.cleared)
    (hdecides : ∀ result, answer = .ok result →
      ∃ verdict, Decides files lib call verdict ∧ verdict.isAccepted = result) :
    Ends files lib call ((current.storeVerdict answer).inPlaces .valid) := by
  unfold storeVerdict
  cases answer with
  | error stop => exact .failed hcleared
  | ok result =>
    obtain ⟨verdict, hverdict, rfl⟩ := hdecides result rfl
    exact .fulfilled (.decided hverdict)

theorem ends_verifyProof (files : Files) (lib : Library) (composer : Option Handle)
    (proof : Slice UInt8) (valid : Place Bool) :
    Ends files lib (.verifyProof composer proof valid)
      ((lib.verifyProof composer proof valid).inPlaces .valid) := by
  unfold verifyProof
  cases valid with
  | none => exact .failed rfl
  | some before =>
    dsimp only
    cases hsession : lib.session composer "zkbind_composer_verify_proof" with
    | error text => exact .failed rfl
    | ok found =>
      obtain ⟨handle, session⟩ := found
      obtain ⟨rfl, hlookup⟩ := session_eq_ok hsession
      dsimp only
      cases hread : proof.read "proof" with
      | error text => exact .failed rfl
      | ok bytes =>
        obtain ⟨hnull, rfl⟩ := Slice.read_eq_ok_iff.1 hread
        refine ends_storeVerdict files lib lib rfl fun result hanswer => ?_
        obtain ⟨verdict, hcheck, haccepted⟩ :=
          verify_eq_ok_iff.1 (Outcome.relabel_eq_ok_iff.1 hanswer)
        have hlength : proof.contents.length = proof.length :=
          Nat.le_antisymm proof.length_contents_le (length_of_check hcheck)
        rw [← hlength] at hcheck
        exact ⟨verdict, .session hlookup hnull hlength hcheck, haccepted⟩

theorem detachedArguments_eq_ok_iff {key proof : Slice UInt8} {initial final : Slice UInt32}
    {keyBytes proofBytes : Bytes} {inputs : PublicInputs} :
    detachedArguments key proof initial final = .ok (keyBytes, proofBytes, inputs) ↔
      (¬ key.IsNull ∧ ¬ proof.IsNull ∧ ¬ initial.IsNull ∧ ¬ final.IsNull) ∧
      (∀ word ∈ initial.contents ++ final.contents, word.toNat < modulus) ∧
      keyBytes = key.contents ∧ proofBytes = proof.contents ∧
      inputs = ⟨initial.contents.map Felt.ofWord, final.contents.map Felt.ofWord⟩ := by
  simp only [detachedArguments, bind_eq_ok_iff, Slice.read_eq_ok_iff, fieldElements_eq_ok_iff,
    Except.ok.injEq, Prod.mk.injEq, List.forall_mem_append]
  constructor
  · intro h
    obtain ⟨_, ⟨hkey, rfl⟩, _, ⟨hproof, rfl⟩, _, ⟨hinitial, hwords, rfl⟩, _, ⟨hfinal, hwords', rfl⟩,
      rfl, rfl, rfl⟩ := h
    exact ⟨⟨hkey, hproof, hinitial, hfinal⟩, ⟨hwords, hwords'⟩, rfl, rfl, rfl⟩
  · intro h
    obtain ⟨⟨hkey, hproof, hinitial, hfinal⟩, ⟨hwords, hwords'⟩, rfl, rfl, rfl⟩ := h
    exact ⟨_, ⟨hkey, rfl⟩, _, ⟨hproof, rfl⟩, _, ⟨hinitial, hwords, rfl⟩, _,
      ⟨hfinal, hwords', rfl⟩, rfl, rfl, rfl⟩

theorem ends_verifyWithKey (files : Files) (lib : Library) (key proof : Slice UInt8)
    (initial final : Slice UInt32) (valid : Place Bool) :
    Ends files lib (.verifyWithKey key proof initial final valid)
      ((lib.verifyWithKey files key proof initial final valid).inPlaces .valid) := by
  unfold verifyWithKey
  cases valid with
  | none => exact .failed rfl
  | some before =>
    dsimp only
    cases harguments : detachedArguments key proof initial final with
    | error text => exact .failed rfl
    | ok arguments =>
      obtain ⟨keyBytes, proofBytes, inputs⟩ := arguments
      obtain ⟨hnull, hwords, rfl, rfl, rfl⟩ := detachedArguments_eq_ok_iff.1 harguments
      refine ends_storeVerdict files lib _ rfl fun result hanswer => ?_
      unfold Fibonacci.verifyDetached at hanswer
      rcases hrequest : (lib.host files).request 0 with ⟨stop | string, host⟩
      · rw [hrequest, Outcome.relabel_eq_ok_iff] at hanswer
        cases hanswer
      · rw [hrequest] at hanswer
        dsimp only at hanswer
        cases hkey : Key.ofBytes key.contents string key.length with
        | error cause =>
          rw [hkey] at hanswer
          cases hanswer
        | ok decoded =>
          rw [hkey, Outcome.relabel_eq_ok_iff] at hanswer
          obtain ⟨verdict, hcheck, haccepted⟩ := verify_eq_ok_iff.1 hanswer
          have hlengthKey : key.contents.length = key.length :=
            Nat.le_antisymm key.length_contents_le (Key.length_of_ofBytes hkey)
          have hlength : proof.contents.length = proof.length :=
            Nat.le_antisymm proof.length_contents_le (length_of_check hcheck)
          rw [← hlengthKey] at hkey
          rw [← hlength] at hcheck
          exact ⟨verdict, .detached (congrArg Prod.fst hrequest) hnull ⟨hlengthKey, hlength⟩ hwords
            hkey hcheck, haccepted⟩

theorem ends_circuitSizes (files : Files) (lib : Library) (logRows : Nat)
    (exact total subgroup : Place Nat) :
    Ends files lib (.circuitSizes logRows exact total subgroup)
      ((lib.circuitSizes logRows ⟨exact, total, subgroup⟩).inPlaces fun out =>
        .sizes out.exact out.total out.subgroup) := by
  unfold circuitSizes
  cases exact with
  | none => exact .failed rfl
  | some exact =>
    cases total with
    | none => exact .failed rfl
    | some total =>
      cases subgroup with
      | none => exact .failed rfl
      | some subgroup =>
        dsimp only [Option.isSome_some, Bool.and_true, if_true]
        cases hsizes : Fibonacci.circuitSizes logRows with
        | error cause => exact .failed rfl
        | ok sizes => exact .fulfilled (.sizes hsizes)

theorem ends_enableLogging (files : Files) (lib : Library) (filter : Option Bytes) :
    Ends files lib (.enableLogging filter)
      ((lib.enableLogging filter).inPlaces fun _ => .none) := by
  unfold enableLogging
  dsimp only
  split
  · exact .failed rfl
  · exact .failed rfl
  · split
    · exact .failed rfl
    · exact .fulfilled .logging

theorem ends_body {entry : String} (files : Files) (lib : Library)
    (hentry : call.entry? = some entry) : Ends files lib call (lib.body files call) := by
  cases call with
  | createAndVerify valid => exact ends_createAndVerify ..
  | stringGenerated points seed => exact ends_stringGenerated ..
  | stringFromFile path => exact ends_stringFromFile ..
  | composerNew logRows out => exact ends_composerNew ..
  | createProof composer out => exact ends_createProof ..
  | verificationKey composer out => exact ends_verificationKey ..
  | verifyProof composer proof valid => exact ends_verifyProof ..
  | verifyWithKey key proof initial final valid => exact ends_verifyWithKey ..
  | circuitSizes logRows exact total subgroup => exact ends_circuitSizes ..
  | enableLogging filter => exact ends_enableLogging ..
  | _ => cases hentry

theorem Decides.not_hasNull {verdict : Verdict} (h : Decides files lib call verdict) :
    ¬ call.HasNull := by
  cases h with
  | run => exact not_false
  | session hlookup hnull hlength hcheck => exact hnull
  | detached hserves hnull hlength hwords hkey hcheck =>
    obtain ⟨hkey, hproof, hinitial, hfinal⟩ := hnull
    rintro (h | h | h | h)
    · exact hkey h
    · exact hproof h
    · exact hinitial h
    · exact hfinal h

theorem Fulfilled.not_hasNull {places : Places} (h : Fulfilled files lib after call places) :
    ¬ call.HasNull := by
  cases h with
  | decided hverdict => exact hverdict.not_hasNull
  | installed hsource hload hafter =>
    cases call with
    | stringGenerated points seed =>
      intro hnull
      rw [Call.source?] at hsource
      split at hsource
      · rename_i hread
        exact (Slice.read_eq_ok_iff.1 hread).1 hnull
      · cases hsource
    | stringFromFile path => exact not_false
    | _ => cases hsource
  | _ => exact not_false

theorem Fulfilled.decides_accepted (h : Fulfilled files lib after call (.valid (some true))) :
    Decides files lib call .accepted := by
  generalize hplaces : Places.valid (some true) = places at h
  cases h with
  | @decided call verdict hverdict =>
    cases verdict with
    | accepted => exact hverdict
    | rejected ground => cases hplaces
  | _ => cases hplaces

theorem cleared_ne_true (call : Call) : call.cleared ≠ .valid (some true) := by
  intro h
  cases call with
  | createAndVerify valid | verifyProof _ _ valid | verifyWithKey _ _ _ _ valid =>
    cases valid <;> cases h
  | _ => cases h

/-! ### Calls -/

/-- How a call ends: it fails, it succeeds, or it is one that returns no diagnostic. -/
inductive Ending (files : Files) (lib after : Library) (call : Call) :
    Places → Returned → Prop where
  | failed {text : String} (hkept : Kept files lib after) :
      Ending files lib after call call.cleared (.diagnostic (some text))
  | fulfilled {places : Places} (h : Fulfilled files lib after call places) :
      Ending files lib after call places (.diagnostic none)
  | silent {returned : Returned} (hentry : call.entry? = none)
      (hreturned : ∀ text, returned ≠ .diagnostic text) :
      Ending files lib after call .none returned

theorem kept_of_diagnostic {result : Library × Places × Returned} {text : String}
    (heffect : Effect files lib call result) (h : result.2.2 = .diagnostic (some text)) :
    Kept files lib result.1 := by
  cases heffect with
  | kept hkept hfails hdead => exact hkept
  | _ => cases h

theorem ending_step (files : Files) (lib : Library) (thread : Thread) (call : Call) :
    Ending files lib (lib.step files thread call).1 call (lib.step files thread call).2.1
      (lib.step files thread call).2.2 := by
  cases hentry : call.entry? with
  | none =>
    cases call with
    | composerDelete composer => exact .silent rfl nofun
    | freeBytes | lastDiagnostic | liveSessions => exact .silent rfl nofun
    | _ => cases hentry
  | some entry =>
    have hends := ends_body files lib hentry
    have heffect := effect_step files lib thread call
    rw [step_eq_settle hentry] at heffect ⊢
    generalize lib.body files call = result at hends heffect ⊢
    cases hends with
    | failed hcleared =>
      rw [settle_of_some rfl] at heffect ⊢
      subst hcleared
      exact .failed (kept_of_diagnostic heffect rfl)
    | fulfilled h => exact .fulfilled h

theorem step_filled (files : Files) (lib : Library) (thread : Thread) (call : Call) :
    lib.step files thread call.filled = lib.step files thread call := by
  cases call with
  | stringGenerated points seed =>
    simp only [Call.filled, step, stringGenerated, Slice.read_filled]
  | verifyProof composer proof valid =>
    simp only [Call.filled, step, verifyProof, Slice.read_filled, Slice.length_filled]
  | verifyWithKey key proof initial final valid =>
    simp only [Call.filled, step, verifyWithKey, detachedArguments, fieldElements,
      Slice.read_filled, Slice.length_filled]
  | _ => rfl

/-! ### Main theorem -/

/-- A diagnostic means cleared places and a library that is as it was to its callers; no diagnostic
means that the call has done all it was to do. A verification stores true only if its bytes were
accepted under its key and its public inputs. A null pointer in front of items is a failure, and
one in front of none is as good as any other. -/
theorem places_of_step (files : Files) (lib : Library) (thread : Thread) (call : Call) :
    (∀ text, (lib.step files thread call).2.2 = .diagnostic (some text) →
      (lib.step files thread call).2.1 = call.cleared ∧
        Kept files lib (lib.step files thread call).1) ∧
    ((lib.step files thread call).2.2 = .diagnostic none →
      Fulfilled files lib (lib.step files thread call).1 call
        (lib.step files thread call).2.1) ∧
    ((lib.step files thread call).2.1 = .valid (some true) → Decides files lib call .accepted) ∧
    (call.HasNull → ∃ text, (lib.step files thread call).2.2 = .diagnostic (some text)) ∧
    lib.step files thread call.filled = lib.step files thread call := by
  have hending := ending_step files lib thread call
  rw [step_filled]
  generalize lib.step files thread call = result at hending ⊢
  obtain ⟨after, places, returned⟩ := result
  dsimp only at hending ⊢
  cases hending with
  | failed hkept =>
    exact ⟨fun _ _ => ⟨rfl, hkept⟩, nofun, fun h => absurd h (cleared_ne_true call),
      fun _ => ⟨_, rfl⟩, rfl⟩
  | fulfilled h =>
    refine ⟨nofun, fun _ => h, fun hplaces => ?_, fun hnull => absurd hnull h.not_hasNull, rfl⟩
    rw [hplaces] at h
    exact h.decides_accepted
  | silent hentry hreturned =>
    refine ⟨fun text h => absurd h (hreturned _), fun h => absurd h (hreturned _), nofun,
      fun hnull => ?_, rfl⟩
    cases call <;> first | exact hnull.elim | cases hentry

/-- A stale answer is cleared when the key is a null pointer; an empty seed needs no pointer. -/
theorem places_of_step_null_pointers :
    (initial.step .empty 0
        (.verifyWithKey ⟨none, 3⟩ ⟨none, 0⟩ ⟨none, 0⟩ ⟨none, 0⟩ (some true))).2.1 =
        .valid (some false) ∧
      Fulfilled .empty initial (initial.step .empty 0 (.stringGenerated 4 ⟨none, 0⟩)).1
        (.stringGenerated 4 ⟨none, 0⟩) .none := by
  obtain ⟨hcleared, -, -, hnull, -⟩ := places_of_step .empty initial 0
    (.verifyWithKey ⟨none, 3⟩ ⟨none, 0⟩ ⟨none, 0⟩ ⟨none, 0⟩ (some true))
  obtain ⟨text, htext⟩ := hnull (.inl ⟨rfl, by decide⟩)
  obtain ⟨-, hdone, -⟩ := places_of_step .empty initial 0 (.stringGenerated 4 ⟨none, 0⟩)
  have hstop : (initial.body .empty (.stringGenerated 4 ⟨none, 0⟩)).stop = none :=
    Option.isNone_iff_eq_none.1 (by decide +kernel)
  have hstep := settle_of_none hstop 0 "zkbind_srs_init_generated" id
  rw [← step_eq_settle rfl] at hstep
  rw [hstep] at hdone ⊢
  exact ⟨(hcleared text htext).1, hdone rfl⟩

end Library

end Boundary

end SpotCheck
