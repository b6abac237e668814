import SpotCheck.Proofs.Bundle
import SpotCheck.Proofs.Command.Steps
import SpotCheck.Proofs.Fibonacci.Detached
import SpotCheck.Proofs.Files

/-!
# Proving and verifying on the command line

The command that proves stores a bundle; the command that verifies accepts it, also against another
reference string, as long as that one has the same first points. It accepts no bundle of which not
all parts can be read and agree.
-/

namespace SpotCheck

open Fibonacci (circuit)

/-- The bundle speaks of a proof that stands against the reference string, under the key. -/
structure ProofBundle.Stands (b : ProofBundle) (string : ReferenceString) (key : Key)
    (proof : Bytes) : Prop where
  keyText : ∃ bytes, Hex.decode b.keyText = .ok bytes ∧ Key.ofBytes bytes string = .ok key
  proofText : Hex.decode b.proofText = .ok proof
  inField : ∀ word ∈ b.initial ++ b.final, word.toNat < modulus
  logRows : key.logRows = b.config.logRows
  accepted : check key circuit proof ⟨b.initial.map Felt.ofWord, b.final.map Felt.ofWord⟩ =
    .ok .accepted

namespace ProofBundle

variable {b : ProofBundle} {bytes : Bytes} {inputs : PublicInputs}

theorem keyBytes_eq_ok_iff : b.keyBytes = .ok bytes ↔ Hex.decode b.keyText = .ok bytes :=
  mapError_eq_ok_iff

theorem proofBytes_eq_ok_iff : b.proofBytes = .ok bytes ↔ Hex.decode b.proofText = .ok bytes :=
  mapError_eq_ok_iff

theorem publicInputs_eq_ok_iff : b.publicInputs = .ok inputs ↔
    (∀ word ∈ b.initial ++ b.final, word.toNat < modulus) ∧
      inputs = ⟨b.initial.map Felt.ofWord, b.final.map Felt.ofWord⟩ := by
  simp only [publicInputs, bind_eq_ok_iff, elements_eq_ok_iff, List.forall_mem_append,
    Except.ok.injEq]
  constructor
  · intro h
    obtain ⟨_, ⟨hinitial, rfl⟩, _, ⟨hfinal, rfl⟩, rfl⟩ := h
    exact ⟨⟨hinitial, hfinal⟩, rfl⟩
  · intro h
    obtain ⟨⟨hinitial, hfinal⟩, rfl⟩ := h
    exact ⟨_, ⟨hinitial, rfl⟩, _, ⟨hfinal, rfl⟩, rfl⟩

end ProofBundle

theorem Fibonacci.Config.isCanonical_inputs (c : Config) :
    (∀ a ∈ c.inputs.initial, a.IsCanonical) ∧ ∀ a ∈ c.inputs.final, a.IsCanonical := by
  have hfirst := Felt.isCanonical_ofWord c.first
  have hsecond := Felt.isCanonical_ofWord c.second
  have houtput : c.output.IsCanonical := by
    unfold output
    split
    · exact Felt.isCanonical_ofWord _
    · exact isCanonical_term hfirst hsecond _
  simp [inputs, hfirst, hsecond, houtput]

namespace Command

/-! ### The command that verifies -/

theorem verify_succeeds_iff {path : String} {srs : Option String} {files : Files} :
    ((verify path srs).report files).ending = .success ↔
      ∃ text bundle string key proof, files.readText path = .ok text ∧
        ProofBundle.parse? text = some bundle ∧
        ((providerFor srs).request files 0).1 = .ok string ∧ bundle.Stands string key proof := by
  rw [ending_report_iff]
  constructor
  · intro h
    obtain ⟨q, h⟩ := h
    simp only [verify, Step.gives_bind, Step.gives_line, Step.gives_readText] at h
    obtain ⟨_, _, rfl, text, _, ⟨htext, rfl⟩, h⟩ := h
    cases hparse : ProofBundle.parse? text with
    | none =>
      rw [hparse] at h
      obtain ⟨_, _, hfail, -⟩ := Step.gives_bind.1 h
      exact absurd hfail Step.not_gives_fail
    | some bundle =>
      rw [hparse] at h
      simp only [Step.gives_bind, Step.gives_pure, Step.gives_get, Step.gives_expect,
        Step.gives_ite, Step.gives_line, Step.gives_timedLine, Outcome.ofResult_eq_ok_iff,
        ProofBundle.keyBytes_eq_ok_iff, ProofBundle.proofBytes_eq_ok_iff,
        ProofBundle.publicInputs_eq_ok_iff, Step.not_gives_fail, false_and, exists_false,
        and_false, false_or] at h
      obtain ⟨bundle, _, ⟨rfl, rfl⟩, _, _, ⟨rfl, rfl⟩, h⟩ := h
      obtain ⟨string, _, ⟨hstring, rfl⟩, bytes, _, ⟨hbytes, rfl⟩, key, _, ⟨hkey, rfl⟩, h⟩ := h
      obtain ⟨hlogRows, _, _, ⟨⟨hinField, rfl⟩, rfl⟩, proof, _, ⟨hproof, rfl⟩, h⟩ := h
      obtain ⟨_, _, rfl, _, _, rfl, verdict, _, ⟨hcheck, rfl⟩, _, _, rfl, h⟩ := h
      cases verdict with
      | accepted =>
        exact ⟨text, bundle, string, key, proof, htext, hparse, hstring,
          ⟨bytes, hbytes, hkey⟩, hproof, hinField, not_not.1 hlogRows, hcheck⟩
      | rejected ground =>
        obtain ⟨_, _, -, hfail⟩ := Step.gives_bind.1 h
        exact absurd hfail Step.not_gives_fail
  · intro h
    obtain ⟨text, bundle, string, key, proof, htext, hparse, hstring, hstands⟩ := h
    obtain ⟨bytes, hbytes, hkey⟩ := hstands.keyText
    simp only [verify, Step.gives_bind, Step.gives_line, Step.gives_readText]
    -- What has been printed at the end is for the steps to say.
    apply Exists.intro
    refine ⟨(), _, rfl, text, _, ⟨htext, rfl⟩, ?_⟩
    rw [hparse]
    simp only [Step.gives_bind, Step.gives_pure, Step.gives_get, Step.gives_expect,
      Step.gives_ite, Step.gives_line, Step.gives_timedLine, Outcome.ofResult_eq_ok_iff,
      ProofBundle.keyBytes_eq_ok_iff, ProofBundle.proofBytes_eq_ok_iff,
      ProofBundle.publicInputs_eq_ok_iff, Step.not_gives_fail, false_and, exists_false,
      and_false, false_or]
    exact ⟨bundle, _, ⟨rfl, rfl⟩, _, _, ⟨rfl, rfl⟩, string, _, ⟨hstring, rfl⟩, bytes, _,
      ⟨hbytes, rfl⟩, key, _, ⟨hkey, rfl⟩, not_not_intro hstands.logRows, _, _,
      ⟨⟨hstands.inField, rfl⟩, rfl⟩, proof, _, ⟨hstands.proofText, rfl⟩, (), _, rfl, (), _, rfl,
      .accepted, _, ⟨hstands.accepted, rfl⟩, (), _, rfl, Step.gives_line.2 rfl⟩

/-! ### The command that proves -/

/-- The parameters that a command works with: those in a file, or else the default ones. -/
def ReadsConfig (files : Files) : Option String → ProverConfig → Prop
  | none, prover => prover = .default
  | some path, prover => ∃ text, files.readText path = .ok text ∧
      (Json.parse? text).bind ProverConfig.ofJson? = some prover

theorem gives_readConfig {path : Option String} {p q : Progress} {prover : ProverConfig} :
    (readConfig path).Gives p prover q ↔ ReadsConfig p.files path prover ∧ q = p := by
  cases path with
  | none => exact Step.gives_pure
  | some path =>
    simp only [readConfig, ReadsConfig, Step.gives_bind, Step.gives_readText]
    constructor
    · intro h
      obtain ⟨text, _, ⟨htext, rfl⟩, h⟩ := h
      cases hconfig : (Json.parse? text).bind ProverConfig.ofJson? with
      | none =>
        rw [hconfig] at h
        exact absurd h Step.not_gives_fail
      | some config =>
        rw [hconfig] at h
        obtain ⟨rfl, rfl⟩ := Step.gives_pure.1 h
        exact ⟨⟨text, htext, hconfig⟩, rfl⟩
    · intro h
      obtain ⟨⟨text, htext, hconfig⟩, rfl⟩ := h
      refine ⟨text, _, ⟨htext, rfl⟩, ?_⟩
      rw [hconfig]
      exact Step.gives_pure.2 ⟨rfl, rfl⟩

/-- The session and the proof that the command makes before it stores a bundle of them. -/
structure Proves (files : Files) (logRows : Nat) (srs config : Option String)
    (session : Fibonacci.Session) (proof : Bytes) : Prop where
  built : ∃ prover, ReadsConfig files config prover ∧
    (Fibonacci.Session.build (Fibonacci.Config.ofLogRows logRows) prover
      ⟨files, providerFor srs, .empty⟩).1 = .ok session
  made : session.createProof.1 = .ok proof
  verified : session.verifyProof proof = .ok true

def bundleOf (session : Fibonacci.Session) (proof : Bytes) : ProofBundle :=
  ProofBundle.make session.witness.config session.witness.inputs session.context.key.toBytes proof

theorem prove_succeeds_iff {logRows : Nat} {srs config : Option String} {output : String}
    {files after : Files} :
    ((prove logRows srs config output).report files).ending = .success ∧
        ((prove logRows srs config output).report files).files = after ↔
      ∃ session proof, Proves files logRows srs config session proof ∧
        files.write output (Bytes.ofText (bundleOf session proof).render) = .ok after := by
  rw [report_iff]
  simp only [prove, Step.gives_bind, Step.gives_line, Step.gives_timedLine, gives_readConfig,
    Step.gives_get, Step.gives_expect, Step.gives_ite, Step.gives_store, Step.not_gives_fail,
    false_and, and_false, exists_false, false_or]
  constructor
  · intro h
    obtain ⟨_, ⟨_, _, rfl, h⟩, rfl⟩ := h
    obtain ⟨prover, _, ⟨hprover, rfl⟩, _, _, rfl, _, _, ⟨rfl, rfl⟩, h⟩ := h
    obtain ⟨session, _, ⟨hbuild, rfl⟩, _, _, rfl, _, _, rfl, h⟩ := h
    obtain ⟨proof, _, ⟨hmade, rfl⟩, _, _, rfl, h⟩ := h
    obtain ⟨valid, _, ⟨hverified, rfl⟩, hvalid, h⟩ := h
    obtain ⟨_, _, ⟨written, hwritten, rfl⟩, _, _, rfl, rfl⟩ := h
    obtain rfl : valid = true := by simpa using hvalid
    exact ⟨session, proof, ⟨⟨prover, hprover, hbuild⟩, hmade, hverified⟩, hwritten⟩
  · intro h
    obtain ⟨session, proof, ⟨⟨prover, hprover, hbuild⟩, hmade, hverified⟩, hwritten⟩ := h
    -- What has been printed at the end is for the steps to say.
    apply Exists.intro
    refine ⟨⟨(), _, rfl, prover, _, ⟨hprover, rfl⟩, (), _, rfl, _, _, ⟨rfl, rfl⟩, session, _,
      ⟨hbuild, rfl⟩, (), _, rfl, (), _, rfl, proof, _, ⟨hmade, rfl⟩, (), _, rfl, true, _,
      ⟨hverified, rfl⟩, by decide, (), _, ⟨after, hwritten, rfl⟩, (), _, rfl, rfl⟩, rfl⟩

section Proves

variable {files : Files} {logRows : Nat} {srs config : Option String}
  {session : Fibonacci.Session} {proof : Bytes} {string other : ReferenceString}

theorem Proves.exists_serves (h : Proves files logRows srs config session proof) :
    ∃ string, ((providerFor srs).request files 0).1 = .ok string := by
  obtain ⟨_, -, hbuild⟩ := h.built
  exact Fibonacci.exists_serves_of_build hbuild

theorem Proves.exists_setup (h : Proves files logRows srs config session proof)
    (hserves : ((providerFor srs).request files 0).1 = .ok string) :
    (Fibonacci.Config.ofLogRows logRows).IsValid ∧ ∃ prover key,
      Key.setup circuit logRows (Fibonacci.Config.ofLogRows logRows).inputs prover string =
        .ok key ∧
      session = Fibonacci.sessionOf (Fibonacci.Config.ofLogRows logRows) string key := by
  obtain ⟨prover, -, hbuild⟩ := h.built
  have hhost : Fibonacci.Host.Serves ⟨files, providerFor srs, .empty⟩ string := hserves
  obtain ⟨hvalid, -, key, hsetup, hsession⟩ := (Fibonacci.build_eq_ok_iff hhost).1 hbuild
  exact ⟨hvalid, prover, key, hsetup, hsession⟩

theorem Proves.publicInputs (h : Proves files logRows srs config session proof) :
    (bundleOf session proof).publicInputs = .ok session.witness.inputs := by
  obtain ⟨string, hserves⟩ := h.exists_serves
  obtain ⟨-, _, key, -, rfl⟩ := h.exists_setup hserves
  obtain ⟨hinitial, hfinal⟩ := (Fibonacci.Config.ofLogRows logRows).isCanonical_inputs
  exact ProofBundle.publicInputs_make hinitial hfinal

theorem Proves.logRows_eq (h : Proves files logRows srs config session proof) :
    session.context.key.logRows = logRows := by
  obtain ⟨string, hserves⟩ := h.exists_serves
  obtain ⟨-, _, key, hsetup, rfl⟩ := h.exists_setup hserves
  exact (Key.isOf_of_setup hsetup).logRows_eq

theorem Proves.parse?_render (h : Proves files logRows srs config session proof) :
    ProofBundle.parse? (bundleOf session proof).render = some (bundleOf session proof) := by
  obtain ⟨string, hserves⟩ := h.exists_serves
  obtain ⟨hvalid, _, key, -, rfl⟩ := h.exists_setup hserves
  have hle : logRows ≤ 20 := hvalid.2
  have hlt : logRows < 2 ^ 32 := by omega
  exact ProofBundle.parse?_render hlt

theorem Proves.stands (h : Proves files logRows srs config session proof)
    (hserves : ((providerFor srs).request files 0).1 = .ok string)
    (hsame : other.points.take (2 ^ logRows - 2) = string.points.take (2 ^ logRows - 2)) :
    (bundleOf session proof).Stands other session.context.key proof := by
  obtain ⟨hinField, hinputs⟩ := ProofBundle.publicInputs_eq_ok_iff.1 h.publicInputs
  have hlogRows := h.logRows_eq
  obtain ⟨hvalid, prover, key, hsetup, rfl⟩ := h.exists_setup hserves
  have hkey := Fibonacci.ofBytes_toBytes_of_setup hvalid hsetup hsame
  have hcheck := Fibonacci.verifyProof_eq_true_iff.1 h.verified
  have hpublic : (Fibonacci.Config.ofLogRows logRows).inputs = _ := hinputs
  rw [hpublic] at hcheck
  exact ⟨⟨key.toBytes, Hex.decode_encode _, hkey⟩, Hex.decode_encode _, hinField, hlogRows, hcheck⟩

end Proves

/-! ### Commands with files -/

theorem request_of_read {path : String} {files : Files} {string : ReferenceString}
    (hread : files.read path = .ok string.toFileBytes)
    (hfile : ReferenceString.ofFileBytes string.toFileBytes = .ok string) :
    ((providerFor (some path)).request files 0).1 = .ok string := by
  have hload : Provider.load files (.file path) = .ok string := by
    rw [Provider.load, ReferenceString.ofFile, hread]
    exact congrArg Outcome.ofResult hfile
  simp [providerFor, Provider.file, Provider.ofSource, Provider.request, hload,
    ReferenceString.ensure]

def sampleFiles : Files :=
  ⟨[(["four"], .file Fibonacci.fourPoints.toFileBytes),
    (["two"], .file (ReferenceString.toFileBytes ⟨[⟨1⟩, ⟨2⟩]⟩)),
    (["config"], .file (Bytes.ofText "\x7b\"num_queries\": 1\x7d"))]⟩

theorem readsConfig_sampleFiles : ReadsConfig sampleFiles (some "config") ⟨1⟩ := by
  have hplain : Files.IsPlain "config" := by decide
  exact ⟨_, Files.readText_eq (hplain.read_eq rfl), by decide +kernel⟩

/-! ### Main theorem -/

/-- What the command that proves has stored is a bundle of its session, whole: it is read back
from its text, and the key, the proof and the public inputs are taken back from it as they were.
The command that verifies accepts it, with any reference string that has the same points for
the rows where constraints are enforced. It accepts a bundle exactly when its key and its proof
can be read, its public inputs are reduced, its number of rows is that of the key and the verdict
is an acceptance. -/
theorem verify_of_prove (logRows : Nat) (srs config : Option String) (output : String)
    (files : Files) :
    (((prove logRows srs config output).report files).ending = .success →
      ∃ string session proof,
        ((providerFor srs).request files 0).1 = .ok string ∧
        Proves files logRows srs config session proof ∧
        ((prove logRows srs config output).report files).files.readText output =
          .ok (bundleOf session proof).render ∧
        ProofBundle.parse? (bundleOf session proof).render = some (bundleOf session proof) ∧
        (bundleOf session proof).keyBytes = .ok session.context.key.toBytes ∧
        (bundleOf session proof).proofBytes = .ok proof ∧
        (bundleOf session proof).publicInputs = .ok session.witness.inputs ∧
        session.context.key.logRows = logRows ∧
        ∀ other : ReferenceString,
          other.points.take (2 ^ logRows - 2) = string.points.take (2 ^ logRows - 2) →
          (bundleOf session proof).Stands other session.context.key proof ∧
          ∀ path srs' files', files'.readText path = .ok (bundleOf session proof).render →
            ((providerFor srs').request files' 0).1 = .ok other →
            ((verify path srs').report files').ending = .success) ∧
    ∀ path srs' files', ((verify path srs').report files').ending = .success ↔
      ∃ text bundle string key proof, files'.readText path = .ok text ∧
        ProofBundle.parse? text = some bundle ∧
        ((providerFor srs').request files' 0).1 = .ok string ∧
        bundle.Stands string key proof := by
  refine ⟨fun hsuccess => ?_, fun _ _ _ => verify_succeeds_iff⟩
  obtain ⟨session, proof, hproves, hwritten⟩ := prove_succeeds_iff.1 ⟨hsuccess, rfl⟩
  obtain ⟨string, hserves⟩ := hproves.exists_serves
  refine ⟨string, session, proof, hserves, hproves, Files.readText_of_write hwritten,
    hproves.parse?_render, ProofBundle.keyBytes_make, ProofBundle.proofBytes_make,
    hproves.publicInputs, hproves.logRows_eq, fun other hsame => ?_⟩
  have hstands := hproves.stands hserves hsame
  refine ⟨hstands, fun path srs' files' htext hother => ?_⟩
  exact verify_succeeds_iff.2 ⟨_, _, other, _, proof, htext, hproves.parse?_render, hother, hstands⟩

/-- A proof of four rows is stored and verified, with four points and with the two that it
needs. -/
theorem verify_of_prove_four_rows :
    ((prove 2 (some "four") (some "config") "out").report sampleFiles).ending = .success ∧
      ((verify "out" (some "two")).report
        ((prove 2 (some "four") (some "config") "out").report sampleFiles).files).ending =
          .success := by
  have hfour : ((providerFor (some "four")).request sampleFiles 0).1 = .ok Fibonacci.fourPoints :=
    request_of_read ((by decide : Files.IsPlain "four").read_eq rfl) (by decide +kernel)
  obtain ⟨p, hprove, hcheck⟩ := Fibonacci.exists_accepted_four_rows
  have hproves : Proves sampleFiles 2 (some "four") (some "config")
      (Fibonacci.sessionOf ⟨2, 1, 1, none⟩ Fibonacci.fourPoints Fibonacci.fourRowsKey) p.toBytes :=
    ⟨⟨⟨1⟩, readsConfig_sampleFiles, Fibonacci.build_four_rows hfour⟩,
      Fibonacci.createProof_of_prove hprove, Fibonacci.verifyProof_eq_true_iff.2 hcheck⟩
  have hfree : sampleFiles.node? ["out"] ≠ some .directory := by decide
  have hwritten := (by decide : Files.IsPlain "out").write_eq hfree
  obtain ⟨hsuccess, hafter⟩ := prove_succeeds_iff.2 ⟨_, _, hproves, hwritten _⟩
  obtain ⟨string, session, proof, hstring, -, hread, -, -, -, -, -, hverify⟩ :=
    (verify_of_prove 2 (some "four") (some "config") "out" sampleFiles).1 hsuccess
  obtain rfl := Except.ok.inj (hfour.symm.trans hstring)
  refine ⟨hsuccess, (hverify ⟨[⟨1⟩, ⟨2⟩]⟩ rfl).2 _ _ _ hread ?_⟩
  rw [hafter]
  exact request_of_read ((by decide : Files.IsPlain "two").read_eq rfl) (by decide +kernel)

end Command

end SpotCheck
