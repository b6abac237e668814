import Mathlib.Data.Fin.VecNotation
import SpotCheck.Proofs.Fibonacci.Session
import SpotCheck.Proofs.Session.Interleaving

/-!
# Interleaved runs of the Fibonacci circuit

Runs that share a provider and a ledger take turns. All that one of them does to the provider is to
have it load the string that it would load for any other, so each ends as it would alone; and the
ledger has as many more sessions live as there are runs with a session.
-/

namespace SpotCheck

/-- The source is a file, which others may write to. -/
def Source.isFile : Source → Bool
  | .file _ => true
  | _ => false

theorem Provider.isSteady_of_not_isFile {source : Source} (h : source.isFile = false) :
    (Provider.ofSource source).IsSteady := by
  intro _ files files'
  cases source with
  | file path => cases h
  | _ => rfl

namespace Fibonacci

/-- The host's provider is one of the source, which has loaded its string or has not. -/
def Host.IsOfSource (source : Source) (host : Host) : Prop :=
  (Provider.ofSource source).Loads host.files host.provider

variable {source : Source} {host host' : Host}

theorem Host.IsOfSource.answer_eq (hsource : source.isFile = false) (h : host.IsOfSource source)
    (h' : host'.IsOfSource source) (least : Nat) :
    (host.request least).1 = (host'.request least).1 := by
  have hsteady := Provider.isSteady_of_not_isFile hsource
  calc (host.provider.request host.files least).1
      = ((Provider.ofSource source).request host.files least).1 :=
        (h.alike hsteady).answers host.files least
    _ = ((Provider.ofSource source).request host'.files least).1 :=
        hsteady.answer_eq host.files host'.files least
    _ = (host'.provider.request host'.files least).1 :=
        ((h'.alike hsteady).answers host'.files least).symm

/-! ### One stage -/

/-- A stage has the provider load its string, if anything, and the ledger counts a session that it
opens or closes. -/
theorem host_advance (config : Config) (prover : ProverConfig) (state : RunState Session)
    (host : Host) :
    ∃ provider ledger, host.provider.Loads host.files provider ∧
      ((proofSystem config prover).advance state host).2 = ⟨host.files, provider, ledger⟩ ∧
      ledger.opened + host.ledger.closed + state.isOpen.toNat =
        host.ledger.opened + ledger.closed +
          ((proofSystem config prover).advance state host).1.isOpen.toNat := by
  cases state with
  | waiting =>
    obtain ⟨provider, hloads, hhost⟩ := host_build config prover host
    have hb : (proofSystem config prover).build host = Session.build config prover host := rfl
    rcases hbuild : Session.build config prover host with ⟨stop | s, after⟩
    · rw [hbuild] at hhost
      refine ⟨provider, host.ledger, hloads, ?_, ?_⟩ <;>
        simp only [ProofSystem.advance, hb, hbuild, hhost, RunState.isOpen]
    · rw [hbuild] at hhost
      refine ⟨provider, host.ledger.enter, hloads, ?_, ?_⟩ <;>
        simp only [ProofSystem.advance, hb, hbuild, hhost, RunState.isOpen, SessionLedger.enter,
          Bool.toNat_true, Bool.toNat_false]
      omega
  | built s =>
    refine ⟨host.provider, host.ledger, .kept, ?_, ?_⟩ <;>
      rcases hproof : s.createProof with ⟨stop | proof, s'⟩ <;>
      simp only [ProofSystem.advance, proofSystem, hproof, RunState.isOpen]
  | proved s proof =>
    refine ⟨host.provider, host.ledger, .kept, ?_, ?_⟩ <;>
      rcases hanswer : s.verifyProof proof with stop | valid <;>
      simp only [ProofSystem.advance, proofSystem, hanswer, RunState.isOpen]
  | leaving s outcome =>
    refine ⟨host.provider, host.ledger.leave, .kept, rfl, ?_⟩
    simp only [ProofSystem.advance, RunState.isOpen, SessionLedger.leave, Bool.toNat_true,
      Bool.toNat_false]
    omega
  | ended outcome => exact ⟨host.provider, host.ledger, .kept, rfl, rfl⟩

theorem state_advance_congr (config : Config) (prover : ProverConfig) (state : RunState Session)
    (h : ∀ least, (host.request least).1 = (host'.request least).1) :
    ((proofSystem config prover).advance state host).1 =
      ((proofSystem config prover).advance state host').1 := by
  cases state with
  | waiting =>
    have hbuild : ((proofSystem config prover).build host).1 =
        ((proofSystem config prover).build host').1 := build_congr config prover h
    simp only [ProofSystem.advance]
    rcases hb : (proofSystem config prover).build host with ⟨answer, after⟩
    rcases hb' : (proofSystem config prover).build host' with ⟨answer', after'⟩
    rw [hb, hb'] at hbuild
    obtain rfl : answer = answer' := hbuild
    cases answer <;> rfl
  | built s =>
    rcases hproof : s.createProof with ⟨stop | proof, s'⟩ <;>
      simp only [ProofSystem.advance, proofSystem, hproof]
  | proved s proof =>
    rcases hanswer : s.verifyProof proof with stop | valid <;>
      simp only [ProofSystem.advance, proofSystem, hanswer]
  | leaving s outcome => rfl
  | ended outcome => rfl

theorem indifferent_proofSystem (hsource : source.isFile = false) (config : Config)
    (prover : ProverConfig) :
    (proofSystem config prover).Indifferent (Host.IsOfSource source) where
  stays state host h := by
    obtain ⟨provider, ledger, hloads, hhost, -⟩ := host_advance config prover state host
    rw [hhost]
    exact Provider.Loads.trans h hloads
  state state host host' h h' :=
    state_advance_congr config prover state (h.answer_eq hsource h')

/-! ### Main theorem -/

def systems {n : Nat} (runs : Fin n → Config × ProverConfig) (i : Fin n) :
    ProofSystem Host Session SessionError :=
  proofSystem (runs i).1 (runs i).2

theorem ledger_interleaved {n : Nat} (runs : Fin n → Config × ProverConfig) (host : Host)
    (schedule : List (Fin n)) :
    (Runs.interleaved (systems runs) host schedule).world.ledger.opened + host.ledger.closed =
      host.ledger.opened + (Runs.interleaved (systems runs) host schedule).world.ledger.closed +
        (Runs.interleaved (systems runs) host schedule).numOpen := by
  induction schedule using List.reverseRecOn with
  | nil => exact congrArg (host.ledger.opened + host.ledger.closed + ·) Runs.numOpen_start.symm
  | append_singleton schedule i ih =>
    rw [Runs.interleaved_append]
    generalize Runs.interleaved (systems runs) host schedule = shared at ih
    obtain ⟨provider, ledger, -, hhost, hledger⟩ :=
      host_advance (runs i).1 (runs i).2 (shared.states i) shared.world
    have hopen := shared.numOpen_step (systems runs) i
    have hworld : (shared.step (systems runs) i).world.ledger = ledger :=
      congrArg Host.ledger hhost
    have hstate : (shared.step (systems runs) i).states i =
        ((proofSystem (runs i).1 (runs i).2).advance (shared.states i) shared.world).1 :=
      shared.states_step_self i
    rw [hworld]
    rw [hstate] at hopen
    omega

/-- Runs that share a ledger and a provider in memory or from a seed, in whatever order their
stages come and whatever their configurations: each has ended after four stages, as it ends alone
with a provider and a ledger of its own; the ledger is ahead of where it was by the runs that have
a session; and when all have ended it is where it was. -/
theorem interleaved_eq_alone {n : Nat} {source : Source} {host : Host}
    (hsource : source.isFile = false) (hprovider : host.IsOfSource source)
    (runs : Fin n → Config × ProverConfig) (schedule : List (Fin n)) (files : Files) :
    let shared := Runs.interleaved (systems runs) host schedule
    let alone i := ((systems runs i).run ⟨files, .ofSource source, .empty⟩).1
    (∀ i, 4 ≤ schedule.count i → shared.states i = .ended (alone i)) ∧
      (∀ i outcome, shared.states i = .ended outcome → outcome = alone i) ∧
      (shared.world.ledger.opened - shared.world.ledger.closed : Int) =
        host.ledger.opened - host.ledger.closed + shared.numOpen ∧
      ((∀ i, ∃ outcome, shared.states i = .ended outcome) →
        shared.world.ledger.live = host.ledger.live) := by
  intro shared alone
  have hfresh : Host.IsOfSource source ⟨files, .ofSource source, .empty⟩ := .kept
  have hstate (i : Fin n) : shared.states i =
      ((systems runs i).after ⟨files, .ofSource source, .empty⟩ (schedule.count i)).1 :=
    Runs.states_interleaved (fun i => indifferent_proofSystem hsource (runs i).1 (runs i).2)
      hprovider hfresh schedule i
  have hcount : shared.world.ledger.opened + host.ledger.closed =
      host.ledger.opened + shared.world.ledger.closed + shared.numOpen :=
    ledger_interleaved runs host schedule
  refine ⟨fun i hi => ?_, fun i outcome hended => ?_, ?_, fun hended => ?_⟩
  · rw [hstate i, ProofSystem.after_of_four_le hi]
  · rw [hstate i] at hended
    exact ProofSystem.outcome_of_after hended
  · omega
  · have hnone : shared.numOpen = 0 := Runs.numOpen_of_ended hended
    unfold SessionLedger.live
    omega

/-- Two runs take turns, of which one claims a wrong output, where three sessions were opened and
one was closed before. -/
theorem interleaved_eq_alone_two_runs :
    ∃ shared, shared = Runs.interleaved
        (systems ![(⟨2, 1, 1, none⟩, ⟨1⟩), (⟨2, 1, 1, some 4⟩, ⟨1⟩)])
        ⟨.empty, .memory fourPoints, ⟨3, 1⟩⟩ [0, 1, 1, 0, 1, 0, 0, 1] ∧
      shared.states 0 = .ended (.verified true) ∧
      shared.states 1 = .ended (.failed (.proving (ProvingError.boundary 3 0 ⟨3⟩ ⟨4⟩).message)) ∧
      shared.world.ledger.live = 2 := by
  have hprovider : Host.IsOfSource (.memory fourPoints) ⟨.empty, .memory fourPoints, ⟨3, 1⟩⟩ :=
    .kept
  obtain ⟨hended, -, -, hlive⟩ := interleaved_eq_alone rfl hprovider
    ![(⟨2, 1, 1, none⟩, ⟨1⟩), (⟨2, 1, 1, some 4⟩, ⟨1⟩)] [0, 1, 1, 0, 1, 0, 0, 1] .empty
  obtain ⟨shared, hshared⟩ : ∃ shared, shared = Runs.interleaved
      (systems ![(⟨2, 1, 1, none⟩, ⟨1⟩), (⟨2, 1, 1, some 4⟩, ⟨1⟩)])
      ⟨.empty, .memory fourPoints, ⟨3, 1⟩⟩ [0, 1, 1, 0, 1, 0, 0, 1] := ⟨_, rfl⟩
  rw [← hshared] at hended hlive
  have hserves : (Provider.ofSource (.memory fourPoints)).Serves fourPoints := ⟨rfl, .inl rfl⟩
  have houtcome (claimed : Option UInt32) :
      ((proofSystem ⟨2, 1, 1, claimed⟩ ⟨1⟩).run
        ⟨.empty, .ofSource (.memory fourPoints), .empty⟩).1 =
      expectedOutcome ⟨2, 1, 1, claimed⟩ ⟨1⟩ fourPoints :=
    outcome_eq_expectedOutcome hserves (samplingEnds_of_one_query _ _)
  have hfirst : shared.states 0 = .ended (.verified true) := by
    have hexpected : expectedOutcome ⟨2, 1, 1, none⟩ ⟨1⟩ fourPoints = .verified true := by
      decide +kernel
    rw [← hexpected, ← houtcome]
    exact hended 0 (by decide)
  have hsecond : shared.states 1 =
      .ended (.failed (.proving (ProvingError.boundary 3 0 ⟨3⟩ ⟨4⟩).message)) := by
    have hexpected : expectedOutcome ⟨2, 1, 1, some 4⟩ ⟨1⟩ fourPoints =
        .failed (.proving (ProvingError.boundary 3 0 ⟨3⟩ ⟨4⟩).message) := by
      decide +kernel
    rw [← hexpected, ← houtcome]
    exact hended 1 (by decide)
  refine ⟨shared, hshared, hfirst, hsecond, hlive fun i => ?_⟩
  match i with
  | 0 => exact ⟨_, hfirst⟩
  | 1 => exact ⟨_, hsecond⟩

end Fibonacci

end SpotCheck
