import Mathlib.Algebra.BigOperators.Pi
import SpotCheck.Proofs.Session.Runs

/-!
# Interleaved runs

A run is taken apart into its stages, each of which happens at once. Runs that share a world take
turns, one stage at a time, in the order of a schedule. If nothing that the runs do to the world
makes a difference to their answers, every run gets as far as it would have come alone.
-/

namespace SpotCheck

variable {World Session ε : Type}

inductive RunState (Session : Type) where
  | waiting
  | built (session : Session)
  | proved (session : Session) (proof : Bytes)
  /-- The outcome is settled and the session not released yet. -/
  | leaving (session : Session) (outcome : RunOutcome)
  | ended (outcome : RunOutcome)

/-- The run is between its build, which has succeeded, and its release. -/
def RunState.isOpen : RunState Session → Bool
  | waiting => false
  | built _ => true
  | proved .. => true
  | leaving .. => true
  | ended _ => false

namespace ProofSystem

/-- The next stage of a run. -/
def advance (sys : ProofSystem World Session ε) (state : RunState Session) (world : World) :
    RunState Session × World :=
  match state with
  | .waiting =>
    match sys.build world with
    | (.error stop, world) => (.ended (.failed (.setup (stop.cause sys.describe))), world)
    | (.ok session, world) => (.built session, world)
  | .built session =>
    match sys.synthesize session world with
    | (.error stop, session, world) =>
      (.leaving session (.failed (.proving (stop.cause sys.describe))), world)
    | (.ok proof, session, world) => (.proved session proof, world)
  | .proved session proof =>
    match sys.verify session proof world with
    | (.error stop, session, world) =>
      (.leaving session (.failed (.verification (stop.cause sys.describe))), world)
    | (.ok valid, session, world) => (.leaving session (.verified valid), world)
  | .leaving session outcome => (.ended outcome, (sys.releaseSession session world).2)
  | .ended outcome => (.ended outcome, world)

/-- A run on its own after a number of stages. -/
def after (sys : ProofSystem World Session ε) (world : World) : Nat → RunState Session × World
  | 0 => (.waiting, world)
  | stages + 1 => sys.advance (sys.after world stages).1 (sys.after world stages).2

/-! ### Runs on their own -/

variable {sys : ProofSystem World Session ε} {world : World}

theorem after_add_of_ended {stages : Nat} {outcome : RunOutcome} {w : World}
    (h : sys.after world stages = (.ended outcome, w)) (more : Nat) :
    sys.after world (stages + more) = (.ended outcome, w) := by
  induction more with
  | zero => exact h
  | succ more ih => rw [← Nat.add_assoc, after, ih, advance]

theorem after_four (sys : ProofSystem World Session ε) (world : World) :
    sys.after world 4 = (.ended (sys.run world).1, (sys.run world).2) := by
  rcases hb : sys.build world with ⟨stop | s, w⟩
  · have hone : sys.after world 1 = (.ended (.failed (.setup (stop.cause sys.describe))), w) := by
      simp only [after, advance, hb]
    rw [run_of_build_error hb, after_add_of_ended hone 3]
  · have hone : sys.after world 1 = (.built s, w) := by
      simp only [after, advance, hb]
    rcases hs : sys.synthesize s w with ⟨stop | proof, s', w'⟩
    · have htwo : sys.after world 2 =
          (.leaving s' (.failed (.proving (stop.cause sys.describe))), w') := by
        rw [after, hone, advance, hs]
      have hthree : sys.after world 3 = (.ended (.failed (.proving (stop.cause sys.describe))),
          (sys.release s' w').2) := by
        rw [after, htwo, advance, releaseSession_world]
      rw [run_of_synthesize_error hb hs, after_add_of_ended hthree 1]
    · have htwo : sys.after world 2 = (.proved s' proof, w') := by
        rw [after, hone, advance, hs]
      rcases hv : sys.verify s' proof w' with ⟨stop | valid, s'', w''⟩
      · have hthree : sys.after world 3 =
            (.leaving s'' (.failed (.verification (stop.cause sys.describe))), w'') := by
          rw [after, htwo, advance, hv]
        rw [run_of_verify_error hb hs hv, after, hthree, advance, releaseSession_world]
      · have hthree : sys.after world 3 = (.leaving s'' (.verified valid), w'') := by
          rw [after, htwo, advance, hv]
        rw [run_of_verify_ok hb hs hv, after, hthree, advance, releaseSession_world]

theorem after_of_four_le {stages : Nat} (h : 4 ≤ stages) :
    sys.after world stages = (.ended (sys.run world).1, (sys.run world).2) := by
  obtain ⟨more, rfl⟩ := Nat.exists_eq_add_of_le h
  exact after_add_of_ended (sys.after_four world) more

/-- A run that has ended, after however many stages, has the outcome of the whole run. -/
theorem outcome_of_after {stages : Nat} {outcome : RunOutcome}
    (h : (sys.after world stages).1 = .ended outcome) : outcome = (sys.run world).1 := by
  have hended : sys.after world stages = (.ended outcome, (sys.after world stages).2) := by
    rw [← h]
  have hfour := after_add_of_ended hended 4
  rw [after_of_four_le (Nat.le_add_left 4 stages)] at hfour
  exact (RunState.ended.inj (congrArg Prod.fst hfour)).symm

end ProofSystem

/-! ### Runs that take turns -/

structure Runs (World Session : Type) (n : Nat) where
  states : Fin n → RunState Session
  world : World

namespace Runs

variable {n : Nat}

def start (world : World) : Runs World Session n := ⟨fun _ => .waiting, world⟩

def step (systems : Fin n → ProofSystem World Session ε) (runs : Runs World Session n)
    (i : Fin n) : Runs World Session n :=
  let (state, world) := (systems i).advance (runs.states i) runs.world
  ⟨Function.update runs.states i state, world⟩

/-- The runs after the stages of a schedule, which names for each stage the run that has it. -/
def interleaved (systems : Fin n → ProofSystem World Session ε) (world : World)
    (schedule : List (Fin n)) : Runs World Session n :=
  schedule.foldl (step systems) (start world)

/-- The number of runs between their build and their release. -/
def numOpen (runs : Runs World Session n) : Nat := ∑ i, (runs.states i).isOpen.toNat

variable {systems : Fin n → ProofSystem World Session ε} {world : World}

theorem interleaved_append (schedule : List (Fin n)) (i : Fin n) :
    interleaved systems world (schedule ++ [i]) =
      (interleaved systems world schedule).step systems i := by
  rw [interleaved, interleaved, List.foldl_append]
  rfl

theorem states_step_self (runs : Runs World Session n) (i : Fin n) :
    (runs.step systems i).states i = ((systems i).advance (runs.states i) runs.world).1 :=
  Function.update_self ..

theorem states_step_of_ne (runs : Runs World Session n) {i j : Fin n} (h : j ≠ i) :
    (runs.step systems i).states j = runs.states j :=
  Function.update_of_ne h ..

theorem numOpen_step (systems : Fin n → ProofSystem World Session ε) (runs : Runs World Session n)
    (i : Fin n) :
    (runs.step systems i).numOpen + (runs.states i).isOpen.toNat =
      runs.numOpen + ((runs.step systems i).states i).isOpen.toNat := by
  have hothers : ∑ j ∈ Finset.univ.erase i, ((runs.step systems i).states j).isOpen.toNat =
      ∑ j ∈ Finset.univ.erase i, (runs.states j).isOpen.toNat := by
    refine Finset.sum_congr rfl fun j hj => ?_
    rw [states_step_of_ne runs (Finset.ne_of_mem_erase hj)]
  rw [numOpen, numOpen, ← Finset.add_sum_erase _ _ (Finset.mem_univ i),
    ← Finset.add_sum_erase Finset.univ (fun j => (runs.states j).isOpen.toNat)
      (Finset.mem_univ i), hothers]
  omega

theorem numOpen_start : (start world : Runs World Session n).numOpen = 0 := by
  simp [numOpen, start, RunState.isOpen]

theorem numOpen_of_ended {runs : Runs World Session n}
    (h : ∀ i, ∃ outcome, runs.states i = .ended outcome) : runs.numOpen = 0 := by
  refine Finset.sum_eq_zero fun i _ => ?_
  obtain ⟨outcome, hended⟩ := h i
  rw [hended]
  rfl

end Runs

/-! ### Independence -/

/-- A set of worlds that the system does not leave, and that all look the same to it. -/
structure ProofSystem.Indifferent (sys : ProofSystem World Session ε) (among : World → Prop) :
    Prop where
  stays : ∀ state {world}, among world → among (sys.advance state world).2
  state : ∀ state {world world'}, among world → among world' →
    (sys.advance state world).1 = (sys.advance state world').1

theorem ProofSystem.Indifferent.after {sys : ProofSystem World Session ε} {among : World → Prop}
    (h : sys.Indifferent among) {world : World} (hworld : among world) (stages : Nat) :
    among (sys.after world stages).2 := by
  induction stages with
  | zero => exact hworld
  | succ stages ih => exact h.stays _ ih

namespace Runs

variable {n : Nat} {systems : Fin n → ProofSystem World Session ε} {among : World → Prop}
  {world alone : World}

theorem among_interleaved (h : ∀ i, (systems i).Indifferent among) (hworld : among world)
    (schedule : List (Fin n)) : among (interleaved systems world schedule).world := by
  induction schedule using List.reverseRecOn with
  | nil => exact hworld
  | append_singleton schedule i ih =>
    rw [interleaved_append]
    exact (h i).stays _ ih

/-- Among worlds that all look the same, a run is as far as its own stages take it. -/
theorem states_interleaved (h : ∀ i, (systems i).Indifferent among) (hworld : among world)
    (halone : among alone) (schedule : List (Fin n)) (i : Fin n) :
    (interleaved systems world schedule).states i =
      ((systems i).after alone (schedule.count i)).1 := by
  induction schedule using List.reverseRecOn with
  | nil => rfl
  | append_singleton schedule j ih =>
    have hshared := among_interleaved h hworld schedule
    rw [interleaved_append]
    by_cases hji : j = i
    · -- The run has the stage in the shared world, and alone in another that looks the same.
      subst hji
      have hcount : (schedule ++ [j]).count j = schedule.count j + 1 := by simp
      rw [states_step_self, ih, hcount, ProofSystem.after]
      exact (h j).state _ hshared ((h j).after halone _)
    · have hcount : (schedule ++ [j]).count i = schedule.count i := by simp [hji]
      rw [states_step_of_ne _ (Ne.symm hji), ih, hcount]

end Runs

end SpotCheck
