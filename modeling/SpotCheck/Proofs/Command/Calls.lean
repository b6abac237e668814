import SpotCheck.Command.Run
import SpotCheck.Proofs.Boundary.Isolation

/-!
# Foreign calls one after another

A call of a run has the provider load its string, if anything, closes the session that it opens and
keeps a diagnostic in the slot of its thread. None of this makes a difference to a call like it. So
the calls of a run end alike, whichever threads make them, and a call that leaves the provider as it
was stands for those that follow it.
-/

namespace SpotCheck

open Boundary (Library Place Thread)

/-! ### One call -/

namespace Boundary.Library

variable {files : Files} {lib now : Library}

theorem answer_createAndVerify
    (h : ∀ least, (now.provider.request files least).1 = (lib.provider.request files least).1)
    (valid : Place Bool) :
    (now.createAndVerify files valid).answer = (lib.createAndVerify files valid).answer := by
  have hhost : ∀ least,
      ((now.host files).request least).1 = ((lib.host files).request least).1 := h
  have hrun := Fibonacci.outcome_run_congr Fibonacci.Config.default ProverConfig.default hhost
  unfold createAndVerify
  cases valid with
  | none => rfl
  | some before =>
    dsimp only
    generalize (Fibonacci.proofSystem Fibonacci.Config.default ProverConfig.default).run
      (now.host files) = result at hrun ⊢
    generalize (Fibonacci.proofSystem Fibonacci.Config.default ProverConfig.default).run
      (lib.host files) = result' at hrun ⊢
    obtain ⟨outcome, host⟩ := result
    obtain ⟨outcome', host'⟩ := result'
    obtain rfl : outcome = outcome' := hrun
    cases outcome <;> rfl

theorem kept_step_createAndVerify (files : Files) (lib : Library) (thread : Thread)
    (valid : Place Bool) : Kept files lib (lib.step files thread (.createAndVerify valid)).1 := by
  have heffect := effect_step files lib thread (.createAndVerify valid)
  generalize lib.step files thread (.createAndVerify valid) = result at heffect ⊢
  cases heffect with
  | kept hkept => exact hkept
  | installed hsource => cases hsource

end Boundary.Library

namespace Command

variable {files : Files} {lib now start : Library} {srs : Option String}

/-- The library as the calls of a run find it, which have begun with another one: a request for the
reference string is answered as it was then, every thread has its slot still, and as many sessions
are live. -/
structure AsBegun (files : Files) (lib now : Library) : Prop where
  answers : ∀ least, (now.provider.request files least).1 = (lib.provider.request files least).1
  begun : lib.Standing
  standing : now.Standing
  live : now.live = lib.live

theorem AsBegun.refl (h : lib.Standing) : AsBegun files lib lib := ⟨fun _ => rfl, h, h, rfl⟩

theorem AsBegun.once (h : AsBegun files lib now) (thread : Thread) :
    AsBegun files lib (callOnce files thread now).1 := by
  have hkept := now.kept_step_createAndVerify files thread (some false)
  have hstanding := h.standing.step files thread (.createAndVerify (some false))
  exact ⟨fun least => (hkept.provider.answer_eq least).trans (h.answers least), h.begun, hstanding,
    hkept.live.trans h.live⟩

/-- A call ends as the first one would have, by whichever threads they are made. -/
theorem AsBegun.failure_eq (h : AsBegun files lib now) (thread first : Thread) :
    (callOnce files thread now).2 = (callOnce files first lib).2 := by
  have hanswer := Library.answer_createAndVerify h.answers (some false)
  have htold : ∀ text, ((now.createAndVerify files (some false)).library.slots thread).told text =
      ((lib.createAndVerify files (some false)).library.slots first).told text := by
    intro text
    rw [(Library.kept_createAndVerify ..).slots, (Library.kept_createAndVerify ..).slots,
      Boundary.Slot.told_of_ne_gone (h.standing thread),
      Boundary.Slot.told_of_ne_gone (h.begun first)]
  have hstep := Library.settle_answer hanswer htold "zkbind_simple_create_and_verify_proof" .valid
  exact congrArg (fun given => failure? given.1 given.2) hstep

/-! ### Many calls -/

/-- The calls made one by one, each by the thread that stands in its place. -/
def callEach (files : Files) : List Thread → Library → Library × List String
  | [], lib => (lib, [])
  | thread :: threads, lib =>
    let (next, failure) := callOnce files thread lib
    let (last, failures) := callEach files threads next
    (last, failure.toList ++ failures)

theorem failuresOf_zero (failure : Option String) : failuresOf 0 failure = [] := by
  cases failure <;> rfl

theorem failuresOf_succ (count : Nat) (failure : Option String) :
    failuresOf (count + 1) failure = failure.toList ++ failuresOf count failure := by
  cases failure <;> rfl

theorem AsBegun.each (h : AsBegun files lib now) (first : Thread) (threads : List Thread) :
    AsBegun files lib (callEach files threads now).1 ∧
      (callEach files threads now).2 = failuresOf threads.length (callOnce files first lib).2 := by
  induction threads generalizing now with
  | nil => exact ⟨h, (failuresOf_zero _).symm⟩
  | cons thread threads ih =>
    obtain ⟨hlast, hfailures⟩ := ih (h.once thread)
    refine ⟨hlast, ?_⟩
    rw [List.length_cons, failuresOf_succ, ← hfailures, ← h.failure_eq thread first]
    rfl

theorem AsBegun.all (h : AsBegun files lib now) (first : Thread) (count : Nat) :
    AsBegun files lib (callAll files count now).1 ∧
      (callAll files count now).2 = failuresOf count (callOnce files first lib).2 := by
  induction count generalizing now with
  | zero => exact ⟨h, (failuresOf_zero _).symm⟩
  | succ count ih =>
    have hfirst := h.failure_eq 1 first
    unfold callAll
    dsimp only
    split
    case isTrue => exact ⟨h.once 1, by rw [hfirst]⟩
    case isFalse =>
      obtain ⟨hlast, hfailures⟩ := ih (h.once 1)
      exact ⟨hlast, by rw [failuresOf_succ, ← hfailures, ← hfirst]⟩

/-! ### Runs -/

/-- Installing the string of a file takes no slot away and opens no session. -/
theorem begins_libraryFor (h : libraryFor files srs = .ok start) :
    start.Standing ∧ start.live = 0 := by
  unfold libraryFor at h
  cases srs with
  | none =>
    cases h
    exact ⟨Library.standing_initial, rfl⟩
  | some path =>
    dsimp only at h
    have hstanding :=
      Library.standing_initial.step files 0 (.stringFromFile (some (Bytes.ofText path)))
    have heffect :=
      Library.effect_step files .initial 0 (.stringFromFile (some (Bytes.ofText path)))
    generalize Library.initial.step files 0 _ = result at h hstanding heffect
    have hlive : result.1.live = 0 := by
      cases heffect with
      | kept hkept => exact hkept.live
      | installed => rfl
    split at h
    · cases h
    · cases h
      exact ⟨hstanding, hlive⟩

/-- The failures that a run reports and the live sessions that it counts are those of as many calls
made one by one, by whichever threads. -/
theorem callAll_eq_callEach (h : libraryFor files srs = .ok start) (threads : List Thread) :
    (callAll files threads.length start).2 = (callEach files threads start).2 ∧
      (callAll files threads.length start).1.live = 0 ∧
      (callEach files threads start).1.live = 0 := by
  obtain ⟨hstanding, hlive⟩ := begins_libraryFor h
  have hbegun : AsBegun files start start := .refl hstanding
  obtain ⟨hall, hfailures⟩ := hbegun.all 1 threads.length
  obtain ⟨heach, hfailures'⟩ := hbegun.each 1 threads
  exact ⟨hfailures.trans hfailures'.symm, hall.live.trans hlive, heach.live.trans hlive⟩

end Command

end SpotCheck
