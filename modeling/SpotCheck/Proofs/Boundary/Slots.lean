import SpotCheck.Proofs.Boundary.History

/-!
# Slots of threads

A diagnostic is kept in the slot of the thread that is given it. A call writes in the slot of its
own thread and in no other, and it takes no slot away.
-/

namespace SpotCheck.Boundary

namespace Slot

variable {slot : Slot}

theorem keep_ne_gone (h : slot ≠ .gone) (message : String) : slot.keep message ≠ .gone := by
  cases slot with
  | standing latest => exact nofun
  | gone => exact absurd rfl h

theorem told_of_ne_gone (h : slot ≠ .gone) (message : String) : slot.told message = message := by
  cases slot with
  | standing latest => rfl
  | gone => exact absurd rfl h

theorem keep_told (slot : Slot) (message : String) :
    slot.keep (slot.told message) = slot.keep message := by
  cases slot <;> rfl

end Slot

/-- The diagnostic among what a call may return. -/
def Returned.reported? : Returned → Option String
  | .diagnostic text => text
  | _ => none

namespace Library

variable {files : Files} {lib : Library} {thread : Thread} {call : Call} {entry : String}

/-- What a call reports whose body has stopped. -/
def message (entry : String) (stop : Stop String) : String := foreignMessage (stopText entry stop)

theorem slots_installProvider (lib : Library) (files : Files) (source : Source) :
    (lib.installProvider files source).library.slots = lib.slots := by
  unfold installProvider
  cases Provider.loaded files source <;> rfl

/-- Only the end of a call writes a diagnostic. -/
theorem slots_body (lib : Library) (files : Files) (call : Call) :
    (lib.body files call).library.slots = lib.slots := by
  have hbody := @kept_body files lib call
  cases call with
  | stringGenerated points seed =>
    show (lib.stringGenerated files points seed).library.slots = _
    unfold stringGenerated
    cases seed.read "seed" with
    | error text => rfl
    | ok bytes => exact slots_installProvider ..
  | stringFromFile path =>
    show (lib.stringFromFile files path).library.slots = _
    unfold stringFromFile
    cases path with
    | none => rfl
    | some bytes =>
      dsimp only
      cases Text.utf8Error? (foreignText bytes) with
      | some error => rfl
      | none => exact slots_installProvider ..
  | composerNew logRows out =>
    show (lib.composerNew files logRows out).library.slots = _
    rcases composerNew_cases lib files logRows out with
      ⟨hkept, -⟩ | ⟨before, session, provider, -, -, -, hresult⟩
    · exact hkept.slots
    · rw [hresult]
      rfl
  | _ => exact (hbody not_false not_false).slots

theorem slots_composerDelete (lib : Library) (files : Files) (composer : Option Handle) :
    (lib.composerDelete files composer).slots = lib.slots := by
  unfold composerDelete
  cases composer with
  | none => rfl
  | some handle =>
    dsimp only
    cases lib.sessions.lookup handle <;> rfl

theorem returned_step (h : call.entry? = some entry) (files : Files) (lib : Library)
    (thread : Thread) :
    (lib.step files thread call).2.2 =
      .diagnostic ((lib.body files call).stop.map fun stop =>
        (lib.slots thread).told (message entry stop)) := by
  rw [step_eq_settle h]
  cases hstop : (lib.body files call).stop with
  | none => rw [settle_of_none hstop]; rfl
  | some stop => rw [settle_of_some hstop, slots_body]; rfl

theorem reported_of_entry_none (h : call.entry? = none) (lib : Library) (files : Files)
    (thread : Thread) : (lib.step files thread call).2.2.reported? = none := by
  cases call <;> first | rfl | cases h

theorem slots_step (lib : Library) (files : Files) (thread other : Thread) (call : Call) :
    (lib.step files thread call).1.slots other =
      if other = thread then
        (lib.step files thread call).2.2.reported?.elim (lib.slots other) (lib.slots other).keep
      else lib.slots other := by
  cases hentry : call.entry? with
  | some entry =>
    rw [returned_step hentry, step_eq_settle hentry]
    cases hstop : (lib.body files call).stop with
    | none => simp [settle_of_none hstop, slots_body, Returned.reported?]
    | some stop =>
      rw [settle_of_some hstop, ← slots_body lib files call]
      show ite _ _ _ = ite _ (Slot.keep _ _) _
      split
      case isTrue hthread => rw [hthread, Slot.keep_told]; rfl
      case isFalse => rfl
  | none =>
    have hsame : (lib.step files thread call).1.slots = lib.slots := by
      cases call with
      | composerDelete composer => exact slots_composerDelete ..
      | freeBytes | lastDiagnostic | liveSessions => rfl
      | _ => cases hentry
    rw [hsame, reported_of_entry_none hentry, Option.elim_none, ite_self]

/-- All threads have their slots. -/
def Standing (lib : Library) : Prop := ∀ thread, lib.slots thread ≠ .gone

theorem standing_initial : initial.Standing := fun _ => nofun

theorem Standing.step (h : lib.Standing) (files : Files) (thread : Thread) (call : Call) :
    (lib.step files thread call).1.Standing := by
  intro other
  rw [slots_step]
  split
  · cases (lib.step files thread call).2.2.reported? with
    | none => exact h other
    | some text => exact Slot.keep_ne_gone (h other) text
  · exact h other

theorem Standing.afterCalls (h : lib.Standing) (calls : List Invocation) :
    (lib.afterCalls calls).Standing := by
  induction calls generalizing lib with
  | nil => exact h
  | cons i calls ih => exact ih (h.step i.files i.thread i.call)

end Library

end SpotCheck.Boundary
