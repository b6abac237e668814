import Mathlib.Data.List.Nodup
import SpotCheck.Proofs.Boundary.Effect

/-!
# Histories of calls

Calls are made one after another, by whatever threads, and the files may change between them. What
holds of every library that calls have led to is shown here: the ledger counts the sessions behind
handles, no handle is given out twice, and the files have no say in what the provider hands out.
-/

namespace SpotCheck.Boundary

open Fibonacci (Session)

/-- A call as it is made: by a thread, with the files as they are then. -/
structure Invocation where
  thread : Thread
  files : Files
  call : Call

/-- A call that was made, with its places afterwards and what it has returned. -/
structure Event extends Invocation where
  places : Places
  returned : Returned

namespace Library

def invoke (lib : Library) (i : Invocation) : Library × Event :=
  let (after, places, returned) := lib.step i.files i.thread i.call
  (after, ⟨i, places, returned⟩)

def afterCalls (lib : Library) (calls : List Invocation) : Library :=
  calls.foldl (fun lib i => (lib.invoke i).1) lib

def history (lib : Library) : List Invocation → List Event
  | [] => []
  | i :: calls => (lib.invoke i).2 :: history (lib.invoke i).1 calls

variable {files : Files} {lib after : Library} {call : Call} {i : Invocation}
  {calls : List Invocation} {result : Library × Places × Returned}

theorem afterCalls_append (lib : Library) (calls later : List Invocation) :
    lib.afterCalls (calls ++ later) = (lib.afterCalls calls).afterCalls later :=
  List.foldl_append ..

theorem afterCalls_append_singleton (lib : Library) (calls : List Invocation) (i : Invocation) :
    lib.afterCalls (calls ++ [i]) = ((lib.afterCalls calls).invoke i).1 :=
  afterCalls_append ..

theorem history_append_singleton (lib : Library) (calls : List Invocation) (i : Invocation) :
    lib.history (calls ++ [i]) = lib.history calls ++ [((lib.afterCalls calls).invoke i).2] := by
  induction calls generalizing lib with
  | nil => rfl
  | cons first calls ih => exact congrArg _ (ih (lib.invoke first).1)

theorem invoke_eq (lib : Library) (i : Invocation) :
    lib.invoke i = ((lib.step i.files i.thread i.call).1,
      ⟨i, (lib.step i.files i.thread i.call).2.1, (lib.step i.files i.thread i.call).2.2⟩) := rfl

/-! ### Libraries that calls lead to -/

structure Consistent (lib : Library) : Prop where
  balance : lib.ledger.opened = lib.ledger.closed + lib.handles.length
  nodup : lib.handles.Nodup
  below : ∀ handle ∈ lib.handles, handle < lib.nextHandle
  steady : lib.provider.IsSteady

theorem consistent_initial : initial.Consistent where
  balance := rfl
  nodup := .nil
  below := nofun
  steady := Provider.isSteady_default

theorem Consistent.live (h : lib.Consistent) : lib.live = lib.handles.length := by
  rw [Library.live, SessionLedger.live, h.balance]
  exact Nat.add_sub_cancel_left ..

theorem handles_remove (sessions : List (Handle × Session)) (handle : Handle) :
    (sessions.filter (·.1 ≠ handle)).map (·.1) = (sessions.map (·.1)).filter (· ≠ handle) := by
  rw [List.filter_map]
  rfl

theorem Effect.consistent (heffect : Effect files lib call result) (h : lib.Consistent) :
    result.1.Consistent := by
  cases heffect with
  | kept hkept hfails hheld =>
    obtain ⟨count, hledger⟩ := hkept.ledger
    have hbalance := h.balance
    constructor
    case balance =>
      rw [hledger, hkept.handles]
      dsimp only
      omega
    case nodup =>
      rw [hkept.handles]
      exact h.nodup
    case below =>
      rw [hkept.handles, hkept.nextHandle]
      exact h.below
    case steady => exact hkept.provider.isSteady h.steady
  | installed hsource hload => exact ⟨h.balance, h.nodup, h.below, fun hcache => by cases hcache⟩
  | @opened logRows before session provider hbuild hprovider =>
    have hbalance := h.balance
    have hfresh : lib.nextHandle ∉ lib.handles := fun hmem => Nat.lt_irrefl _ (h.below _ hmem)
    constructor
    case balance =>
      show lib.ledger.opened + 1 = lib.ledger.closed + (lib.handles.length + 1)
      omega
    case nodup => exact List.nodup_cons.2 ⟨hfresh, h.nodup⟩
    case below =>
      intro handle hmem
      rcases List.mem_cons.1 hmem with rfl | hmem
      · exact Nat.lt_succ_self _
      · exact Nat.lt_succ_of_lt (h.below handle hmem)
    case steady => exact hprovider.isSteady h.steady
  | @ended handle hheld =>
    have hhandles : (lib.sessions.filter (·.1 ≠ handle)).map (·.1) = lib.handles.erase handle := by
      rw [handles_remove, h.nodup.erase_eq_filter]
      exact List.filter_congr fun other _ => by rw [decide_not, bne, beq_eq_decide]
    have hbalance := h.balance
    have hlength := List.length_erase_of_mem hheld
    have hpos : 0 < lib.handles.length := List.length_pos_of_mem hheld
    constructor
    case balance =>
      show lib.ledger.opened = lib.ledger.closed + 1 +
        ((lib.sessions.filter (·.1 ≠ handle)).map (·.1)).length
      rw [hhandles]
      omega
    case nodup =>
      show ((lib.sessions.filter (·.1 ≠ handle)).map (·.1)).Nodup
      rw [hhandles]
      exact h.nodup.erase handle
    case below =>
      intro other hmem
      have hother : other ∈ lib.handles.erase handle := hhandles ▸ hmem
      exact h.below other (List.mem_of_mem_erase hother)
    case steady => exact h.steady

theorem consistent_afterCalls (h : lib.Consistent) (calls : List Invocation) :
    (lib.afterCalls calls).Consistent := by
  induction calls generalizing lib with
  | nil => exact h
  | cons i calls ih => exact ih ((effect_step i.files lib i.thread i.call).consistent h)

end Library

end SpotCheck.Boundary
