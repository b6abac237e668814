import Mathlib.Data.List.Induction
import SpotCheck.Proofs.Boundary.History

/-!
# Sessions and handles

A handle is given out by a creation that succeeds and ends with its deletion. Callers who use no
handle before it is given out or after it is deleted find as many live sessions as there are
handles given out and not deleted.
-/

namespace SpotCheck.Boundary

/-! ### Handles in a history -/

namespace Event

/-- The handle that a successful creation has given out. -/
def issued? (e : Event) : Option Handle :=
  match e.call, e.places, e.returned with
  | .composerNew .., .handle (some (some handle)), .diagnostic none => some handle
  | _, _, _ => none

def deleted? (e : Event) : Option Handle :=
  match e.call with
  | .composerDelete composer => composer
  | _ => none

variable {e : Event} {handle : Handle}

theorem opens_of_issued (h : e.issued? = some handle) :
    e.call.Opens ∧ e.returned = .diagnostic none := by
  unfold issued? at h
  split at h
  case h_1 hcall hplaces hreturned =>
    rw [hcall, hreturned]
    exact ⟨trivial, rfl⟩
  case h_2 => cases h

theorem call_of_deleted (h : e.deleted? = some handle) :
    e.call = .composerDelete (some handle) := by
  unfold deleted? at h
  split at h
  case h_1 composer hcall => rw [hcall, h]
  case h_2 => cases h

end Event

def issued (events : List Event) : List Handle := events.filterMap Event.issued?

def deleted (events : List Event) : List Handle := events.filterMap Event.deleted?

/-- The handles given out and not deleted, oldest first. -/
def held (events : List Event) : List Handle := (issued events).filter (· ∉ deleted events)

/-- Every handle that a call is given was given out before and not deleted since. -/
def Disciplined (events : List Event) : Prop :=
  ∀ i (hi : i < events.length), ∀ handle ∈ events[i].call.composer?, handle ∈ held (events.take i)

instance (events : List Event) : Decidable (Disciplined events) :=
  inferInstanceAs (Decidable (∀ i (hi : i < events.length), ∀ handle ∈ events[i].call.composer?,
    handle ∈ held (events.take i)))

variable {events : List Event} {e : Event} {handle : Handle}

theorem issued_append (events : List Event) (e : Event) :
    issued (events ++ [e]) = issued events ++ e.issued?.toList := by
  rw [issued, List.filterMap_append]
  cases h : e.issued? <;> simp [issued, h]

theorem deleted_append (events : List Event) (e : Event) :
    deleted (events ++ [e]) = deleted events ++ e.deleted?.toList := by
  rw [deleted, List.filterMap_append]
  cases h : e.deleted? <;> simp [deleted, h]

theorem held_append_other (hissued : e.issued? = none) (hdeleted : e.deleted? = none) :
    held (events ++ [e]) = held events := by
  simp [held, issued_append, deleted_append, hissued, hdeleted]

theorem held_append_issued (hissued : e.issued? = some handle) (hdeleted : e.deleted? = none)
    (hfresh : handle ∉ deleted events) : held (events ++ [e]) = held events ++ [handle] := by
  simp [held, issued_append, deleted_append, hissued, hdeleted, hfresh]

theorem held_append_deleted (hissued : e.issued? = none) (hdeleted : e.deleted? = some handle) :
    held (events ++ [e]) = (held events).filter (· ≠ handle) := by
  rw [held, held, issued_append, deleted_append, hissued, hdeleted, List.filter_filter]
  simp [and_comm]

theorem disciplined_append (h : Disciplined (events ++ [e])) :
    Disciplined events ∧ ∀ handle ∈ e.call.composer?, handle ∈ held events := by
  constructor
  · intro i hi handle hcomposer
    have hlt : i < (events ++ [e]).length := by
      rw [List.length_append]
      omega
    have hmem := h i hlt handle (by rwa [List.getElem_append_left hi])
    rwa [List.take_append_of_le_length (Nat.le_of_lt hi)] at hmem
  · intro handle hcomposer
    have hlt : events.length < (events ++ [e]).length := by simp
    have hmem := h events.length hlt handle (by rwa [List.getElem_concat_length rfl])
    rwa [List.take_left] at hmem

namespace Library

variable {files : Files} {lib : Library} {thread : Thread} {call : Call}
  {result : Library × Places × Returned}

/-! ### Sessions as a history tells them -/

/-- The handles of the library, newest first, are those that the history leaves. -/
structure Tracks (lib : Library) (events : List Event) : Prop where
  handles : lib.handles = (held events).reverse
  issued : ∀ handle ∈ issued events, handle < lib.nextHandle
  deleted : ∀ handle ∈ deleted events, handle < lib.nextHandle

theorem tracks_initial : initial.Tracks [] := ⟨rfl, nofun, nofun⟩

theorem Tracks.lt_of_held (h : lib.Tracks events) (hheld : handle ∈ held events) :
    handle < lib.nextHandle :=
  h.issued handle (List.mem_filter.1 hheld).1

theorem Tracks.other {after : Library} (h : lib.Tracks events)
    (hhandles : after.handles = lib.handles) (hnext : after.nextHandle = lib.nextHandle)
    (hissued : e.issued? = none) (hdeleted : e.deleted? = none) :
    after.Tracks (events ++ [e]) where
  handles := by rw [hhandles, h.handles, held_append_other hissued hdeleted]
  issued handle hmem := by
    rw [issued_append, hissued, Option.toList_none, List.append_nil] at hmem
    exact hnext ▸ h.issued handle hmem
  deleted handle hmem := by
    rw [deleted_append, hdeleted, Option.toList_none, List.append_nil] at hmem
    exact hnext ▸ h.deleted handle hmem

theorem Effect.tracks (heffect : Effect files lib call result) (h : lib.Tracks events)
    (hheld : ∀ handle ∈ call.composer?, handle ∈ held events) :
    result.1.Tracks (events ++ [⟨⟨thread, files, call⟩, result.2.1, result.2.2⟩]) := by
  cases heffect with
  | kept hkept hfails hdead =>
    refine h.other hkept.handles hkept.nextHandle ?_ ?_
    · refine Option.eq_none_iff_forall_ne_some.2 fun handle hissued => ?_
      obtain ⟨hopens, hreturned⟩ := Event.opens_of_issued hissued
      exact (hfails hreturned).2 hopens
    · -- A disciplined caller deletes only what is there.
      refine Option.eq_none_iff_forall_ne_some.2 fun handle hdeleted => ?_
      have hcall : call = .composerDelete (some handle) := Event.call_of_deleted hdeleted
      refine hdead handle hcall ?_
      rw [h.handles, List.mem_reverse]
      exact hheld handle (by rw [hcall]; rfl)
  | installed hsource hload =>
    refine h.other rfl rfl ?_ ?_
    · cases call <;> rfl
    · cases call <;> first | rfl | cases hsource
  | opened hbuild hprovider =>
    have hfresh : lib.nextHandle ∉ deleted events :=
      fun hmem => Nat.lt_irrefl _ (h.deleted _ hmem)
    constructor
    case handles =>
      rw [held_append_issued rfl rfl hfresh, List.reverse_append, ← h.handles]
      rfl
    case issued =>
      intro handle hmem
      rw [issued_append] at hmem
      rcases List.mem_append.1 hmem with hmem | hmem
      · exact Nat.lt_succ_of_lt (h.issued handle hmem)
      · obtain rfl := List.mem_singleton.1 hmem
        exact Nat.lt_succ_self _
    case deleted =>
      intro handle hmem
      rw [deleted_append] at hmem
      exact Nat.lt_succ_of_lt (h.deleted handle (by simpa [Event.deleted?] using hmem))
  | @ended handle hmem =>
    have hlt := h.lt_of_held (hheld handle rfl)
    constructor
    case handles =>
      rw [held_append_deleted rfl rfl, ← List.filter_reverse, ← h.handles]
      exact handles_remove lib.sessions handle
    case issued =>
      intro other hother
      rw [issued_append] at hother
      exact h.issued other (by simpa [Event.issued?] using hother)
    case deleted =>
      intro other hother
      rw [deleted_append] at hother
      rcases List.mem_append.1 hother with hother | hother
      · exact h.deleted other hother
      · obtain rfl := List.mem_singleton.1 hother
        exact hlt

theorem tracks_afterCalls {calls : List Invocation} (h : Disciplined (initial.history calls)) :
    (initial.afterCalls calls).Tracks (initial.history calls) := by
  induction calls using List.reverseRecOn with
  | nil => exact tracks_initial
  | append_singleton calls i ih =>
    rw [history_append_singleton] at h ⊢
    obtain ⟨hcalls, hheld⟩ := disciplined_append h
    rw [afterCalls_append_singleton]
    exact (effect_step i.files _ i.thread i.call).tracks (ih hcalls) hheld

/-! ### Main theorem -/

theorem live_of_effect (heffect : Effect files lib call result)
    (hdelete : ∀ composer, call ≠ .composerDelete composer)
    (hopens : call.Opens → result.2.2 ≠ .diagnostic none) : result.1.live = lib.live := by
  cases heffect with
  | kept hkept hfails hdead => exact hkept.live
  | installed hsource hload => rfl
  | opened hbuild hprovider => exact absurd rfl (hopens trivial)
  | ended hmem => exact absurd rfl (hdelete _)

/-- After calls in which every handle is used between its creation and its deletion, as many
sessions are live as there are handles given out and not deleted. A call that neither deletes a
handle nor creates one leaves the number of live sessions alone, whether it succeeds or fails and
whatever was called before it. -/
theorem liveSessions_eq_held (calls : List Invocation)
    (h : Disciplined (initial.history calls)) :
    (∀ files thread, ((initial.afterCalls calls).step files thread .liveSessions).2.2 =
        .count (held (initial.history calls)).length) ∧
      ∀ (lib : Library) (i : Invocation), (∀ composer, i.call ≠ .composerDelete composer) →
        (i.call.Opens → (lib.invoke i).2.returned ≠ .diagnostic none) →
          (lib.invoke i).1.live = lib.live := by
  constructor
  · intro files thread
    have hlive := (consistent_afterCalls consistent_initial calls).live
    rw [(tracks_afterCalls h).handles, List.length_reverse] at hlive
    exact congrArg Returned.count hlive
  · exact fun lib i => live_of_effect (effect_step i.files lib i.thread i.call)

/-- Threads take turns: a string of four points, two sessions over it and a creation that fails, a
key asked for without a place for it, the end of the first session, and a run without a place for
its answer. -/
def twoSessions : List Invocation :=
  [⟨0, .empty, .stringGenerated 4 ⟨none, 0⟩⟩, ⟨1, .empty, .composerNew 2 (some none)⟩,
    ⟨0, .empty, .composerNew 30 (some none)⟩, ⟨2, .empty, .composerNew 2 (some none)⟩,
    ⟨2, .empty, .verificationKey (some 1) ⟨none, none⟩⟩, ⟨1, .empty, .composerDelete (some 1)⟩,
    ⟨2, .empty, .createAndVerify none⟩]

theorem liveSessions_eq_held_two_sessions :
    Disciplined (initial.history twoSessions) ∧
      ((initial.afterCalls twoSessions).step .empty 0 .liveSessions).2.2 = .count 1 := by
  have hdisciplined : Disciplined (initial.history twoSessions) := by decide +kernel
  have hheld : held (initial.history twoSessions) = [2] := by decide +kernel
  refine ⟨hdisciplined, ?_⟩
  rw [(liveSessions_eq_held twoSessions hdisciplined).1, hheld]
  rfl

end Library

end SpotCheck.Boundary
