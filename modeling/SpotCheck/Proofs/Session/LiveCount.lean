import Mathlib.Data.Finset.Card
import Mathlib.Data.List.Induction
import Mathlib.Data.List.Infix
import SpotCheck.Session.Ledger

/-!
# Counting sessions that come and go

A session is entered in the ledger when its ticket is issued and leaves it when the ticket is
dropped. Whoever counts the live sessions reads the two numbers of the ledger one after the other,
the sessions opened first, and others may open and end sessions between the two reads. The count is
then the number of sessions that are open all the while, less the number of those that come and go
in the meantime: never too high, but at times a number of sessions that was open at no moment.
-/

namespace SpotCheck

inductive TicketEvent where
  | issued (ticket : Nat)
  | dropped (ticket : Nat)
  deriving DecidableEq

namespace TicketEvent

def issued? : TicketEvent → Option Nat
  | issued ticket => some ticket
  | dropped _ => none

def dropped? : TicketEvent → Option Nat
  | issued _ => none
  | dropped ticket => some ticket

variable {e : TicketEvent} {ticket : Nat}

theorem issued?_eq_some_iff : e.issued? = some ticket ↔ e = issued ticket := by
  cases e <;> simp [issued?]

theorem dropped?_eq_some_iff : e.dropped? = some ticket ↔ e = dropped ticket := by
  cases e <;> simp [dropped?]

end TicketEvent

/-! ### Histories -/

/-- Every ticket is issued once, and dropped at most once and after it was issued. -/
structure IsTicketHistory (events : List TicketEvent) : Prop where
  nodup : events.Nodup
  issues : ∀ i (hi : i < events.length), ∀ ticket ∈ events[i].dropped?,
    .issued ticket ∈ events.take i

theorem isTicketHistory_iff {events : List TicketEvent} :
    (events.Nodup ∧ ∀ i (hi : i < events.length), ∀ ticket ∈ events[i].dropped?,
      .issued ticket ∈ events.take i) ↔ IsTicketHistory events :=
  ⟨fun h => ⟨h.1, h.2⟩, fun h => ⟨h.nodup, h.issues⟩⟩

instance (events : List TicketEvent) : Decidable (IsTicketHistory events) :=
  decidable_of_iff _ isTicketHistory_iff

def issuedTickets (events : List TicketEvent) : Finset Nat :=
  (events.filterMap TicketEvent.issued?).toFinset

def droppedTickets (events : List TicketEvent) : Finset Nat :=
  (events.filterMap TicketEvent.dropped?).toFinset

/-- The tickets of the sessions that are open after some events. -/
def openTickets (events : List TicketEvent) : Finset Nat :=
  issuedTickets events \ droppedTickets events

variable {events before between later : List TicketEvent} {ticket : Nat}

@[simp] theorem mem_issuedTickets : ticket ∈ issuedTickets events ↔ .issued ticket ∈ events := by
  simp [issuedTickets, TicketEvent.issued?_eq_some_iff]

@[simp] theorem mem_droppedTickets :
    ticket ∈ droppedTickets events ↔ .dropped ticket ∈ events := by
  simp [droppedTickets, TicketEvent.dropped?_eq_some_iff]

@[simp] theorem mem_openTickets :
    ticket ∈ openTickets events ↔ .issued ticket ∈ events ∧ .dropped ticket ∉ events := by
  simp [openTickets]

theorem issuedTickets_append (events later : List TicketEvent) :
    issuedTickets (events ++ later) = issuedTickets events ∪ issuedTickets later := by
  ext ticket
  simp

theorem droppedTickets_append (events later : List TicketEvent) :
    droppedTickets (events ++ later) = droppedTickets events ∪ droppedTickets later := by
  ext ticket
  simp

namespace IsTicketHistory

theorem of_append (h : IsTicketHistory (events ++ later)) : IsTicketHistory events where
  nodup := h.nodup.of_append_left
  issues i hi ticket hdropped := by
    have hlt : i < (events ++ later).length := by
      rw [List.length_append]
      omega
    have hissued := h.issues i hlt ticket (by rwa [List.getElem_append_left hi])
    rwa [List.take_append_of_le_length (Nat.le_of_lt hi)] at hissued

theorem issued_of_dropped (h : IsTicketHistory events) (hdropped : .dropped ticket ∈ events) :
    .issued ticket ∈ events := by
  obtain ⟨i, hi, hget⟩ := List.getElem_of_mem hdropped
  have hissued := h.issues i hi ticket (by rw [hget]; rfl)
  exact List.mem_of_mem_take hissued

end IsTicketHistory

/-! ### The two reads -/

namespace SessionLedger

def record (l : SessionLedger) : TicketEvent → SessionLedger
  | .issued _ => l.enter
  | .dropped _ => l.leave

def after (events : List TicketEvent) : SessionLedger := events.foldl record empty

/-- The count that reads the sessions opened after some events, and those closed after some more
that happen between the two reads. -/
def liveAcross (before between : List TicketEvent) : Nat :=
  live ⟨(after before).opened, (after (before ++ between)).closed⟩

theorem after_append_singleton (events : List TicketEvent) (e : TicketEvent) :
    after (events ++ [e]) = (after events).record e := by
  rw [after, List.foldl_append]
  rfl

theorem after_eq (events : List TicketEvent) :
    after events = ⟨(events.filterMap TicketEvent.issued?).length,
      (events.filterMap TicketEvent.dropped?).length⟩ := by
  induction events using List.reverseRecOn with
  | nil => rfl
  | append_singleton events e ih =>
    rw [after_append_singleton, ih, List.filterMap_append, List.filterMap_append,
      List.length_append, List.length_append]
    cases e <;> rfl

end SessionLedger

theorem IsTicketHistory.after_eq (h : IsTicketHistory events) :
    SessionLedger.after events = ⟨(issuedTickets events).card, (droppedTickets events).card⟩ := by
  have hissued : (events.filterMap TicketEvent.issued?).Nodup :=
    h.nodup.filterMap fun e e' ticket he he' => by
      rw [TicketEvent.issued?_eq_some_iff.1 he, TicketEvent.issued?_eq_some_iff.1 he']
  have hdropped : (events.filterMap TicketEvent.dropped?).Nodup :=
    h.nodup.filterMap fun e e' ticket he he' => by
      rw [TicketEvent.dropped?_eq_some_iff.1 he, TicketEvent.dropped?_eq_some_iff.1 he']
  rw [SessionLedger.after_eq, issuedTickets, droppedTickets, List.toFinset_card_of_nodup hissued,
    List.toFinset_card_of_nodup hdropped]

/-- A call that counts the live sessions: not begun, between its reads, or with its answer. -/
inductive LiveCall where
  | idle
  | reading (opened : Nat)
  | answered (count : Nat)

def LiveCall.advance (l : SessionLedger) : LiveCall → LiveCall
  | idle => reading l.opened
  | reading opened => answered (SessionLedger.live ⟨opened, l.closed⟩)
  | answered count => answered count

/-- A ledger that others write to while a call reads it. -/
structure SharedLedger where
  ledger : SessionLedger
  call : LiveCall

namespace SharedLedger

/-- The turn of an event, or else that of the call. -/
def step (s : SharedLedger) : Option TicketEvent → SharedLedger
  | some e => { s with ledger := s.ledger.record e }
  | none => { s with call := s.call.advance s.ledger }

def run (turns : List (Option TicketEvent)) : SharedLedger := turns.foldl step ⟨.empty, .idle⟩

/-- The turns of a history in which the call has two. -/
def turns (before between later : List TicketEvent) : List (Option TicketEvent) :=
  before.map some ++ none :: between.map some ++ none :: later.map some

theorem foldl_step_events (s : SharedLedger) (events : List TicketEvent) :
    (events.map some).foldl step s = ⟨events.foldl SessionLedger.record s.ledger, s.call⟩ := by
  induction events generalizing s with
  | nil => rfl
  | cons e events ih => exact ih (s.step (some e))

theorem call_run_turns (before between later : List TicketEvent) :
    (run (turns before between later)).call =
      .answered (SessionLedger.liveAcross before between) := by
  simp only [run, turns, List.foldl_append, List.foldl_cons, foldl_step_events]
  simp only [step, LiveCall.advance, SessionLedger.liveAcross, SessionLedger.after,
    List.foldl_append]

end SharedLedger

/-! ### Sessions between the two reads -/

/-- What has happened by each of the moments from the first read to the second. -/
def moments (before between : List TicketEvent) : List (List TicketEvent) :=
  between.inits.map (before ++ ·)

/-- The tickets of the sessions that are open all the while. -/
def lastingTickets (before between : List TicketEvent) : Finset Nat :=
  {ticket ∈ openTickets before | ∀ events ∈ moments before between, ticket ∈ openTickets events}

/-- The tickets of the sessions that come and go between the reads. -/
def passingTickets (between : List TicketEvent) : Finset Nat :=
  issuedTickets between ∩ droppedTickets between

theorem mem_moments :
    events ∈ moments before between ↔ ∃ part, part <+: between ∧ before ++ part = events := by
  simp [moments]

theorem before_mem_moments (before between : List TicketEvent) :
    before ∈ moments before between :=
  mem_moments.2 ⟨[], List.nil_prefix, List.append_nil before⟩

theorem append_mem_moments (before between : List TicketEvent) :
    before ++ between ∈ moments before between :=
  mem_moments.2 ⟨between, List.prefix_rfl, rfl⟩

theorem lastingTickets_subset (h : events ∈ moments before between) :
    lastingTickets before between ⊆ openTickets events :=
  fun _ hticket => (Finset.mem_filter.1 hticket).2 events h

theorem lastingTickets_eq (before between : List TicketEvent) :
    lastingTickets before between = issuedTickets before \ droppedTickets (before ++ between) := by
  ext ticket
  rw [Finset.mem_sdiff, mem_issuedTickets, mem_droppedTickets]
  constructor
  · intro hlasting
    have hfirst := mem_openTickets.1 (lastingTickets_subset (before_mem_moments ..) hlasting)
    have hlast := mem_openTickets.1 (lastingTickets_subset (append_mem_moments ..) hlasting)
    exact ⟨hfirst.1, hlast.2⟩
  · rintro ⟨hissued, hdropped⟩
    have hopen : ∀ events ∈ moments before between, ticket ∈ openTickets events := by
      intro events hevents
      obtain ⟨part, hpart, rfl⟩ := mem_moments.1 hevents
      refine mem_openTickets.2 ⟨List.mem_append_left part hissued, fun hmem => hdropped ?_⟩
      exact ((List.prefix_append_right_inj before).2 hpart).subset hmem
    exact Finset.mem_filter.2 ⟨hopen before (before_mem_moments ..), hopen⟩

theorem passingTickets_eq (h : IsTicketHistory (before ++ between)) :
    passingTickets between = droppedTickets (before ++ between) \ issuedTickets before := by
  ext ticket
  rw [passingTickets, Finset.mem_inter, Finset.mem_sdiff, mem_issuedTickets, mem_issuedTickets,
    mem_droppedTickets, mem_droppedTickets]
  constructor
  · rintro ⟨hissued, hdropped⟩
    have hfresh : .issued ticket ∉ before := fun hbefore =>
      List.disjoint_of_nodup_append h.nodup hbefore hissued
    exact ⟨List.mem_append_right before hdropped, hfresh⟩
  · rintro ⟨hdropped, hfresh⟩
    have hissued := (List.mem_append.1 (h.issued_of_dropped hdropped)).resolve_left hfresh
    have hkept : .dropped ticket ∉ before := fun hbefore =>
      hfresh (h.of_append.issued_of_dropped hbefore)
    exact ⟨hissued, (List.mem_append.1 hdropped).resolve_left hkept⟩

/-! ### What the count says -/

namespace SessionLedger

theorem liveAcross_eq (h : IsTicketHistory (before ++ between)) :
    liveAcross before between =
      (lastingTickets before between).card - (passingTickets between).card := by
  -- Sessions opened before the first read and closed before the second are in both numbers.
  have hissued := Finset.card_sdiff_add_card_inter (issuedTickets before)
    (droppedTickets (before ++ between))
  have hdropped := Finset.card_sdiff_add_card_inter (droppedTickets (before ++ between))
    (issuedTickets before)
  rw [Finset.inter_comm] at hdropped
  rw [lastingTickets_eq, passingTickets_eq h, liveAcross, live, h.of_append.after_eq, h.after_eq]
  dsimp only
  omega

/-- The count is the number of the sessions that are open at some moment between its reads. -/
def CountsMoment (before between : List TicketEvent) : Prop :=
  ∃ events ∈ moments before between, liveAcross before between = (openTickets events).card

theorem liveAcross_le (h : IsTicketHistory (before ++ between))
    (hevents : events ∈ moments before between) :
    liveAcross before between ≤ (openTickets events).card := by
  have hlasting := Finset.card_le_card (lastingTickets_subset hevents)
  rw [liveAcross_eq h]
  omega

theorem liveAcross_eq_card_iff (h : IsTicketHistory (before ++ between))
    (hevents : events ∈ moments before between) :
    liveAcross before between = (openTickets events).card ↔
      openTickets events = lastingTickets before between ∧
        (lastingTickets before between = ∅ ∨ passingTickets between = ∅) := by
  have hsubset := lastingTickets_subset hevents
  have hlasting := Finset.card_le_card hsubset
  rw [liveAcross_eq h, ← Finset.card_eq_zero, ← Finset.card_eq_zero]
  constructor
  · intro heq
    -- No moment has fewer sessions than those that last, so nothing is left to be taken away.
    have hall : (openTickets events).card ≤ (lastingTickets before between).card := by omega
    exact ⟨(Finset.eq_of_subset_of_card_le hsubset hall).symm, by omega⟩
  · rintro ⟨hall, hnone⟩
    rw [hall]
    omega

theorem countsMoment_iff (h : IsTicketHistory (before ++ between)) :
    CountsMoment before between ↔
      (∃ events ∈ moments before between, openTickets events = lastingTickets before between) ∧
        (lastingTickets before between = ∅ ∨ passingTickets between = ∅) := by
  constructor
  · rintro ⟨events, hevents, heq⟩
    obtain ⟨hall, hnone⟩ := (liveAcross_eq_card_iff h hevents).1 heq
    exact ⟨⟨events, hevents, hall⟩, hnone⟩
  · rintro ⟨⟨events, hevents, hall⟩, hnone⟩
    exact ⟨events, hevents, (liveAcross_eq_card_iff h hevents).2 ⟨hall, hnone⟩⟩

/-- Where sessions are only opened between the reads, or only closed, none of them passes, and the
lasting ones are those of the first or of the last moment. -/
theorem lasting_of_one_sided (before : List TicketEvent)
    (hside : issuedTickets between = ∅ ∨ droppedTickets between = ∅) :
    passingTickets between = ∅ ∧
      ∃ events ∈ moments before between, openTickets events = lastingTickets before between := by
  rcases hside with hissued | hdropped
  · refine ⟨by rw [passingTickets, hissued, Finset.empty_inter], _, append_mem_moments .., ?_⟩
    rw [lastingTickets_eq, openTickets, issuedTickets_append, hissued, Finset.union_empty]
  · refine ⟨by rw [passingTickets, hdropped, Finset.inter_empty], _, before_mem_moments .., ?_⟩
    rw [lastingTickets_eq, openTickets, droppedTickets_append, hdropped, Finset.union_empty]

/-! ### Main theorem -/

/-- A call that takes its turns among the events of others answers with the number of sessions that
are open all the while, less the number of those that come and go between its reads. That exceeds
the number of open sessions at no moment, and it is that of some moment if and only if at some
moment just the lasting sessions are open, and there are none of them or none passes. So the count
is a true one where sessions are only opened between the reads, or only closed, and then it is not
zero as long as one of them lasts. -/
theorem liveAcross_counts_lasting (h : IsTicketHistory (before ++ between ++ later)) :
    (SharedLedger.run (SharedLedger.turns before between later)).call =
        .answered (liveAcross before between) ∧
      liveAcross before between =
        (lastingTickets before between).card - (passingTickets between).card ∧
      (∀ events ∈ moments before between, liveAcross before between ≤ (openTickets events).card) ∧
      (CountsMoment before between ↔
        (∃ events ∈ moments before between,
          openTickets events = lastingTickets before between) ∧
          (lastingTickets before between = ∅ ∨ passingTickets between = ∅)) ∧
      (issuedTickets between = ∅ ∨ droppedTickets between = ∅ →
        CountsMoment before between ∧
          ((lastingTickets before between).Nonempty → liveAcross before between ≠ 0)) := by
  have hcall : IsTicketHistory (before ++ between) := h.of_append
  have hcount := liveAcross_eq hcall
  refine ⟨SharedLedger.call_run_turns before between later, hcount,
    fun events hevents => liveAcross_le hcall hevents, countsMoment_iff hcall, ?_⟩
  intro hside
  obtain ⟨hpassing, hmoment⟩ := lasting_of_one_sided before hside
  refine ⟨(countsMoment_iff hcall).2 ⟨hmoment, .inr hpassing⟩, fun hlasting => ?_⟩
  have hpos := Finset.card_pos.2 hlasting
  rw [hcount, hpassing, Finset.card_empty]
  omega

/-- Of four sessions three last while one goes and a fifth comes and goes: two are counted, and at
every moment more than two are open. With no fifth session the three are counted. -/
theorem liveAcross_counts_lasting_three_sessions :
    IsTicketHistory ([.issued 0, .issued 1, .issued 2, .issued 3] ++
        [.issued 4, .dropped 0, .dropped 4] ++ [.dropped 2]) ∧
      liveAcross [.issued 0, .issued 1, .issued 2, .issued 3] [.issued 4, .dropped 0, .dropped 4] =
        3 - 1 ∧
      (∀ events ∈ moments [.issued 0, .issued 1, .issued 2, .issued 3]
        [.issued 4, .dropped 0, .dropped 4], 2 < (openTickets events).card) ∧
      IsTicketHistory ([.issued 0, .issued 1, .issued 2, .issued 3] ++ [.dropped 0] ++ []) ∧
      issuedTickets [.dropped 0] = ∅ ∧
      CountsMoment [.issued 0, .issued 1, .issued 2, .issued 3] [.dropped 0] := by
  have hhistory : IsTicketHistory ([.issued 0, .issued 1, .issued 2, .issued 3] ++
      [.issued 4, .dropped 0, .dropped 4] ++ [.dropped 2]) := by decide
  have hshort : IsTicketHistory ([.issued 0, .issued 1, .issued 2, .issued 3] ++
      [.dropped 0] ++ []) := by decide
  have hside : issuedTickets [.dropped 0] = ∅ := rfl
  obtain ⟨-, hcount, -⟩ := liveAcross_counts_lasting hhistory
  obtain ⟨-, -, -, -, htrue⟩ := liveAcross_counts_lasting hshort
  exact ⟨hhistory, hcount, by decide, hshort, hside, (htrue (.inl hside)).1⟩

/-- One session is open all the while and another comes and goes between the reads: none is counted,
though one or two are open at every moment. -/
theorem liveAcross_misses_lasting_session :
    IsTicketHistory ([.issued 0] ++ [.issued 1, .dropped 1]) ∧
      0 ∈ lastingTickets [.issued 0] [.issued 1, .dropped 1] ∧
      (SharedLedger.run (SharedLedger.turns [.issued 0] [.issued 1, .dropped 1] [])).call =
        .answered 0 ∧
      ¬ CountsMoment [.issued 0] [.issued 1, .dropped 1] := by
  refine ⟨by decide, by decide, rfl, ?_⟩
  unfold CountsMoment
  decide

end SessionLedger

end SpotCheck
