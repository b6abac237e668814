import Mathlib.Data.List.Nodup
import SpotCheck.Challenges
import SpotCheck.Proofs.Key

/-!
# Sampling

A search that ends has found as many different indices as it was to find, all of them below the
bound. One invariant carries it: the indices found so far are different, below the bound, and the
ones that count as seen.
-/

namespace SpotCheck

namespace Transcript

/-! ### Scalars -/

theorem scalar_eq_ok_iff {t t' : Transcript} {s : Felt} :
    t.scalar = .ok (s, t') ↔
      s = scalarAt t.state (t.drawn + 1) ∧ t' = { t with drawn := t.drawn + 1 } ∧
        t.drawn + 1 < Word.limit := by
  rw [scalar, bind_eq_ok_iff]
  simp only [Word.add_eq_ok_iff, Except.ok.injEq, Prod.mk.injEq]
  constructor
  · intro h
    obtain ⟨number, ⟨rfl, hlt⟩, rfl, rfl⟩ := h
    exact ⟨rfl, rfl, hlt⟩
  · intro h
    obtain ⟨rfl, rfl, hlt⟩ := h
    exact ⟨_, ⟨rfl, hlt⟩, rfl, rfl⟩

/-- Drawing scalars gives so many of them, counts them and appends no message. -/
theorem draw_eq_ok {count : Nat} {t t' : Transcript} {scalars : List Felt}
    (h : draw count t = .ok (scalars, t')) :
    scalars.length = count ∧ t' = { t with drawn := t.drawn + count } := by
  induction count generalizing t scalars with
  | zero =>
    cases h
    exact ⟨rfl, rfl⟩
  | succ count ih =>
    obtain ⟨⟨first, t₁⟩, hfirst, hrest⟩ := bind_eq_ok_iff.1 h
    obtain ⟨⟨rest, t₂⟩, hdraw, hok⟩ := bind_eq_ok_iff.1 hrest
    cases hok
    obtain ⟨-, rfl, -⟩ := scalar_eq_ok_iff.1 hfirst
    obtain ⟨hlen, rfl⟩ := ih hdraw
    refine ⟨by rw [List.length_cons, hlen], ?_⟩
    rw [Nat.add_assoc, Nat.add_comm 1]

theorem draw_isOk {count : Nat} {t : Transcript} (h : t.drawn + count < Word.limit) :
    ∃ scalars t', draw count t = .ok (scalars, t') := by
  induction count generalizing t with
  | zero => exact ⟨[], t, rfl⟩
  | succ count ih =>
    have hfirst := scalar_eq_ok_iff.2 ⟨rfl, rfl, show t.drawn + 1 < Word.limit by omega⟩
    have hnext : t.drawn + 1 + count < Word.limit := by omega
    obtain ⟨rest, t', hrest⟩ := ih (t := { t with drawn := t.drawn + 1 }) hnext
    exact ⟨_, _, bind_eq_ok_iff.2 ⟨_, hfirst, bind_eq_ok_iff.2 ⟨_, hrest, rfl⟩⟩⟩

theorem scalars_eq_ok {count : Nat} {t t' : Transcript} {scalars : List Felt}
    (h : t.scalars count = .ok (scalars, t')) :
    scalars.length = count ∧ t' = { t with drawn := t.drawn + count } := by
  obtain ⟨_, -, h⟩ := bind_eq_ok_iff.1 h
  exact draw_eq_ok h

/-! ### Indices -/

/-- What a search keeps: different indices below the bound, and these count as seen. -/
structure Found (max : Nat) (found : List Nat) (seen : Std.HashSet Nat) : Prop where
  nodup : found.Nodup
  below : ∀ index ∈ found, index < max
  seen : ∀ index, seen.contains index = true ↔ index ∈ found

theorem contains_insert_iff {found : List Nat} {seen : Std.HashSet Nat}
    (h : ∀ index, seen.contains index = true ↔ index ∈ found) (index other : Nat) :
    (seen.insert index).contains other = true ↔ other ∈ index :: found := by
  rw [Std.HashSet.contains_insert, Bool.or_eq_true, h, List.mem_cons, beq_iff_eq, eq_comm]

theorem Found.empty (max : Nat) : Found max [] ∅ where
  nodup := List.nodup_nil
  below := by simp
  seen := by simp

theorem Found.insert {max index : Nat} {found : List Nat} {seen : Std.HashSet Nat}
    (h : Found max found seen) (hlt : index < max) (hnew : ¬ seen.contains index = true) :
    Found max (index :: found) (seen.insert index) where
  nodup := List.nodup_cons.2 ⟨fun hmem => hnew ((h.seen index).2 hmem), h.nodup⟩
  below := List.forall_mem_cons.2 ⟨hlt, h.below⟩
  seen := contains_insert_iff h.seen index

theorem Found.reverse {max : Nat} {found : List Nat} {seen : Std.HashSet Nat}
    (h : Found max found seen) :
    found.reverse.length = found.length + 0 ∧ found.reverse.Nodup ∧
      ∀ row ∈ found.reverse, row < max :=
  ⟨List.length_reverse, List.nodup_reverse.2 h.nodup,
    fun row hrow => h.below row (List.mem_reverse.1 hrow)⟩

theorem search_eq_ok {max budget missing : Nat} {found rows : List Nat}
    {seen : Std.HashSet Nat} {t t' : Transcript} (hmax : 0 < max) (hfound : Found max found seen)
    (h : search max budget missing found seen t = .ok (rows, t')) :
    rows.length = found.length + missing ∧ rows.Nodup ∧ ∀ row ∈ rows, row < max := by
  induction budget generalizing missing found seen t with
  | zero =>
    cases missing with
    | zero =>
      cases h
      exact hfound.reverse
    | succ missing => cases h
  | succ budget ih =>
    cases missing with
    | zero =>
      cases h
      exact hfound.reverse
    | succ missing =>
      rw [search, bind_eq_ok_iff] at h
      obtain ⟨⟨scalar, t₁⟩, -, h⟩ := h
      by_cases hseen : seen.contains (scalar.toNat % max) = true
      -- An index seen before costs budget and nothing else.
      · exact ih hfound (by simpa [hseen] using h)
      · have hnext := hfound.insert (Nat.mod_lt _ hmax) hseen
        obtain ⟨hlen, hrest⟩ := ih hnext (by simpa [hseen] using h)
        rw [List.length_cons] at hlen
        exact ⟨by omega, hrest⟩

theorem indices_eq_ok {count max : Nat} {rows : List Nat} {t t' : Transcript} (hmax : 0 < max)
    (h : t.indices count max = .ok (rows, t')) :
    rows.length = min count max ∧ rows.Nodup ∧ ∀ row ∈ rows, row < max := by
  obtain ⟨_, -, h⟩ := bind_eq_ok_iff.1 h
  have hspec := search_eq_ok hmax (Found.empty max) h
  rwa [List.length_nil, Nat.zero_add] at hspec

theorem indices_one {t : Transcript} {max : Nat} (hmax : 0 < max)
    (hdrawn : t.drawn + 1 < Word.limit) :
    t.indices 1 max =
      .ok ([(scalarAt t.state (t.drawn + 1)).toNat % max], { t with drawn := t.drawn + 1 }) := by
  have hmin : min 1 max = 1 := Nat.min_eq_left hmax
  have hroom : Word.reserve 1 8 = .ok () := by decide
  have hscalar := scalar_eq_ok_iff.2 ⟨rfl, rfl, hdrawn⟩
  obtain ⟨budget, hbudget⟩ : ∃ budget, Word.limit - 1 - t.drawn = budget + 1 :=
    ⟨Word.limit - 1 - t.drawn - 1, by omega⟩
  rw [indices, hmin, hroom, hbudget]
  simp only [bind, Except.bind, search, hscalar, Std.HashSet.contains_empty]
  rfl

end Transcript

/-! ### Challenges -/

structure Challenges.Suits (key : Key) (ch : Challenges) : Prop where
  coefficients : ch.coefficients.length = key.numConstraints
  rows : ch.rows.length = min key.numQueries key.transitionRows
  nodup : ch.rows.Nodup
  below : ∀ row ∈ ch.rows, row < key.transitionRows

theorem Key.transitionRows_pos (key : Key) : 0 < key.transitionRows := by
  have hone := key.one_le_window
  have hle := key.window_le
  unfold transitionRows numRows
  omega

theorem Challenges.suits_of_draw {key : Key} {inputs : PublicInputs} {roots : List Digest}
    {ch : Challenges} (h : draw key inputs roots = .ok ch) : ch.Suits key := by
  obtain ⟨⟨coefficients, t⟩, hscalars, h⟩ := bind_eq_ok_iff.1 h
  obtain ⟨⟨rows, t'⟩, hindices, hok⟩ := bind_eq_ok_iff.1 h
  cases hok
  obtain ⟨hlen, hnodup, hbelow⟩ := Transcript.indices_eq_ok key.transitionRows_pos hindices
  exact ⟨(Transcript.scalars_eq_ok hscalars).1, hlen, hnodup, hbelow⟩

/-- A key that asks for no more rows than there are gets as many as it asks for. -/
theorem Challenges.Suits.length_rows {key : Key} {ch : Challenges} (h : ch.Suits key)
    (hqueries : key.QueriesFit) : ch.rows.length = key.numQueries := by
  rw [h.rows, Nat.min_eq_left hqueries]

/-- Nothing is drawn before the columns are committed. -/
theorem drawn_seedTranscript (key : Key) (inputs : PublicInputs) (roots : List Digest) :
    (seedTranscript key inputs roots).drawn = 0 := by
  have hfold : ∀ t : Transcript, (roots.foldl Transcript.append t).drawn = t.drawn := by
    intro t
    induction roots generalizing t with
    | nil => rfl
    | cons root roots ih => exact ih (t.append root)
  exact hfold _

/-- So many scalars are drawn whatever the transcript holds, if there is room for them. -/
theorem Challenges.scalars_isOk {key : Key} (inputs : PublicInputs) (roots : List Digest)
    (hroom : key.numConstraints * Felt.width ≤ Word.maxAllocation) :
    ∃ coefficients, (seedTranscript key inputs roots).scalars key.numConstraints =
      .ok (coefficients, { seedTranscript key inputs roots with drawn := key.numConstraints }) := by
  have hdrawn := drawn_seedTranscript key inputs roots
  have hlimit : (seedTranscript key inputs roots).drawn + key.numConstraints < Word.limit := by
    unfold Felt.width Word.maxAllocation at hroom
    unfold Word.limit
    omega
  obtain ⟨coefficients, t, hdraw⟩ := Transcript.draw_isOk hlimit
  have hscalars : (seedTranscript key inputs roots).scalars key.numConstraints =
      .ok (coefficients, t) :=
    bind_eq_ok_iff.2 ⟨(), Word.reserve_eq_ok_iff.2 hroom, hdraw⟩
  have ht := (Transcript.scalars_eq_ok hscalars).2
  rw [hdrawn, Nat.zero_add] at ht
  rw [← ht]
  exact ⟨coefficients, hscalars⟩

/-- The loop that looks for different rows ends before the count of scalars leaves its word. -/
def Challenges.SearchEnds (key : Key) (inputs : PublicInputs) (roots : List Digest) : Prop :=
  ∃ found, Transcript.search key.transitionRows (Word.limit - 1 - key.numConstraints)
    (min key.numQueries key.transitionRows) [] ∅
    { seedTranscript key inputs roots with drawn := key.numConstraints } = .ok found

/-- Nothing but the search for rows can fail, once there is room for the coefficients. -/
theorem Challenges.draw_isOk_iff {key : Key} {inputs : PublicInputs} {roots : List Digest} :
    (∃ ch, draw key inputs roots = .ok ch) ↔
      key.numConstraints * Felt.width ≤ Word.maxAllocation ∧ SearchEnds key inputs roots := by
  constructor
  · intro h
    obtain ⟨ch, hdraw⟩ := h
    obtain ⟨⟨coefficients, t⟩, hscalars, hdraw⟩ := bind_eq_ok_iff.1 hdraw
    obtain ⟨-, rfl⟩ := Transcript.scalars_eq_ok hscalars
    obtain ⟨_, hroom, -⟩ := bind_eq_ok_iff.1 hscalars
    obtain ⟨found, hindices, -⟩ := bind_eq_ok_iff.1 hdraw
    obtain ⟨_, -, hfound⟩ := bind_eq_ok_iff.1 hindices
    dsimp only at hfound
    rw [drawn_seedTranscript, Nat.zero_add] at hfound
    exact ⟨Word.reserve_eq_ok_iff.1 hroom, found, hfound⟩
  · intro h
    obtain ⟨hroom, found, hfound⟩ := h
    obtain ⟨coefficients, hscalars⟩ := scalars_isOk inputs roots hroom
    have hwords : Word.reserve (min key.numQueries key.transitionRows) 8 = .ok () := by
      have hrows := key.numRows_le
      have hle : key.transitionRows ≤ key.numRows := Nat.sub_le ..
      refine Word.reserve_eq_ok_iff.2 ?_
      unfold Word.maxAllocation
      omega
    have hindices : ({ seedTranscript key inputs roots with drawn := key.numConstraints } :
        Transcript).indices key.numQueries key.transitionRows = .ok found :=
      bind_eq_ok_iff.2 ⟨(), hwords, hfound⟩
    exact ⟨_, bind_eq_ok_iff.2 ⟨_, hscalars, bind_eq_ok_iff.2 ⟨_, hindices, rfl⟩⟩⟩

/-- A key with a single query leaves nothing to search for. -/
theorem Challenges.searchEnds_of_one_query {key : Key} (inputs : PublicInputs)
    (roots : List Digest) (hqueries : key.numQueries = 1)
    (hconstraints : key.numConstraints * Felt.width ≤ Word.maxAllocation) :
    SearchEnds key inputs roots := by
  have hnext : key.numConstraints + 1 < Word.limit := by
    unfold Felt.width Word.maxAllocation at hconstraints
    unfold Word.limit
    omega
  have hindices := Transcript.indices_one
    (t := { seedTranscript key inputs roots with drawn := key.numConstraints })
    key.transitionRows_pos hnext
  obtain ⟨_, -, hfound⟩ := bind_eq_ok_iff.1 hindices
  rw [SearchEnds, hqueries]
  exact ⟨_, hfound⟩

theorem Challenges.draw_isOk {key : Key} (inputs : PublicInputs) (roots : List Digest)
    (hqueries : key.numQueries = 1)
    (hconstraints : key.numConstraints * Felt.width ≤ Word.maxAllocation) :
    ∃ ch, draw key inputs roots = .ok ch :=
  draw_isOk_iff.2 ⟨hconstraints, searchEnds_of_one_query inputs roots hqueries hconstraints⟩

end SpotCheck
