import Mathlib.Data.List.Perm.Subperm
import SpotCheck.Proofs.Sampling

/-!
# Sampled indices are first appearances

A search that ends has drawn scalars one after the other, and found the different ones among their
remainders in the order in which they first appeared; it has drawn no scalar more than it takes for
so many of them. A smaller search from the same transcript is the beginning of a larger one.
-/

namespace SpotCheck

namespace Transcript

/-! ### First appearances -/

/-- What scalars stand for as indices below a bound. -/
def remainders (max : Nat) (scalars : List Felt) : List Nat :=
  scalars.map fun s => s.toNat % max

/-- The different indices that scalars stand for, in order of first appearance. -/
def firstIndices (max : Nat) (scalars : List Felt) : List Nat :=
  (remainders max scalars).eraseDups

theorem firstIndices_prefix (max : Nat) (scalars more : List Felt) :
    firstIndices max scalars <+: firstIndices max (scalars ++ more) := by
  rw [firstIndices, firstIndices, remainders, remainders, List.map_append, List.eraseDups_append]
  exact List.prefix_append ..

theorem firstIndices_append_singleton (max : Nat) (scalars : List Felt) (s : Felt) :
    firstIndices max (scalars ++ [s]) =
      if s.toNat % max ∈ firstIndices max scalars then firstIndices max scalars
      else firstIndices max scalars ++ [s.toNat % max] := by
  unfold firstIndices
  have hmap : remainders max (scalars ++ [s]) = remainders max scalars ++ [s.toNat % max] := by
    simp [remainders]
  rw [hmap, List.eraseDups_append, List.cons_removeAll]
  by_cases h : s.toNat % max ∈ remainders max scalars <;> simp [h, List.eraseDups_cons]

theorem draw_succ_eq_ok_iff {count : Nat} {t t' : Transcript} {scalars : List Felt} :
    draw (count + 1) t = .ok (scalars, t') ↔ ∃ first next rest, t.scalar = .ok (first, next) ∧
      draw count next = .ok (rest, t') ∧ scalars = first :: rest := by
  rw [draw, bind_eq_ok_iff]
  constructor
  · intro h
    obtain ⟨⟨first, next⟩, hfirst, hrest⟩ := h
    obtain ⟨⟨rest, last⟩, hdraw, hok⟩ := bind_eq_ok_iff.1 hrest
    cases hok
    exact ⟨first, next, rest, hfirst, hdraw, rfl⟩
  · intro h
    obtain ⟨first, next, rest, hfirst, hdraw, rfl⟩ := h
    exact ⟨(first, next), hfirst, bind_eq_ok_iff.2 ⟨(rest, t'), hdraw, rfl⟩⟩

/-! ### The search -/

/-- What a search keeps after some scalars: their different indices, the latest first, and these
count as seen. -/
structure Keeps (max : Nat) (past : List Felt) (found : List Nat) (seen : Std.HashSet Nat) :
    Prop where
  order : found.reverse = firstIndices max past
  seen : ∀ index, seen.contains index = true ↔ index ∈ found

variable {max budget missing : Nat} {past : List Felt} {found : List Nat}
  {seen : Std.HashSet Nat} {t t' : Transcript} {rows : List Nat}

theorem Keeps.empty (max : Nat) : Keeps max [] [] ∅ where
  order := rfl
  seen := by simp

theorem Keeps.length (h : Keeps max past found seen) :
    (firstIndices max past).length = found.length := by
  rw [← h.order, List.length_reverse]

theorem Keeps.mem_iff (h : Keeps max past found seen) {index : Nat} :
    index ∈ firstIndices max past ↔ seen.contains index = true := by
  rw [← h.order, List.mem_reverse, h.seen]

theorem Keeps.again (h : Keeps max past found seen) {s : Felt}
    (hseen : seen.contains (s.toNat % max) = true) : Keeps max (past ++ [s]) found seen where
  order := by rw [firstIndices_append_singleton, if_pos (h.mem_iff.2 hseen), h.order]
  seen := h.seen

theorem Keeps.new (h : Keeps max past found seen) {s : Felt}
    (hnew : ¬ seen.contains (s.toNat % max) = true) :
    Keeps max (past ++ [s]) (s.toNat % max :: found) (seen.insert (s.toNat % max)) where
  order := by
    rw [firstIndices_append_singleton, if_neg (mt h.mem_iff.1 hnew), List.reverse_cons, h.order]
  seen := contains_insert_iff h.seen _

/-- The scalars drawn on the way from one transcript to another supply, behind those of the past, so
many different indices, and the last of them supplies the last index. -/
structure Supplies (max total : Nat) (past : List Felt) (t : Transcript) (rows : List Nat)
    (t' : Transcript) (drawn : Nat) (scalars : List Felt) : Prop where
  draw : draw drawn t = .ok (scalars, t')
  order : rows = firstIndices max (past ++ scalars)
  count : rows.length = total
  least : ∀ fewer < drawn, (firstIndices max (past ++ scalars.take fewer)).length < total

theorem Keeps.supplies (h : Keeps max past found seen) :
    Supplies max found.length past t found.reverse t 0 [] where
  draw := rfl
  order := by rw [List.append_nil, h.order]
  count := List.length_reverse
  least := nofun

theorem Supplies.cons {total drawn : Nat} {scalars : List Felt} {s : Felt} {next : Transcript}
    (hscalar : t.scalar = .ok (s, next)) (hless : (firstIndices max past).length < total)
    (h : Supplies max total (past ++ [s]) next rows t' drawn scalars) :
    Supplies max total past t rows t' (drawn + 1) (s :: scalars) where
  draw := draw_succ_eq_ok_iff.2 ⟨s, next, scalars, hscalar, h.draw, rfl⟩
  order := by rw [h.order, List.append_assoc, List.singleton_append]
  count := h.count
  least fewer hfewer := by
    cases fewer with
    | zero => rwa [List.take_zero, List.append_nil]
    | succ fewer =>
      have hrest := h.least fewer (by omega)
      rwa [List.append_assoc, List.singleton_append] at hrest

/-- A search that ends has drawn the scalars up to the last index that it was to find. -/
theorem supplies_of_search (hkeeps : Keeps max past found seen)
    (h : search max budget missing found seen t = .ok (rows, t')) :
    ∃ drawn scalars, Supplies max (found.length + missing) past t rows t' drawn scalars := by
  induction budget generalizing missing past found seen t with
  | zero =>
    cases missing with
    | zero =>
      cases h
      exact ⟨0, [], hkeeps.supplies⟩
    | succ missing => cases h
  | succ budget ih =>
    cases missing with
    | zero =>
      cases h
      exact ⟨0, [], hkeeps.supplies⟩
    | succ missing =>
      rw [search, bind_eq_ok_iff] at h
      obtain ⟨⟨s, next⟩, hscalar, h⟩ := h
      have hless : (firstIndices max past).length < found.length + (missing + 1) := by
        rw [hkeeps.length]
        omega
      by_cases hseen : seen.contains (s.toNat % max) = true
      -- A scalar with an index seen before is one of the past and brings the end no nearer.
      · obtain ⟨drawn, scalars, hrest⟩ := ih (hkeeps.again hseen) (by simpa [hseen] using h)
        exact ⟨drawn + 1, s :: scalars, hrest.cons hscalar hless⟩
      · obtain ⟨drawn, scalars, hrest⟩ := ih (hkeeps.new hseen) (by simpa [hseen] using h)
        have htotal : (s.toNat % max :: found).length + missing = found.length + (missing + 1) := by
          rw [List.length_cons]
          omega
        rw [htotal] at hrest
        exact ⟨drawn + 1, s :: scalars, hrest.cons hscalar hless⟩

theorem Keeps.exists_eq_succ (h : Keeps max past found seen) {drawn : Nat} {scalars : List Felt}
    {last : Transcript} (hdraw : draw drawn t = .ok (scalars, last))
    (htotal : found.length < (firstIndices max (past ++ scalars)).length) :
    ∃ fewer, drawn = fewer + 1 := by
  cases drawn with
  | zero =>
    cases hdraw
    rw [List.append_nil, h.length] at htotal
    exact absurd htotal (Nat.lt_irrefl _)
  | succ fewer => exact ⟨fewer, rfl⟩

/-- A search ends when some scalars, as many as the budget allows, supply the indices. -/
theorem search_isOk {drawn : Nat} {scalars : List Felt} {last : Transcript}
    (hkeeps : Keeps max past found seen) (hdraw : draw drawn t = .ok (scalars, last))
    (hbudget : drawn ≤ budget)
    (htotal : found.length + missing ≤ (firstIndices max (past ++ scalars)).length) :
    ∃ rows t', search max budget missing found seen t = .ok (rows, t') := by
  induction budget generalizing missing past found seen t drawn scalars with
  | zero =>
    cases missing with
    | zero => exact ⟨_, _, rfl⟩
    | succ missing =>
      obtain ⟨fewer, rfl⟩ := hkeeps.exists_eq_succ hdraw (by omega)
      omega
  | succ budget ih =>
    cases missing with
    | zero => exact ⟨_, _, rfl⟩
    | succ missing =>
      obtain ⟨fewer, rfl⟩ := hkeeps.exists_eq_succ hdraw (by omega)
      obtain ⟨s, next, rest, hscalar, hrest, rfl⟩ := draw_succ_eq_ok_iff.1 hdraw
      have hsplit : past ++ s :: rest = past ++ [s] ++ rest := by simp
      rw [hsplit] at htotal
      by_cases hseen : seen.contains (s.toNat % max) = true
      · obtain ⟨rows, t', hsearch⟩ := ih (hkeeps.again hseen) hrest (by omega) htotal
        exact ⟨rows, t', bind_eq_ok_iff.2 ⟨(s, next), hscalar, by simpa [hseen] using hsearch⟩⟩
      · have htotal' : (s.toNat % max :: found).length + missing ≤
            (firstIndices max (past ++ [s] ++ rest)).length := by
          rw [List.length_cons]
          omega
        obtain ⟨rows, t', hsearch⟩ := ih (hkeeps.new hseen) hrest (by omega) htotal'
        exact ⟨rows, t', bind_eq_ok_iff.2 ⟨(s, next), hscalar, by simpa [hseen] using hsearch⟩⟩

/-! ### Indices -/

variable {count : Nat}

theorem draw_eq_take {drawn more : Nat} {scalars others : List Felt} {last : Transcript}
    (h : draw drawn t = .ok (scalars, t')) (hmore : draw more t = .ok (others, last))
    (hle : drawn ≤ more) : scalars = others.take drawn := by
  induction drawn generalizing more t scalars others with
  | zero =>
    cases h
    rfl
  | succ drawn ih =>
    cases more with
    | zero => omega
    | succ more =>
      obtain ⟨s, next, rest, hscalar, hrest, rfl⟩ := draw_succ_eq_ok_iff.1 h
      obtain ⟨s', next', rest', hscalar', hrest', rfl⟩ := draw_succ_eq_ok_iff.1 hmore
      cases hscalar.symm.trans hscalar'
      rw [List.take_succ_cons, ← ih hrest hrest' (by omega)]

section Compare

variable {total total' drawn drawn' : Nat} {scalars scalars' : List Felt} {rows' : List Nat}
  {last : Transcript} (h : Supplies max total past t rows t' drawn scalars)
  (h' : Supplies max total' past t rows' last drawn' scalars')

include h h'

theorem Supplies.drawn_le (hle : total ≤ total') : drawn ≤ drawn' := by
  by_contra hlt
  have hscalars := draw_eq_take h'.draw h.draw (by omega)
  have hless := h.least drawn' (by omega)
  rw [← hscalars, ← h'.order, h'.count] at hless
  omega

theorem Supplies.rows_prefix (hle : total ≤ total') : rows <+: rows' := by
  have hscalars := draw_eq_take h.draw h'.draw (h.drawn_le h' hle)
  have hsplit : past ++ scalars' = past ++ scalars ++ scalars'.drop drawn := by
    rw [hscalars, List.append_assoc, List.take_append_drop]
  rw [h.order, h'.order, hsplit]
  exact firstIndices_prefix ..

end Compare

theorem Supplies.unique {total drawn drawn' : Nat} {scalars scalars' : List Felt}
    {rows' : List Nat} {last : Transcript} (h : Supplies max total past t rows t' drawn scalars)
    (h' : Supplies max total past t rows' last drawn' scalars') : rows = rows' ∧ t' = last := by
  have hdrawn : drawn = drawn' :=
    Nat.le_antisymm (h.drawn_le h' (Nat.le_refl _)) (h'.drawn_le h (Nat.le_refl _))
  subst hdrawn
  have hdraw := h.draw.symm.trans h'.draw
  cases hdraw
  exact ⟨h.order.trans h'.order.symm, rfl⟩

theorem drawn_lt_of_draw {drawn : Nat} {scalars : List Felt}
    (h : draw drawn t = .ok (scalars, t')) : drawn ≤ Word.limit - 1 - t.drawn := by
  induction drawn generalizing t scalars with
  | zero => omega
  | succ drawn ih =>
    obtain ⟨s, next, rest, hscalar, hrest, -⟩ := draw_succ_eq_ok_iff.1 h
    obtain ⟨-, rfl, hlt⟩ := scalar_eq_ok_iff.1 hscalar
    have hle := ih hrest
    dsimp only at hle
    omega

theorem indices_eq_ok_iff : t.indices count max = .ok (rows, t') ↔
    Word.reserve (min count max) 8 = .ok () ∧
      ∃ drawn scalars, Supplies max (min count max) [] t rows t' drawn scalars := by
  rw [indices, bind_eq_ok_iff]
  constructor
  · intro h
    obtain ⟨_, hroom, hsearch⟩ := h
    obtain ⟨drawn, scalars, hsupplies⟩ := supplies_of_search (Keeps.empty max) hsearch
    rw [List.length_nil, Nat.zero_add] at hsupplies
    exact ⟨hroom, drawn, scalars, hsupplies⟩
  · intro h
    obtain ⟨hroom, drawn, scalars, hsupplies⟩ := h
    have htotal : ([] : List Nat).length + min count max ≤
        (firstIndices max ([] ++ scalars)).length := by
      rw [← hsupplies.order, hsupplies.count]
      simp
    -- The search ends, with what supplies so many indices; there is only one way to supply them.
    obtain ⟨rows', last, hsearch⟩ := search_isOk (Keeps.empty max) hsupplies.draw
      (drawn_lt_of_draw hsupplies.draw) htotal
    obtain ⟨drawn', scalars', hfound⟩ := supplies_of_search (Keeps.empty max) hsearch
    rw [List.length_nil, Nat.zero_add] at hfound
    obtain ⟨rfl, rfl⟩ := hsupplies.unique hfound
    exact ⟨(), hroom, hsearch⟩

/-! ### Remainders that may fault -/

/-- The remainder of a division. It faults when there is nothing to divide by. -/
def remainder (a b : Nat) : Except Fault Nat :=
  if b = 0 then
    .error (.raised (.literal "attempt to calculate the remainder with a divisor of zero"))
  else .ok (a % b)

/-- The search with such remainders, which looks for an index among those that it has found. -/
def checkedSearch (max : Nat) : (budget missing : Nat) → (found : List Nat) → Transcript →
    Except Fault (List Nat × Transcript)
  | _, 0, found, t => .ok (found.reverse, t)
  | 0, _ + 1, _, _ => .error .addOverflow
  | budget + 1, missing + 1, found, t => do
    let (scalar, t) ← t.scalar
    let index ← remainder scalar.toNat max
    if index ∈ found then checkedSearch max budget (missing + 1) found t
    else checkedSearch max budget missing (index :: found) t

def checkedIndices (t : Transcript) (count max : Nat) : Except Fault (List Nat × Transcript) := do
  let count := min count max
  Word.reserve count 8
  checkedSearch max (Word.limit - 1 - t.drawn) count [] t

theorem checkedSearch_eq (hmax : max = 0 → missing = 0) (hkeeps : Keeps max past found seen) :
    checkedSearch max budget missing found t = search max budget missing found seen t := by
  induction budget generalizing missing past found seen t with
  | zero => cases missing <;> rfl
  | succ budget ih =>
    cases missing with
    | zero => rfl
    | succ missing =>
      have hpos : max ≠ 0 := fun hzero => Nat.succ_ne_zero _ (hmax hzero)
      rw [checkedSearch, search]
      rcases hscalar : t.scalar with fault | ⟨s, next⟩
      · rfl
      · have hremainder : remainder s.toNat max = .ok (s.toNat % max) := if_neg hpos
        simp only [bind, Except.bind, hremainder]
        by_cases hseen : seen.contains (s.toNat % max) = true
        · rw [if_pos ((hkeeps.seen _).1 hseen), if_pos hseen]
          exact ih (fun hzero => absurd hzero hpos) (hkeeps.again hseen)
        · rw [if_neg (mt (hkeeps.seen _).2 hseen), if_neg hseen]
          exact ih (fun hzero => absurd hzero hpos) (hkeeps.new hseen)

/-- Nothing is divided by zero: with an empty range there is no index to look for. -/
theorem checkedIndices_eq (t : Transcript) (count max : Nat) :
    t.checkedIndices count max = t.indices count max := by
  have hmax : max = 0 → min count max = 0 := by omega
  unfold checkedIndices indices
  simp only [checkedSearch_eq hmax (Keeps.empty max)]

/-! ### Main theorem -/

theorem perm_range_of_nodup (hlength : max ≤ rows.length) (hnodup : rows.Nodup)
    (hbelow : ∀ row ∈ rows, row < max) : rows.Perm (List.range max) := by
  have hsub : rows ⊆ List.range max := fun row hrow => List.mem_range.2 (hbelow row hrow)
  refine (List.subperm_of_subset hnodup hsub).perm_of_length_le ?_
  rwa [List.length_range]

/-- Indices are drawn if and only if there is room for them and some scalars, drawn one after the
other, supply so many: they are the different remainders of these in order of first appearance, and
no scalar is drawn behind the one that supplies the last. So they are different and below the bound,
all indices below it when so many are asked for, and those of a smaller request stand in front of
those of a larger one. -/
theorem indices_are_first_appearances (t : Transcript) (count max : Nat) :
    (∀ rows t', t.indices count max = .ok (rows, t') ↔
      Word.reserve (min count max) 8 = .ok () ∧
      ∃ drawn scalars, draw drawn t = .ok (scalars, t') ∧ t'.drawn = t.drawn + drawn ∧
        rows = (scalars.map fun s => s.toNat % max).eraseDups ∧ rows.length = min count max ∧
        ∀ fewer < drawn,
          ((scalars.take fewer).map fun s => s.toNat % max).eraseDups.length < min count max) ∧
    (∀ rows t', t.indices count max = .ok (rows, t') →
      rows.length = min count max ∧ rows.Nodup ∧ (∀ row ∈ rows, row < max) ∧
      t'.state = t.state ∧ (min count max = 0 → t' = t) ∧
      (max ≤ count → rows.Perm (List.range max)) ∧
      ∀ more rows' last, count ≤ more → t.indices more max = .ok (rows', last) →
        rows <+: rows') ∧
    t.checkedIndices count max = t.indices count max := by
  refine ⟨fun rows t' => ?_, fun rows t' h => ?_, checkedIndices_eq t count max⟩
  · rw [indices_eq_ok_iff]
    refine and_congr_right' ⟨fun h => ?_, fun h => ?_⟩
    · obtain ⟨drawn, scalars, hsupplies⟩ := h
      obtain ⟨-, rfl⟩ := draw_eq_ok hsupplies.draw
      exact ⟨drawn, scalars, hsupplies.draw, rfl, hsupplies.order, hsupplies.count,
        hsupplies.least⟩
    · obtain ⟨drawn, scalars, hdraw, -, horder, hcount, hleast⟩ := h
      exact ⟨drawn, scalars, hdraw, horder, hcount, hleast⟩
  · obtain ⟨-, drawn, scalars, hsupplies⟩ := indices_eq_ok_iff.1 h
    obtain ⟨-, rfl⟩ := draw_eq_ok hsupplies.draw
    have hbelow : rows.Nodup ∧ ∀ row ∈ rows, row < max := by
      rcases Nat.eq_zero_or_pos max with hzero | hpos
      · have hnil : rows = [] := List.length_eq_zero_iff.1 (by rw [hsupplies.count]; omega)
        simp [hnil]
      · exact (indices_eq_ok hpos h).2
    refine ⟨hsupplies.count, hbelow.1, hbelow.2, rfl, fun hzero => ?_, fun hle => ?_,
      fun more rows' last hle h' => ?_⟩
    -- With nothing to find, a first scalar would already be one too many.
    · have hdrawn : drawn = 0 := by
        by_contra hne
        have hless := hsupplies.least 0 (Nat.pos_of_ne_zero hne)
        omega
      rw [hdrawn, Nat.add_zero]
    · exact perm_range_of_nodup (by rw [hsupplies.count]; omega) hbelow.1 hbelow.2
    · obtain ⟨-, drawn', scalars', hsupplies'⟩ := indices_eq_ok_iff.1 h'
      exact hsupplies.rows_prefix hsupplies' (by omega)

/-- Four indices below four from the empty transcript. Their remainders begin with one, three, one,
zero and zero; the eighth is the first to be two. The first three indices take four scalars. -/
theorem indices_are_first_appearances_below_four :
    start.indices 4 4 = .ok ([1, 3, 0, 2], { start with drawn := 8 }) ∧
      start.indices 3 4 = .ok ([1, 3, 0], { start with drawn := 4 }) ∧
      [1, 3, 0] <+: [1, 3, 0, 2] ∧ [1, 3, 0, 2].Perm (List.range 4) := by
  have hdraw : draw 8 start = .ok ([⟨324764169⟩, ⟨331891411⟩, ⟨1598117753⟩, ⟨261552848⟩,
      ⟨1699148472⟩, ⟨251177679⟩, ⟨337208081⟩, ⟨1321683246⟩], { start with drawn := 8 }) := by
    decide +kernel
  have hdraw' : draw 4 start = .ok ([⟨324764169⟩, ⟨331891411⟩, ⟨1598117753⟩, ⟨261552848⟩],
      { start with drawn := 4 }) := by
    decide +kernel
  have hall := ((indices_are_first_appearances start 4 4).1 [1, 3, 0, 2] _).2
    ⟨by decide, 8, _, hdraw, rfl, by decide, rfl, by decide⟩
  have hthree := ((indices_are_first_appearances start 3 4).1 [1, 3, 0] _).2
    ⟨by decide, 4, _, hdraw', rfl, by decide, rfl, by decide⟩
  obtain ⟨-, -, -, -, -, hperm, -⟩ := (indices_are_first_appearances start 4 4).2.1 _ _ hall
  obtain ⟨-, -, -, -, -, -, hfront⟩ := (indices_are_first_appearances start 3 4).2.1 _ _ hthree
  exact ⟨hall, hthree, hfront 4 _ _ (by decide) hall, hperm (by decide)⟩

end Transcript

end SpotCheck
