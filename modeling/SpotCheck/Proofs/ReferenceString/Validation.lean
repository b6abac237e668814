import SpotCheck.Proofs.ReferenceString.Prefix
import SpotCheck.Proofs.ReferenceString.Search

/-!
# What validation finds wrong

A list of points that is not accepted has a first thing wrong with it: it is empty, or it holds a
point that is not canonical, or it stops being a progression at some position. Validation compares
neighbours only, in three passes. What it names is the position at which the list as a whole stops
being a list of powers.
-/

namespace SpotCheck.ReferenceString

/-- The position at which a list stops being a progression: it is one up to every position before,
and with the point there it is none. -/
structure StopsAt (points : List Felt) (index : Nat) : Prop where
  lt : index < points.length
  before : ∀ i < index, IsProgression (points.take (i + 1))
  here : ¬ IsProgression (points.take (index + 1))

/-- The first thing that is wrong with a list of points. -/
inductive Defect (points : List Felt) : Error → Prop where
  | empty (h : points = []) : Defect points .empty
  | nonCanonical {index : Nat} {point : Felt} (hpoint : points[index]? = some point)
      (hlarge : modulus ≤ point.toNat) (hbefore : ∀ q ∈ points.take index, q.IsCanonical) :
      Defect points (.nonCanonical index)
  | malformed {index : Nat} (hcanonical : ∀ point ∈ points, point.IsCanonical)
      (hstop : StopsAt points index) : Defect points (.malformed index)

variable {points rest more : List Felt} {first second point tau : Felt} {index : Nat}
  {e e' : Error}

/-! ### There is one first defect -/

theorem StopsAt.unique {other : Nat} (h : StopsAt points index) (h' : StopsAt points other) :
    index = other := by
  rcases Nat.lt_trichotomy index other with hlt | heq | hgt
  · exact absurd (h'.before index hlt) h.here
  · exact heq
  · exact absurd (h.before other hgt) h'.here

theorem isCanonical_of_mem_take {i : Nat} (hpoint : points[i]? = some point)
    (hbefore : ∀ q ∈ points.take index, q.IsCanonical) (hlt : i < index) : point.IsCanonical := by
  apply hbefore
  rw [List.mem_iff_getElem?]
  exact ⟨i, by rw [List.getElem?_take_of_lt hlt, hpoint]⟩

theorem Defect.unique (h : Defect points e) (h' : Defect points e') : e = e' := by
  cases h with
  | empty hnil =>
    cases h' with
    | empty => rfl
    | nonCanonical hpoint => simp [hnil] at hpoint
    | malformed _ hstop => exact absurd hstop.lt (by simp [hnil])
  | @nonCanonical index point hpoint hlarge hbefore =>
    cases h' with
    | empty hnil => simp [hnil] at hpoint
    | @nonCanonical other point' hpoint' hlarge' hbefore' =>
      rcases Nat.lt_trichotomy index other with hlt | heq | hgt
      · exact absurd (isCanonical_of_mem_take hpoint hbefore' hlt) (Nat.not_lt.2 hlarge)
      · rw [heq]
      · exact absurd (isCanonical_of_mem_take hpoint' hbefore hgt) (Nat.not_lt.2 hlarge')
    | malformed hcanonical =>
      exact absurd (hcanonical point (List.mem_of_getElem? hpoint)) (Nat.not_lt.2 hlarge)
  | malformed hcanonical hstop =>
    cases h' with
    | empty hnil => exact absurd hstop.lt (by simp [hnil])
    | nonCanonical hpoint hlarge =>
      exact absurd (hcanonical _ (List.mem_of_getElem? hpoint)) (Nat.not_lt.2 hlarge)
    | malformed _ hstop' => rw [hstop.unique hstop']

theorem IsProgression.take (h : IsProgression points) {count : Nat} (hcount : count ≠ 0) :
    IsProgression (points.take count) where
  nonempty hnil := (List.take_eq_nil_iff.1 hnil).elim hcount h.nonempty
  canonical point hpoint := h.canonical point (List.mem_of_mem_take hpoint)
  powers := by
    obtain ⟨tau, htwo, hlt, hpowers⟩ := h.powers
    refine ⟨tau, htwo, hlt, fun i point hpoint => hpowers i point ?_⟩
    rw [List.getElem?_take] at hpoint
    split at hpoint
    · exact hpoint
    · cases hpoint

theorem IsProgression.not_defect (h : IsProgression points) : ¬ Defect points e := by
  intro hdefect
  cases hdefect with
  | empty hnil => exact h.nonempty hnil
  | nonCanonical hpoint hlarge =>
    exact absurd (h.canonical _ (List.mem_of_getElem? hpoint)) (Nat.not_lt.2 hlarge)
  | malformed _ hstop => exact hstop.here (h.take (Nat.succ_ne_zero _))

/-! ### Neighbours -/

/-- Comparing neighbours finds no break in so many points if and only if they stand in front of the
first one. -/
theorem firstBreak_eq_some {previous : Felt} {start : Nat}
    (h : firstBreak tau start previous points = some index) :
    ∃ i < points.length, index = start + i ∧
      ∀ j, firstBreak tau start previous (points.take j) = none ↔ j ≤ i := by
  induction points generalizing start previous with
  | nil => cases h
  | cons point rest ih =>
    rw [firstBreak] at h
    by_cases hpoint : point = previous * tau
    · rw [if_pos hpoint] at h
      obtain ⟨i, hi, rfl, hrest⟩ := ih h
      refine ⟨i + 1, by simpa using hi, by omega, fun j => ?_⟩
      cases j with
      | zero => simp [firstBreak]
      | succ j => rw [List.take_succ_cons, firstBreak, if_pos hpoint, hrest, Nat.succ_le_succ_iff]
    · rw [if_neg hpoint] at h
      cases h
      refine ⟨0, by simp, rfl, fun j => ?_⟩
      cases j with
      | zero => simp [firstBreak]
      | succ j => simp [firstBreak, hpoint]

theorem isProgression_singleton_iff : IsProgression [first] ↔ first = Felt.one := by
  have hone : Felt.one.IsCanonical := by decide
  have haccepted : ofPoints [first] = .ok ⟨[first]⟩ ↔ _ := ofPoints_eq_ok_iff
  rw [ofPoints_cons_eq_ok_iff] at haccepted
  constructor
  · intro h
    exact (haccepted.2 ⟨h, rfl⟩).1.2.1
  · intro h
    subst h
    exact (haccepted.1 ⟨⟨by simpa using hone, rfl, fun _ _ hnil => by cases hnil⟩, rfl⟩).1

theorem isProgression_cons_cons_iff
    (hcanonical : ∀ point ∈ first :: tau :: more, point.IsCanonical) :
    IsProgression (first :: tau :: more) ↔
      first = Felt.one ∧ 2 ≤ tau.toNat ∧ firstBreak tau 2 tau more = none := by
  have haccepted : ofPoints (first :: tau :: more) = .ok ⟨first :: tau :: more⟩ ↔ _ :=
    ofPoints_eq_ok_iff
  rw [ofPoints_cons_eq_ok_iff] at haccepted
  constructor
  · intro h
    obtain ⟨⟨-, hfirst, hrest⟩, -⟩ := haccepted.2 ⟨h, rfl⟩
    exact ⟨hfirst, hrest tau more rfl⟩
  · intro h
    obtain ⟨hfirst, hrest⟩ := h
    refine (haccepted.1 ⟨⟨hcanonical, hfirst, fun second others heq => ?_⟩, rfl⟩).1
    cases heq
    exact hrest

/-! ### The first defect is found -/

theorem stopsAt_zero (hfirst : first ≠ Felt.one) : StopsAt (first :: rest) 0 where
  lt := by simp
  before i hi := by omega
  here := by
    rw [List.take_succ_cons, List.take_zero, isProgression_singleton_iff]
    exact hfirst

theorem stopsAt_one (hcanonical : ∀ point ∈ Felt.one :: second :: more, point.IsCanonical)
    (hsecond : second.toNat ≤ 1) : StopsAt (Felt.one :: second :: more) 1 where
  lt := by simp
  before i hi := by
    obtain rfl : i = 0 := by omega
    exact isProgression_singleton_iff.2 rfl
  here := by
    have htake : ∀ point ∈ [Felt.one, second], point.IsCanonical :=
      fun point hpoint => hcanonical point (List.mem_of_mem_take (i := 2) hpoint)
    show ¬ IsProgression [Felt.one, second]
    rw [isProgression_cons_cons_iff htake]
    omega

theorem stopsAt_of_firstBreak (hcanonical : ∀ point ∈ Felt.one :: tau :: more, point.IsCanonical)
    (htau : 2 ≤ tau.toNat) (h : firstBreak tau 2 tau more = some index) :
    StopsAt (Felt.one :: tau :: more) index := by
  obtain ⟨i, hi, rfl, hbreak⟩ := firstBreak_eq_some h
  -- From the third point on, a prefix is a progression exactly if no break is found in it.
  have hcut : ∀ j, IsProgression (Felt.one :: tau :: more.take j) ↔ j ≤ i := by
    intro j
    rw [isProgression_cons_cons_iff fun point hpoint =>
      hcanonical point (List.mem_of_mem_take (i := j + 2) hpoint), hbreak]
    simp [htau]
  constructor
  · simp only [List.length_cons]
    omega
  · intro k hk
    cases k with
    | zero => exact isProgression_singleton_iff.2 rfl
    | succ k => exact (hcut k).2 (by omega)
  · have hnot := mt (hcut (i + 1)).1 (by omega)
    rwa [Nat.add_comm 2 i]

theorem defect_of_ofPoints (h : ofPoints points = .error e) : Defect points e := by
  cases points with
  | nil =>
    cases h
    exact .empty rfl
  | cons first rest =>
    unfold ofPoints at h
    rcases hindex : (first :: rest).findIdx? (fun point => ¬ point.IsCanonical) with _ | index
    · have hcanonical := findIdx?_canonical_eq_none_iff.1 hindex
      simp only [hindex] at h
      by_cases hfirst : first = Felt.one
      · subst hfirst
        cases rest with
        | nil => simp at h
        | cons tau more =>
          by_cases htau : tau.toNat ≤ 1
          · simp only [htau] at h
            cases h
            exact .malformed hcanonical (stopsAt_one hcanonical htau)
          · rcases hbreak : firstBreak tau 2 tau more with _ | index
            · simp [htau, hbreak] at h
            · simp only [htau, hbreak] at h
              cases h
              exact .malformed hcanonical
                (stopsAt_of_firstBreak hcanonical (Nat.not_le.1 htau) hbreak)
      · rw [if_pos hfirst] at h
        cases h
        exact .malformed hcanonical (stopsAt_zero hfirst)
    · simp only [hindex] at h
      cases h
      obtain ⟨hlt, hlarge, hbefore⟩ := List.findIdx?_eq_some_iff_getElem.1 hindex
      rw [decide_eq_true_iff] at hlarge
      refine .nonCanonical (List.getElem?_eq_getElem hlt) (Nat.not_lt.1 hlarge) fun q hq => ?_
      obtain ⟨j, hj, rfl⟩ := List.mem_take_iff_getElem.1 hq
      have hsmall := hbefore j (by omega)
      simpa using hsmall

/-- A list is refused for its first defect. -/
theorem ofPoints_eq_error_iff : ofPoints points = .error e ↔ Defect points e := by
  refine ⟨defect_of_ofPoints, fun h => ?_⟩
  rcases hread : ofPoints points with e' | s
  · rw [(defect_of_ofPoints hread).unique h]
  · exact absurd h (ofPoints_eq_ok_iff.1 hread).1.not_defect

theorem ofPoints_eq_malformed_zero_iff
    (hcanonical : ∀ point ∈ first :: rest, point.IsCanonical) :
    ofPoints (first :: rest) = .error (.malformed 0) ↔ first ≠ Felt.one := by
  rw [ofPoints_eq_error_iff]
  constructor
  · intro h
    cases h with
    | malformed _ hstop => exact mt isProgression_singleton_iff.2 hstop.here
  · intro hfirst
    exact .malformed hcanonical (stopsAt_zero hfirst)

theorem ofPoints_eq_malformed_one_iff
    (hcanonical : ∀ point ∈ Felt.one :: second :: more, point.IsCanonical) :
    ofPoints (Felt.one :: second :: more) = .error (.malformed 1) ↔ second.toNat ≤ 1 := by
  rw [ofPoints_eq_error_iff]
  constructor
  · intro h
    cases h with
    | malformed _ hstop =>
      have htwo : ¬ 2 ≤ second.toNat := fun htwo => hstop.here <|
        (isProgression_cons_cons_iff fun point hpoint =>
          hcanonical point (List.mem_of_mem_take (i := 2) hpoint)).2 ⟨rfl, htwo, rfl⟩
      omega
  · intro hsecond
    exact .malformed hcanonical (stopsAt_one hcanonical hsecond)

theorem isProgression_iff : IsProgression points ↔
    points ≠ [] ∧ (∀ point ∈ points, point.toNat < modulus) ∧
      (points = [Felt.one] ∨ ∃ tau, 2 ≤ tau ∧ tau < modulus ∧
        ∀ i point, points[i]? = some point → point.toNat = tau ^ i % modulus) := by
  constructor
  · intro h
    exact ⟨h.nonempty, h.canonical, .inr h.powers⟩
  · intro h
    obtain ⟨hnonempty, hcanonical, rfl | hpowers⟩ := h
    · exact isProgression_singleton_iff.2 rfl
    · exact ⟨hnonempty, hcanonical, hpowers⟩

/-! ### Generation -/

variable {count : Nat} {seed : Bytes} {s : ReferenceString}

theorem size_of_generate (h : generate count seed = .ok s) : s.size = count := by
  obtain ⟨-, tau, -, rfl⟩ := generate_eq_ok_iff.1 h
  exact length_powersAt tau 0 count

theorem checkCount_eq_error_iff : checkCount count = .error e ↔
    count = 0 ∧ e = .empty ∨ 2 ^ 24 < count ∧ e = .tooLarge count := by
  have hmax : maxPoints = 2 ^ 24 := rfl
  unfold checkCount
  rw [hmax]
  split
  · simp [*, eq_comm]
  · split
    · rename_i hzero hlarge
      simp only [hzero, false_and, false_or, Except.error.injEq, and_iff_right hlarge, eq_comm]
    · rename_i hzero hsmall
      simp only [hzero, false_and, false_or, reduceCtorEq, hsmall]

/-- Nothing is refused but the number of points; a search that does not end is a fault. -/
theorem generate_eq_refused_iff :
    generate count seed = .error (.refused e) ↔ checkCount count = .error e := by
  unfold generate
  rcases checkCount count with e' | _
  · simp [bind, Except.bind]
  · rcases tauOfSeed seed with fault | tau <;> simp [bind, Except.bind]

theorem generate_isOk_iff : (∃ s, generate count seed = .ok s) ↔
    (count ≠ 0 ∧ count ≤ 2 ^ 24) ∧ SearchEnds seed := by
  rw [← tauOfSeed_isOk_iff]
  constructor
  · intro h
    obtain ⟨s, h⟩ := h
    obtain ⟨hcount, tau, htau, -⟩ := generate_eq_ok_iff.1 h
    exact ⟨hcount, tau, htau⟩
  · intro h
    obtain ⟨hcount, tau, htau⟩ := h
    exact ⟨_, generate_eq_ok_iff.2 ⟨hcount, tau, htau, rfl⟩⟩

/-! ### Main theorem -/

/-- A list of points is accepted if and only if it holds the powers of one element from one on, and
otherwise refused for the first thing that is wrong with it, at the first position where it is. What
is generated has so many points, the powers of its second one, and is accepted as it is; generation
refuses nothing but the number of points. -/
theorem ofPoints_names_first_defect :
    (∀ points s, ofPoints points = .ok s ↔
      (points ≠ [] ∧ (∀ point ∈ points, point.toNat < modulus) ∧
        (points = [Felt.one] ∨ ∃ tau, 2 ≤ tau ∧ tau < modulus ∧
          ∀ i point, points[i]? = some point → point.toNat = tau ^ i % modulus)) ∧
      s = ⟨points⟩) ∧
    (∀ points e, ofPoints points = .error e ↔ Defect points e) ∧
    (∀ first rest, (∀ point ∈ first :: rest, point.toNat < modulus) →
      (ofPoints (first :: rest) = .error (.malformed 0) ↔ first ≠ Felt.one) ∧
      ∀ second more, first = Felt.one → rest = second :: more →
        (ofPoints (first :: rest) = .error (.malformed 1) ↔ second.toNat ≤ 1)) ∧
    ∀ count seed,
      (∀ s, generate count seed = .ok s → s.size = count ∧ ofPoints s.points = .ok s ∧
        s.prefixDigest count = .ok s.digest ∧
        ∀ i point, s.points[i]? = some point → point.toNat = s.tau.toNat ^ i % modulus) ∧
      (∀ e, generate count seed = .error (.refused e) ↔
        count = 0 ∧ e = .empty ∨ 2 ^ 24 < count ∧ e = .tooLarge count) ∧
      (SearchEnds seed → count ≠ 0 → count ≤ 2 ^ 24 → ∃ s, generate count seed = .ok s) := by
  refine ⟨fun points s => ?_, fun points e => ofPoints_eq_error_iff,
    fun first rest hcanonical => ⟨ofPoints_eq_malformed_zero_iff hcanonical, ?_⟩,
    fun count seed => ⟨fun s h => ?_,
      fun e => generate_eq_refused_iff.trans checkCount_eq_error_iff,
      fun hends hcount hle => generate_isOk_iff.2 ⟨⟨hcount, hle⟩, hends⟩⟩⟩
  · rw [ofPoints_eq_ok_iff, isProgression_iff]
  · intro second more hfirst hrest
    subst hfirst hrest
    exact ofPoints_eq_malformed_one_iff hcanonical
  · have hprogression := isProgression_of_generate h
    have hsize := size_of_generate h
    refine ⟨hsize, ofPoints_eq_ok_iff.2 ⟨hprogression, rfl⟩, ?_, fun i point hpoint =>
      (hprogression.getElem? hpoint).2.1⟩
    rw [← hsize]
    exact prefixDigest_size s

/-- Four points of which the last is one too many for a power of three, a word beyond the modulus
behind a point that breaks the progression, and three points from the empty seed. -/
theorem ofPoints_names_first_defect_four_points :
    StopsAt [⟨1⟩, ⟨3⟩, ⟨9⟩, ⟨28⟩] 3 ∧
      ofPoints [⟨1⟩, ⟨1⟩, ⟨0x7fffffff⟩] = .error (.nonCanonical 2) ∧
      ofPoints [⟨2⟩, ⟨1⟩] = .error (.malformed 0) ∧
      ofPoints [⟨1⟩, ⟨1⟩] = .error (.malformed 1) ∧
      ∃ s, generate 3 [] = .ok s ∧ s.size = 3 ∧ ofPoints s.points = .ok s := by
  obtain ⟨-, hdefect, hfront, hgenerate⟩ := ofPoints_names_first_defect
  obtain ⟨hgenerated, -, hends⟩ := hgenerate 3 []
  have hmalformed := (hdefect [⟨1⟩, ⟨3⟩, ⟨9⟩, ⟨28⟩] (.malformed 3)).1 (by decide)
  obtain ⟨s, hs⟩ := hends ⟨0, by decide +kernel⟩ (by decide) (by decide)
  refine ⟨?_, (hdefect _ _).2 ?_, (hfront ⟨2⟩ [⟨1⟩] (by decide)).1.2 (by decide),
    ((hfront ⟨1⟩ [⟨1⟩] (by decide)).2 _ _ rfl rfl).2 (by decide), s, hs, (hgenerated s hs).1,
    (hgenerated s hs).2.1⟩
  · cases hmalformed with
    | malformed _ hstop => exact hstop
  · exact .nonCanonical rfl (by decide) (by decide)

end SpotCheck.ReferenceString
