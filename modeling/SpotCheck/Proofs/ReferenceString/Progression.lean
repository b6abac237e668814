import SpotCheck.Proofs.Field.Prime
import SpotCheck.Proofs.Steps
import SpotCheck.ReferenceString.Basic

/-!
# Reference strings are progressions

Validation compares each point with the one before it. What it accepts is told point by point: the
point at a position is the power of one element with the position as exponent. Generation makes
the powers one after another, so that it makes nothing that validation would not accept.
-/

namespace SpotCheck.ReferenceString

/-- The powers of one element from one on. Where there is a single point, any element will do. -/
structure IsProgression (points : List Felt) : Prop where
  nonempty : points ≠ []
  canonical : ∀ point ∈ points, point.IsCanonical
  powers : ∃ tau, 2 ≤ tau ∧ tau < modulus ∧
    ∀ i point, points[i]? = some point → point.toNat = tau ^ i % modulus

/-! ### Powers in the field -/

def power (tau : Felt) : Nat → Felt
  | 0 => Felt.one
  | i + 1 => power tau i * tau

theorem toNat_power (tau : Felt) (i : Nat) : (power tau i).toNat = tau.toNat ^ i % modulus := by
  induction i with
  | zero => rfl
  | succ i ih => rw [power, Felt.toNat_mul, ih, Nat.mod_mul_mod, Nat.pow_succ]

theorem isCanonical_power (tau : Felt) (i : Nat) : (power tau i).IsCanonical := by
  unfold Felt.IsCanonical
  rw [toNat_power]
  exact Nat.mod_lt _ (by decide)

theorem power_one {tau : Felt} (h : tau.IsCanonical) : power tau 1 = tau := by
  apply Felt.toNat_injective
  rw [toNat_power, Nat.pow_one, Nat.mod_eq_of_lt h]

/-- The points with so many positions from one on. -/
def powersAt (tau : Felt) (start count : Nat) : List Felt :=
  (List.range' start count).map (power tau)

theorem powersAt_succ (tau : Felt) (start count : Nat) :
    powersAt tau start (count + 1) = power tau start :: powersAt tau (start + 1) count := by
  rw [powersAt, List.range'_succ, List.map_cons, powersAt]

theorem length_powersAt (tau : Felt) (start count : Nat) :
    (powersAt tau start count).length = count := by
  simp [powersAt]

theorem getElem?_powersAt {tau point : Felt} {start count i : Nat}
    (h : (powersAt tau start count)[i]? = some point) : point = power tau (start + i) := by
  simp only [powersAt, List.getElem?_map, Option.map_eq_some_iff] at h
  obtain ⟨position, hposition, rfl⟩ := h
  obtain ⟨hlt, rfl⟩ := List.getElem?_eq_some_iff.1 hposition
  rw [List.getElem_range', Nat.one_mul]

theorem take_powersAt (tau : Felt) {m n : Nat} (h : m ≤ n) :
    (powersAt tau 0 n).take m = powersAt tau 0 m := by
  obtain ⟨more, rfl⟩ := Nat.exists_eq_add_of_le h
  rw [powersAt, ← List.range'_append_1, List.map_append]
  exact List.take_left' (length_powersAt tau 0 m)

theorem isProgression_powersAt {tau : Felt} {count : Nat} (htau : 2 ≤ tau.toNat)
    (hcanonical : tau.IsCanonical) (hcount : count ≠ 0) :
    IsProgression (powersAt tau 0 count) where
  nonempty h := by
    have hlen := length_powersAt tau 0 count
    rw [h] at hlen
    exact hcount hlen.symm
  canonical point hpoint := by
    obtain ⟨i, -, rfl⟩ := List.mem_map.1 hpoint
    exact isCanonical_power tau i
  powers := by
    refine ⟨tau.toNat, htau, hcanonical, fun i point hpoint => ?_⟩
    rw [getElem?_powersAt hpoint, toNat_power, Nat.zero_add]

/-- A progression is made of the powers of one canonical element. -/
theorem IsProgression.exists_eq_powersAt {points : List Felt} (h : IsProgression points) :
    ∃ tau : Felt, 2 ≤ tau.toNat ∧ tau.IsCanonical ∧ points = powersAt tau 0 points.length := by
  obtain ⟨tau, htwo, hlt, hpowers⟩ := h.powers
  have htoNat : (⟨UInt32.ofNat tau⟩ : Felt).toNat = tau := by
    rw [modulus_eq] at hlt
    rw [Felt.toNat, UInt32.toNat_ofNat']
    omega
  have hcanonical : (⟨UInt32.ofNat tau⟩ : Felt).IsCanonical := by
    unfold Felt.IsCanonical
    rw [htoNat]
    exact hlt
  refine ⟨⟨UInt32.ofNat tau⟩, Nat.le_trans htwo (Nat.le_of_eq htoNat.symm), hcanonical, ?_⟩
  apply List.ext_getElem?
  intro i
  rcases hpoint : points[i]? with _ | point
  · rw [eq_comm, List.getElem?_eq_none_iff, length_powersAt]
    exact List.getElem?_eq_none_iff.1 hpoint
  · have hi := (List.getElem?_eq_some_iff.1 hpoint).1
    rw [powersAt, List.getElem?_map, List.getElem?_range' hi, Option.map_some, Option.some.injEq]
    apply Felt.toNat_injective
    rw [toNat_power, htoNat, hpowers i point hpoint, Nat.zero_add, Nat.one_mul]

/-! ### Points by their positions -/

/-- The element whose powers the points are: the second point, where there is one. -/
def tau (s : ReferenceString) : Felt := s.points.getD 1 Felt.one

/-- A point of a string is a power of the second point, and not zero. -/
theorem IsProgression.getElem? {s : ReferenceString} (h : IsProgression s.points) {i : Nat}
    {point : Felt} (hpoint : s.points[i]? = some point) :
    point.IsCanonical ∧ point.toNat = s.tau.toNat ^ i % modulus ∧ point.toNat % modulus ≠ 0 := by
  obtain ⟨tau, htwo, hlt, hpowers⟩ := h.powers
  have hcanonical : point.IsCanonical := h.canonical point (List.mem_of_getElem? hpoint)
  have hvalue := hpowers i point hpoint
  refine ⟨hcanonical, ?_, ?_⟩
  · rcases hsecond : s.points[1]? with _ | second
    · -- A single point leaves the position zero only.
      have hlen := List.getElem?_eq_none_iff.1 hsecond
      obtain ⟨hi, -⟩ := List.getElem?_eq_some_iff.1 hpoint
      obtain rfl : i = 0 := by omega
      rw [hvalue, Nat.pow_zero, Nat.pow_zero]
    · have htau : s.tau.toNat = tau := by
        rw [ReferenceString.tau, List.getD_eq_getElem?_getD, hsecond, Option.getD_some,
          hpowers 1 second hsecond, Nat.pow_one, Nat.mod_eq_of_lt hlt]
      rw [hvalue, htau]
  · rw [hcanonical.mod, hvalue]
    refine pow_mod_modulus_ne_zero ?_ i
    rw [Nat.mod_eq_of_lt hlt]
    omega

/-! ### Validation -/

/-- No point breaks the progression when each is the next power. -/
theorem firstBreak_eq_none_iff (tau : Felt) (index position : Nat) (points : List Felt) :
    firstBreak tau index (power tau position) points = none ↔
      points = powersAt tau (position + 1) points.length := by
  induction points generalizing index position with
  | nil => simp [firstBreak, powersAt]
  | cons point rest ih =>
    rw [firstBreak, List.length_cons, powersAt_succ, List.cons.injEq, power]
    by_cases hpoint : point = power tau position * tau
    · rw [if_pos hpoint, hpoint]
      have hnext := ih (index + 1) (position + 1)
      simpa [power] using hnext
    · simp [hpoint]

theorem findIdx?_canonical_eq_none_iff {points : List Felt} :
    points.findIdx? (fun point => ¬ point.IsCanonical) = none ↔
      ∀ point ∈ points, point.IsCanonical := by
  simp [List.findIdx?_eq_none_iff]

/-- The checks behind an acceptance: all points first, then the first one, the second one and the
rest. -/
theorem ofPoints_cons_eq_ok_iff {first : Felt} {rest : List Felt} {s : ReferenceString} :
    ofPoints (first :: rest) = .ok s ↔
      ((∀ point ∈ first :: rest, point.IsCanonical) ∧ first = Felt.one ∧
        ∀ tau more, rest = tau :: more → 2 ≤ tau.toNat ∧ firstBreak tau 2 tau more = none) ∧
      s = ⟨first :: rest⟩ := by
  unfold ofPoints
  rcases hindex : (first :: rest).findIdx? (fun point => ¬ point.IsCanonical) with _ | index
  · have hcanonical := iff_true_intro (findIdx?_canonical_eq_none_iff.1 hindex)
    rw [hcanonical, true_and]
    simp only [hindex]
    by_cases hfirst : first = Felt.one
    · cases rest with
      | nil => simp [hfirst, eq_comm]
      | cons tau more =>
        by_cases htau : tau.toNat ≤ 1
        · have hlow : ¬ 2 ≤ tau.toNat := by omega
          simp [hfirst, htau, hlow]
        · have htwo : 2 ≤ tau.toNat := by omega
          rcases hbreak : firstBreak tau 2 tau more with _ | index
          · simp [hfirst, htau, htwo, hbreak, eq_comm]
          · simp [hfirst, htau, hbreak]
    · simp [hfirst]
  · have hcanonical : ¬ ∀ point ∈ first :: rest, point.IsCanonical := by
      rw [← findIdx?_canonical_eq_none_iff, hindex]
      simp
    simp only [hindex, reduceCtorEq, hcanonical, false_and]

/-- What is accepted is a progression, and every progression is accepted. -/
theorem ofPoints_eq_ok_iff {points : List Felt} {s : ReferenceString} :
    ofPoints points = .ok s ↔ IsProgression points ∧ s = ⟨points⟩ := by
  cases points with
  | nil =>
    have hnot : ¬ IsProgression [] := fun h => h.nonempty rfl
    simp [ofPoints, hnot]
  | cons first rest =>
    rw [ofPoints_cons_eq_ok_iff]
    refine and_congr_left' ⟨fun h => ?_, fun h => ?_⟩
    · obtain ⟨hcanonical, rfl, hrest⟩ := h
      cases rest with
      | nil =>
        have hlone : [Felt.one] = powersAt ⟨2⟩ 0 1 := rfl
        rw [hlone]
        exact isProgression_powersAt (by decide) (by decide) (by decide)
      | cons tau more =>
        have htau : tau.IsCanonical := hcanonical tau (by simp)
        obtain ⟨htwo, hbreak⟩ := hrest tau more rfl
        have hmore : more = powersAt tau 2 more.length := by
          rw [← firstBreak_eq_none_iff tau 2 1 more, power_one htau]
          exact hbreak
        have hall : Felt.one :: tau :: more = powersAt tau 0 (more.length + 2) := by
          rw [powersAt_succ, powersAt_succ, ← hmore, power_one htau]
          rfl
        rw [hall]
        exact isProgression_powersAt htwo htau (by omega)
    · obtain ⟨tau, htwo, htau, hall⟩ := h.exists_eq_powersAt
      rw [List.length_cons, powersAt_succ, List.cons.injEq] at hall
      obtain ⟨hfirst, hrest⟩ := hall
      refine ⟨h.canonical, hfirst, fun second more heq => ?_⟩
      rw [heq, List.length_cons, powersAt_succ, List.cons.injEq, power_one htau] at hrest
      obtain ⟨rfl, hmore⟩ := hrest
      refine ⟨htwo, ?_⟩
      have hbreak := firstBreak_eq_none_iff second 2 1 more
      rw [power_one htau] at hbreak
      exact hbreak.2 hmore

/-! ### Generation -/

theorem powersFrom_eq (tau : Felt) (count position : Nat) (done : List Felt) :
    powersFrom tau count (power tau position) done = done.reverse ++ powersAt tau position count := by
  induction count generalizing position done with
  | zero => simp [powersFrom, powersAt]
  | succ count ih =>
    rw [powersFrom, powersAt_succ]
    have hnext := ih (position + 1) (power tau position :: done)
    simpa [power] using hnext

theorem powers_eq (tau : Felt) (count : Nat) : powers tau count = powersAt tau 0 count :=
  powersFrom_eq tau count 0 []

/-- The search goes on past zero and one, and a digest is reduced before it is looked at. -/
theorem searchTau_eq_ok {budget : Nat} {d : Digest} {tau : Felt}
    (h : searchTau budget d = .ok tau) : 2 ≤ tau.toNat ∧ tau.IsCanonical := by
  induction budget generalizing d with
  | zero => cases h
  | succ budget ih =>
    rw [searchTau] at h
    split at h
    · exact ih h
    · rename_i hlarge
      cases h
      exact ⟨by omega, Felt.isCanonical_ofWord _⟩

theorem checkCount_eq_ok_iff {count : Nat} :
    checkCount count = .ok () ↔ count ≠ 0 ∧ count ≤ maxPoints := by
  unfold checkCount
  split
  · simp [*]
  · split
    · simp; omega
    · simp; omega

theorem generate_eq_ok_iff {count : Nat} {seed : Bytes} {s : ReferenceString} :
    generate count seed = .ok s ↔ (count ≠ 0 ∧ count ≤ maxPoints) ∧
      ∃ tau, tauOfSeed seed = .ok tau ∧ s = ⟨powersAt tau 0 count⟩ := by
  simp only [generate, bind_eq_ok_iff, Outcome.ofResult_eq_ok_iff, Outcome.ofFaulting_eq_ok_iff,
    powers_eq, Except.ok.injEq]
  rw [← checkCount_eq_ok_iff]
  constructor
  · intro h
    obtain ⟨_, hcount, tau, htau, rfl⟩ := h
    exact ⟨hcount, tau, htau, rfl⟩
  · intro h
    obtain ⟨hcount, tau, htau, rfl⟩ := h
    exact ⟨(), hcount, tau, htau, rfl⟩

theorem isProgression_of_generate {count : Nat} {seed : Bytes} {s : ReferenceString}
    (h : generate count seed = .ok s) : IsProgression s.points := by
  obtain ⟨⟨hcount, -⟩, tau, htau, rfl⟩ := generate_eq_ok_iff.1 h
  obtain ⟨htwo, hcanonical⟩ := searchTau_eq_ok htau
  exact isProgression_powersAt htwo hcanonical hcount

end SpotCheck.ReferenceString
