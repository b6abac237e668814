import Mathlib.Data.Nat.Bitwise
import SpotCheck.Proofs.Merkle.Opening

/-!
# The levels of a tree

A full tree can be read level by level: the leaves are level zero, and each place of the next level
holds the digest of two neighbouring places of the level below. Read in that way, every subtree is
a place, and the siblings of a leaf are the neighbours of the places above it, found by halving the
position and changing its lowest bit.
-/

namespace SpotCheck.Merkle

/-- The digest at a place of a level; places beyond the leaves are padded. -/
def nodeDigest (padding : Digest) (leaves : List Digest) : Nat → Nat → Digest
  | 0, place => leafAt padding leaves place
  | level + 1, place =>
    pairDigest (nodeDigest padding leaves level (2 * place))
      (nodeDigest padding leaves level (2 * place + 1))

/-- The place that has the same parent. -/
def neighbour (place : Nat) : Nat := place ^^^ 1

theorem neighbour_two_mul (half : Nat) : neighbour (2 * half) = 2 * half + 1 :=
  Nat.xor_one_of_even (even_two_mul half)

theorem neighbour_two_mul_add_one (half : Nat) : neighbour (2 * half + 1) = 2 * half :=
  Nat.xor_one_of_odd (odd_two_mul_add_one half)

theorem neighbour_eq_or (place : Nat) :
    (place % 2 = 0 ∧ neighbour place = place + 1) ∨
      (place % 2 = 1 ∧ neighbour place + 1 = place) := by
  obtain ⟨half, rfl | rfl⟩ := Nat.even_or_odd' place
  · rw [neighbour_two_mul]
    omega
  · rw [neighbour_two_mul_add_one]
    omega

/-! ### Subtrees -/

namespace Tree

/-- A tree has no use for more leaves than fit its height. -/
theorem ofLeaves_take {padding : Digest} {height count : Nat} {leaves : List Digest}
    (h : 2 ^ height ≤ count) :
    ofLeaves padding height (leaves.take count) = ofLeaves padding height leaves := by
  induction height generalizing leaves count with
  | zero =>
    have hpos : count ≠ 0 := Nat.ne_of_gt h
    cases leaves with
    | nil => rw [List.take_nil]
    | cons first rest =>
      obtain ⟨less, rfl⟩ := Nat.exists_eq_succ_of_ne_zero hpos
      rfl
  | succ height ih =>
    rw [Nat.pow_succ] at h
    have hright : 2 ^ height ≤ count - 2 ^ height := by omega
    rw [ofLeaves_succ, ofLeaves_succ, List.take_take, Nat.min_eq_left (by omega),
      List.drop_take, ih hright]

theorem ofLeaves_take_self (padding : Digest) (height : Nat) (leaves : List Digest) :
    ofLeaves padding height (leaves.take (2 ^ height)) = ofLeaves padding height leaves :=
  ofLeaves_take (Nat.le_refl _)

/-- The first leaf under the right child of a place. -/
theorem two_pow_add_two_pow_succ_mul (height place : Nat) :
    2 ^ (height + 1) * place + 2 ^ height = 2 ^ height * (2 * place + 1) := by
  rw [Nat.pow_succ]
  ring

theorem two_pow_succ_mul (height place : Nat) :
    2 ^ (height + 1) * place = 2 ^ height * (2 * place) := by
  rw [Nat.pow_succ]
  ring

/-- The subtree of a height over the leaves under a place has the digest of the place. -/
theorem digest_ofLeaves_drop (padding : Digest) (leaves : List Digest) (height place : Nat) :
    (ofLeaves padding height (leaves.drop (2 ^ height * place))).digest =
      nodeDigest padding leaves height place := by
  induction height generalizing place with
  | zero =>
    rw [digest_ofLeaves_zero, leafAt_drop, Nat.pow_zero, Nat.one_mul]
    rfl
  | succ height ih =>
    rw [digest_ofLeaves_succ, ofLeaves_take_self, List.drop_drop, two_pow_add_two_pow_succ_mul,
      two_pow_succ_mul, ih, ih]
    rfl

theorem digest_ofLeaves (padding : Digest) (leaves : List Digest) (height : Nat) :
    (ofLeaves padding height leaves).digest = nodeDigest padding leaves height 0 := by
  have h := digest_ofLeaves_drop padding leaves height 0
  rwa [Nat.mul_zero, List.drop_zero] at h

/-- The siblings of a leaf under a place are the neighbours on its way up to the place. -/
theorem siblings_ofLeaves_drop {padding : Digest} {leaves : List Digest} {height index : Nat}
    (place : Nat) (h : index < 2 ^ height) :
    (ofLeaves padding height (leaves.drop (2 ^ height * place))).siblings height index =
      (List.range height).map fun level =>
        nodeDigest padding leaves level (neighbour ((2 ^ height * place + index) / 2 ^ level)) := by
  induction height generalizing place index with
  | zero => simp [ofLeaves, siblings]
  | succ height ih =>
    have hpos : 0 < 2 ^ height := Nat.two_pow_pos height
    rw [List.range_succ, List.map_append, List.map_singleton]
    by_cases hlt : index < 2 ^ height
    · have htop : (2 ^ (height + 1) * place + index) / 2 ^ height = 2 * place := by
        rw [two_pow_succ_mul, Nat.mul_add_div hpos, Nat.div_eq_of_lt hlt, Nat.add_zero]
      rw [siblings_of_lt hlt, ofLeaves_take_self, List.drop_drop, two_pow_add_two_pow_succ_mul,
        digest_ofLeaves_drop, htop, neighbour_two_mul, two_pow_succ_mul, ih (2 * place) hlt]
    · have hle : 2 ^ height ≤ index := Nat.not_lt.1 hlt
      obtain ⟨low, hlow, rfl, -⟩ := exists_low_of_le h hle
      have hsplit : 2 ^ (height + 1) * place + (low + 2 ^ height) =
          2 ^ height * (2 * place + 1) + low := by
        rw [← two_pow_add_two_pow_succ_mul]
        omega
      have htop : (2 ^ height * (2 * place + 1) + low) / 2 ^ height = 2 * place + 1 := by
        rw [Nat.mul_add_div hpos, Nat.div_eq_of_lt hlow, Nat.add_zero]
      rw [siblings_of_le hle, Nat.add_sub_cancel, ofLeaves_take_self, List.drop_drop,
        two_pow_add_two_pow_succ_mul, hsplit, htop, neighbour_two_mul_add_one,
        ih (2 * place + 1) hlow, two_pow_succ_mul, digest_ofLeaves_drop]

theorem siblings_ofLeaves {padding : Digest} {leaves : List Digest} {height index : Nat}
    (h : index < 2 ^ height) :
    (ofLeaves padding height leaves).siblings height index =
      (List.range height).map fun level =>
        nodeDigest padding leaves level (neighbour (index / 2 ^ level)) := by
  have hplace : (ofLeaves padding height (leaves.drop (2 ^ height * 0))).siblings height index = _ :=
    siblings_ofLeaves_drop 0 h
  simpa only [Nat.mul_zero, List.drop_zero, Nat.zero_add] using hplace

end Tree

end SpotCheck.Merkle
