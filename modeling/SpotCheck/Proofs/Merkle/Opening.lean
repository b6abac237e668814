import Mathlib.Tactic.Ring
import SpotCheck.Merkle

/-!
# Opened cells lead to the root

A full tree of height `h` has its leaves at the positions below `2 ^ h`. The siblings of a
position, taken from the tree from top to bottom, lead a climb from the leaf back to the root,
although the climb works from bottom to top and knows the position only by its bits.
-/

namespace SpotCheck.Merkle

/-! ### Climbing -/

/-- The digest above a node and its sibling; the lowest bit of a position tells the sides. -/
def parent (position : Nat) (node sibling : Digest) : Digest :=
  if position % 2 = 0 then pairDigest node sibling else pairDigest sibling node

theorem climb_cons (node sibling : Digest) (index : Nat) (rest : List Digest) :
    climb node index (sibling :: rest) = climb (parent index node sibling) (index / 2) rest := rfl

theorem climb_append_singleton (node sibling : Digest) (index : Nat) (path : List Digest) :
    climb node index (path ++ [sibling]) =
      parent (index / 2 ^ path.length) (climb node index path) sibling := by
  induction path generalizing node index with
  | nil => simp [climb_cons, climb]
  | cons first rest ih =>
    rw [List.cons_append, climb_cons, ih, climb_cons, List.length_cons, Nat.div_div_eq_div_mul,
      Nat.pow_succ']

/-- A climb sees no more bits of the position than there are siblings. -/
theorem climb_add_mul (node : Digest) (index high : Nat) (path : List Digest) :
    climb node (index + 2 ^ path.length * high) path = climb node index path := by
  induction path generalizing node index high with
  | nil => rfl
  | cons first rest ih =>
    have hpow : 2 ^ (first :: rest).length * high = 2 * (2 ^ rest.length * high) := by
      rw [List.length_cons, Nat.pow_succ]
      ring
    have hbit : (index + 2 * (2 ^ rest.length * high)) % 2 = index % 2 := by omega
    have hhalf : (index + 2 * (2 ^ rest.length * high)) / 2 =
        index / 2 + 2 ^ rest.length * high := by omega
    rw [climb_cons, climb_cons, hpow, hhalf, ih, parent, parent, hbit]

/-- The highest bit of a position in the right half is none that a path through the half sees. -/
theorem climb_add_two_pow {path : List Digest} {height : Nat} (hlen : path.length = height)
    (node : Digest) (low : Nat) : climb node (low + 2 ^ height) path = climb node low path := by
  have h := climb_add_mul node low 1 path
  rwa [hlen, Nat.mul_one] at h

theorem climb_mod (node : Digest) (index : Nat) (path : List Digest) :
    climb node (index % 2 ^ path.length) path = climb node index path := by
  have h := climb_add_mul node (index % 2 ^ path.length) (index / 2 ^ path.length) path
  rw [Nat.mod_add_div] at h
  exact h.symm

/-! ### Full trees -/

/-- The leaf at a position; positions beyond the leaves are padded. -/
def leafAt (padding : Digest) (leaves : List Digest) (index : Nat) : Digest :=
  leaves[index]?.getD padding

theorem leafAt_take {padding : Digest} {leaves : List Digest} {count index : Nat}
    (h : index < count) :
    leafAt padding (leaves.take count) index = leafAt padding leaves index := by
  rw [leafAt, leafAt, List.getElem?_take_of_lt h]

theorem leafAt_drop (padding : Digest) (leaves : List Digest) (count index : Nat) :
    leafAt padding (leaves.drop count) index = leafAt padding leaves (count + index) := by
  rw [leafAt, leafAt, List.getElem?_drop]

namespace Tree

theorem digest_ofLeaves_zero (padding : Digest) (leaves : List Digest) :
    (ofLeaves padding 0 leaves).digest = leafAt padding leaves 0 := by
  cases leaves <;> rfl

theorem ofLeaves_succ (padding : Digest) (height : Nat) (leaves : List Digest) :
    ofLeaves padding (height + 1) leaves =
      join (ofLeaves padding height (leaves.take (2 ^ height)))
        (ofLeaves padding height (leaves.drop (2 ^ height))) := by
  rw [ofLeaves, Nat.one_shiftLeft]

theorem digest_ofLeaves_succ (padding : Digest) (height : Nat) (leaves : List Digest) :
    (ofLeaves padding (height + 1) leaves).digest =
      pairDigest (ofLeaves padding height (leaves.take (2 ^ height))).digest
        (ofLeaves padding height (leaves.drop (2 ^ height))).digest := by
  rw [ofLeaves_succ]
  rfl

theorem siblings_of_lt {padding : Digest} {height index : Nat} {leaves : List Digest}
    (h : index < 2 ^ height) :
    (ofLeaves padding (height + 1) leaves).siblings (height + 1) index =
      (ofLeaves padding height (leaves.take (2 ^ height))).siblings height index ++
        [(ofLeaves padding height (leaves.drop (2 ^ height))).digest] := by
  simp [ofLeaves_succ, join, siblings, Nat.one_shiftLeft, h]

theorem siblings_of_le {padding : Digest} {height index : Nat} {leaves : List Digest}
    (h : 2 ^ height ≤ index) :
    (ofLeaves padding (height + 1) leaves).siblings (height + 1) index =
      (ofLeaves padding height (leaves.drop (2 ^ height))).siblings height (index - 2 ^ height) ++
        [(ofLeaves padding height (leaves.take (2 ^ height))).digest] := by
  simp [ofLeaves_succ, join, siblings, Nat.one_shiftLeft, Nat.not_lt.2 h]

@[simp] theorem length_siblings (padding : Digest) (height index : Nat) (leaves : List Digest) :
    ((ofLeaves padding height leaves).siblings height index).length = height := by
  induction height generalizing index leaves with
  | zero => simp [ofLeaves, siblings]
  | succ height ih =>
    by_cases h : index < 2 ^ height
    · rw [siblings_of_lt h, List.length_append, ih]
      rfl
    · rw [siblings_of_le (Nat.not_lt.1 h), List.length_append, ih]
      rfl

/-- A position in the right half is one of the left half with the highest bit set. -/
theorem exists_low_of_le {height index : Nat} (hlt : index < 2 ^ (height + 1))
    (hle : 2 ^ height ≤ index) :
    ∃ low < 2 ^ height, index = low + 2 ^ height ∧ index / 2 ^ height = 1 := by
  obtain ⟨low, rfl⟩ := Nat.exists_eq_add_of_le' hle
  have hlow : low < 2 ^ height := by
    rw [Nat.pow_succ] at hlt
    omega
  refine ⟨low, hlow, rfl, ?_⟩
  rw [Nat.add_div_right _ (Nat.two_pow_pos height), Nat.div_eq_of_lt hlow]

/-- The siblings of a position lead from its leaf to the root. -/
theorem climb_siblings {padding : Digest} {height index : Nat} (leaves : List Digest)
    (h : index < 2 ^ height) :
    climb (leafAt padding leaves index) index
        ((ofLeaves padding height leaves).siblings height index) =
      (ofLeaves padding height leaves).digest := by
  induction height generalizing index leaves with
  | zero =>
    have hindex : index = 0 := by simpa using h
    subst hindex
    rw [digest_ofLeaves_zero]
    rfl
  | succ height ih =>
    rw [digest_ofLeaves_succ]
    by_cases hlt : index < 2 ^ height
    · rw [siblings_of_lt hlt, climb_append_singleton, length_siblings, Nat.div_eq_of_lt hlt,
        ← leafAt_take hlt, ih _ hlt]
      rfl
    · have hle : 2 ^ height ≤ index := Nat.not_lt.1 hlt
      obtain ⟨low, hlow, rfl, hbit⟩ := exists_low_of_le h hle
      have hleaf : leafAt padding (leaves.drop (2 ^ height)) low =
          leafAt padding leaves (low + 2 ^ height) := by
        rw [leafAt_drop, Nat.add_comm]
      rw [siblings_of_le hle, Nat.add_sub_cancel, climb_append_singleton, length_siblings, hbit,
        climb_add_two_pow (length_siblings ..), ← hleaf, ih _ hlow]
      rfl

end Tree

/-! ### Commitments -/

@[simp] theorem heightFor_two_pow (k : Nat) : heightFor (2 ^ k) = k := by
  have hpos : 0 < 2 ^ k := Nat.two_pow_pos k
  have hmax : max (2 ^ k) 1 = 2 ^ k := Nat.max_eq_left hpos
  rw [heightFor, hmax, Nat.log2_eq_iff (by omega), Nat.pow_succ]
  omega

theorem le_two_pow_heightFor (count : Nat) : count ≤ 2 ^ heightFor count := by
  have hlt : 2 * max count 1 - 1 < 2 ^ (heightFor count + 1) := Nat.lt_log2_self
  rw [Nat.pow_succ] at hlt
  omega

theorem lt_two_pow_of_getElem? {values : List Felt} {index : Nat} {value : Felt}
    (h : values[index]? = some value) : index < 2 ^ heightFor values.length :=
  Nat.lt_of_lt_of_le (List.getElem?_eq_some_iff.1 h).1 (le_two_pow_heightFor values.length)

theorem leafAt_of_getElem? {values : List Felt} {index : Nat} {value : Felt}
    (h : values[index]? = some value) :
    leafAt paddingDigest (values.map leafDigest) index = leafDigest value := by
  rw [leafAt, List.getElem?_map, h]
  rfl

namespace Commitment

theorem root_commit (values : List Felt) :
    (commit values).root =
      (Tree.ofLeaves paddingDigest (heightFor values.length) (values.map leafDigest)).digest := rfl

theorem opening?_commit_eq_some_iff {values : List Felt} {index : Nat} {value : Felt}
    {path : Path} :
    (commit values).opening? index = some (value, path) ↔ values[index]? = some value ∧
      path = { siblings := (commit values).tree.siblings (heightFor values.length) index,
               leafIndex := index } := by
  rw [opening?, Option.map_eq_some_iff]
  constructor
  · intro h
    obtain ⟨v, hv, h⟩ := h
    obtain ⟨rfl, rfl⟩ := Prod.mk.inj h
    exact ⟨hv, rfl⟩
  · intro h
    obtain ⟨hv, rfl⟩ := h
    exact ⟨value, hv, rfl⟩

theorem climb_commit {values : List Felt} {index : Nat} {value : Felt}
    (h : values[index]? = some value) :
    climb (leafDigest value) index
        ((commit values).tree.siblings (heightFor values.length) index) =
      (commit values).root := by
  rw [root_commit, ← Tree.climb_siblings (values.map leafDigest) (lt_two_pow_of_getElem? h),
    leafAt_of_getElem? h]
  rfl

end Commitment

end SpotCheck.Merkle
