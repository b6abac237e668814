import Mathlib.Order.Bounds.Defs
import SpotCheck.Proofs.Merkle.Levels
import SpotCheck.Proofs.Steps

/-!
# Commitments in one array

A full tree of width `w` fits an array of `2 * w` digests: the root is at position 1, the children
of a position are at twice the position and one further, and the leaves are the last `w` entries.
The array is filled from its end to its front, and a path is read off by halving a position down to
the root. Every access is checked here, none of them faults, and the array gives the root and the
openings of the tree that is split from top to bottom.
-/

namespace SpotCheck.Merkle

/-- A committed column as an array of nodes. -/
structure Heap where
  values : List Felt
  nodes : Array Digest
  width : Nat

namespace Heap

/-! ### Filling and reading -/

def read (nodes : Array Digest) (position : Nat) : Except Fault Digest :=
  match nodes[position]? with
  | some digest => .ok digest
  | none => .error (.outOfBounds nodes.size position)

def write (nodes : Array Digest) (position : Nat) (digest : Digest) :
    Except Fault (Array Digest) :=
  if position < nodes.size then .ok (nodes.setIfInBounds position digest)
  else .error (.outOfBounds nodes.size position)

/-- What the array holds before anything is stored. -/
def blank : Digest := ⟨List.replicate 32 0, List.length_replicate⟩

/-- Stores the first leaves of the last level, cells first and then padding. -/
def storeLeaves (values : List Felt) (width : Nat) :
    Nat → Array Digest → Except Fault (Array Digest)
  | 0, nodes => .ok nodes
  | slot + 1, nodes => do
    let nodes ← storeLeaves values width slot nodes
    write nodes (width + slot) ((values[slot]?.map leafDigest).getD paddingDigest)

/-- Stores the parents from a position down to the root. -/
def storeParents : Nat → Array Digest → Except Fault (Array Digest)
  | 0, nodes => .ok nodes
  | below + 1, nodes => do
    let left ← read nodes (2 * (below + 1))
    let right ← read nodes (2 * (below + 1) + 1)
    let nodes ← write nodes (below + 1) (pairDigest left right)
    storeParents below nodes

def commit (values : List Felt) : Except Fault Heap := do
  let width := 2 ^ heightFor values.length
  let nodes ← storeLeaves values width width (Array.replicate (2 * width) blank)
  let nodes ← storeParents (width - 1) nodes
  .ok ⟨values, nodes, width⟩

def root (heap : Heap) : Except Fault Digest := read heap.nodes 1

/-- The neighbours of a position and of the positions above it, up to the root. -/
def walkUp (nodes : Array Digest) (position : Nat) : Except Fault (List Digest) :=
  if position ≤ 1 then .ok []
  else do
    let sibling ← read nodes (neighbour position)
    let above ← walkUp nodes (position / 2)
    .ok (sibling :: above)

def opening? (heap : Heap) (index : Nat) : Except Fault (Option (Felt × Path)) :=
  match heap.values[index]? with
  | none => .ok none
  | some value => do
    let siblings ← walkUp heap.nodes (heap.width + index)
    .ok (some (value, ⟨siblings, index⟩))

theorem read_eq_ok {nodes : Array Digest} {position : Nat} {digest : Digest}
    (h : nodes[position]? = some digest) : read nodes position = .ok digest := by
  rw [read, h]

theorem write_eq_ok {nodes : Array Digest} {position : Nat} (h : position < nodes.size)
    (digest : Digest) :
    write nodes position digest = .ok (nodes.setIfInBounds position digest) := if_pos h

/-! ### Positions -/

/-- The digest that belongs at a position: the leading bit tells the level, and the bits behind it
the place. -/
def digestAt (leaves : List Digest) (height position : Nat) : Digest :=
  nodeDigest paddingDigest leaves (height - position.log2) (position - 2 ^ position.log2)

theorem digestAt_two_pow_add (leaves : List Digest) (height : Nat) {depth place : Nat}
    (h : place < 2 ^ depth) :
    digestAt leaves height (2 ^ depth + place) =
      nodeDigest paddingDigest leaves (height - depth) place := by
  have hpos : 0 < 2 ^ depth := Nat.two_pow_pos depth
  have hlog : (2 ^ depth + place).log2 = depth := by
    rw [Nat.log2_eq_iff (by omega), Nat.pow_succ]
    omega
  rw [digestAt, hlog, Nat.add_sub_cancel_left]

theorem digestAt_eq_pairDigest (leaves : List Digest) {height position : Nat}
    (hpos : 1 ≤ position) (hlt : position < 2 ^ height) :
    digestAt leaves height position =
      pairDigest (digestAt leaves height (2 * position))
        (digestAt leaves height (2 * position + 1)) := by
  obtain ⟨depth, place, hplace, rfl⟩ : ∃ depth place, place < 2 ^ depth ∧
      position = 2 ^ depth + place := by
    have hle := Nat.log2_self_le (Nat.ne_of_gt hpos)
    have hbound : position < 2 ^ (position.log2 + 1) := Nat.lt_log2_self
    rw [Nat.pow_succ] at hbound
    exact ⟨position.log2, position - 2 ^ position.log2, by omega, by omega⟩
  have hdepth : depth < height := by
    refine (Nat.pow_lt_pow_iff_right (by omega : 1 < 2)).1 (Nat.lt_of_le_of_lt ?_ hlt)
    exact Nat.le_add_right ..
  have hleft : 2 * (2 ^ depth + place) = 2 ^ (depth + 1) + 2 * place := by
    rw [Nat.pow_succ]
    ring
  have hlevel : height - depth = height - (depth + 1) + 1 := by omega
  have hchild : 2 * place + 1 < 2 ^ (depth + 1) := by
    rw [Nat.pow_succ]
    omega
  rw [hleft, Nat.add_assoc, digestAt_two_pow_add _ _ hplace,
    digestAt_two_pow_add _ _ (Nat.lt_of_succ_lt hchild), digestAt_two_pow_add _ _ hchild, hlevel,
    nodeDigest]

/-! ### The filled array -/

/-- From a position on, the array holds what belongs there. -/
structure StoredFrom (leaves : List Digest) (height lowest : Nat) (nodes : Array Digest) :
    Prop where
  size : nodes.size = 2 * 2 ^ height
  digests : ∀ position, lowest ≤ position → position < 2 * 2 ^ height →
    nodes[position]? = some (digestAt leaves height position)

theorem storeLeaves_eq_ok (values : List Felt) {width count : Nat} {nodes : Array Digest}
    (hsize : width + count ≤ nodes.size) :
    ∃ stored, storeLeaves values width count nodes = .ok stored ∧ stored.size = nodes.size ∧
      ∀ slot < count, stored[width + slot]? =
        some (leafAt paddingDigest (values.map leafDigest) slot) := by
  induction count with
  | zero => exact ⟨nodes, rfl, rfl, fun slot hslot => absurd hslot (Nat.not_lt_zero slot)⟩
  | succ count ih =>
    obtain ⟨stored, hok, hlen, hleaves⟩ := ih (by omega)
    have hroom : width + count < stored.size := by omega
    refine ⟨_, bind_eq_ok_iff.2 ⟨stored, hok, write_eq_ok hroom _⟩, by simpa using hlen, ?_⟩
    intro slot hslot
    rw [Array.getElem?_setIfInBounds, leafAt, List.getElem?_map]
    rcases Nat.lt_succ_iff_lt_or_eq.1 hslot with hlt | rfl
    · rw [if_neg (by omega), hleaves slot hlt, leafAt, List.getElem?_map]
    · rw [if_pos rfl, if_pos hroom]

theorem StoredFrom.of_leaves {values : List Felt} {height : Nat} {nodes : Array Digest}
    (hsize : nodes.size = 2 * 2 ^ height)
    (hleaves : ∀ slot < 2 ^ height, nodes[2 ^ height + slot]? =
      some (leafAt paddingDigest (values.map leafDigest) slot)) :
    StoredFrom (values.map leafDigest) height (2 ^ height) nodes where
  size := hsize
  digests position hle hlt := by
    obtain ⟨slot, rfl⟩ := Nat.exists_eq_add_of_le hle
    have hslot : slot < 2 ^ height := by omega
    rw [hleaves slot hslot, digestAt_two_pow_add _ _ hslot, Nat.sub_self, nodeDigest]

theorem StoredFrom.write_parent {leaves : List Digest} {height below : Nat}
    {nodes : Array Digest} (h : StoredFrom leaves height (below + 2) nodes)
    (hlt : below + 1 < 2 ^ height) :
    ∃ stored, StoredFrom leaves height (below + 1) stored ∧
      storeParents (below + 1) nodes = storeParents below stored := by
  have hleft := read_eq_ok (h.digests (2 * (below + 1)) (by omega) (by omega))
  have hright := read_eq_ok (h.digests (2 * (below + 1) + 1) (by omega) (by omega))
  have hroom : below + 1 < nodes.size := by
    rw [h.size]
    omega
  have hparent := digestAt_eq_pairDigest leaves (Nat.le_add_left 1 below) hlt
  refine ⟨nodes.setIfInBounds (below + 1) (digestAt leaves height (below + 1)), ⟨?_, ?_⟩, ?_⟩
  · rw [Array.size_setIfInBounds, h.size]
  · intro position hle hbound
    rw [Array.getElem?_setIfInBounds]
    rcases Nat.eq_or_lt_of_le hle with rfl | habove
    · rw [if_pos rfl, if_pos hroom]
    · rw [if_neg (by omega), h.digests position habove hbound]
  · rw [storeParents, hleft, hright, hparent]
    simp only [bind, Except.bind, write_eq_ok hroom]

theorem storeParents_eq_ok {leaves : List Digest} {height highest : Nat} {nodes : Array Digest}
    (h : StoredFrom leaves height (highest + 1) nodes) (hlt : highest < 2 ^ height) :
    ∃ stored, storeParents highest nodes = .ok stored ∧ StoredFrom leaves height 1 stored := by
  induction highest generalizing nodes with
  | zero => exact ⟨nodes, rfl, h⟩
  | succ below ih =>
    obtain ⟨next, hnext, hstep⟩ := h.write_parent hlt
    obtain ⟨stored, hok, hstored⟩ := ih hnext (by omega)
    exact ⟨stored, hstep.trans hok, hstored⟩

/-- The array of a column is filled without a fault and then holds every level of the tree. -/
theorem commit_eq_ok (values : List Felt) :
    ∃ nodes, commit values = .ok ⟨values, nodes, 2 ^ heightFor values.length⟩ ∧
      StoredFrom (values.map leafDigest) (heightFor values.length) 1 nodes := by
  have hpos : 0 < 2 ^ heightFor values.length := Nat.two_pow_pos _
  have hsize : (Array.replicate (2 * 2 ^ heightFor values.length) blank).size =
      2 * 2 ^ heightFor values.length := Array.size_replicate
  have hroom : 2 ^ heightFor values.length + 2 ^ heightFor values.length ≤
      (Array.replicate (2 * 2 ^ heightFor values.length) blank).size := by
    omega
  obtain ⟨stored, hleaves, hlen, hcells⟩ := storeLeaves_eq_ok values hroom
  have hlast := StoredFrom.of_leaves (hlen.trans hsize) hcells
  obtain ⟨highest, hhighest⟩ := Nat.exists_eq_add_of_le' hpos
  rw [hhighest] at hlast
  obtain ⟨nodes, hparents, hfilled⟩ := storeParents_eq_ok hlast (by omega)
  refine ⟨nodes, bind_eq_ok_iff.2 ⟨stored, hleaves, bind_eq_ok_iff.2 ⟨nodes, ?_, rfl⟩⟩, hfilled⟩
  rw [hhighest, Nat.add_sub_cancel]
  exact hparents

/-! ### The way up -/

theorem neighbour_two_pow_add (depth place : Nat) :
    neighbour (2 ^ (depth + 1) + place) = 2 ^ (depth + 1) + neighbour place := by
  obtain ⟨half, rfl | rfl⟩ := Nat.even_or_odd' place
  · have hsum : 2 ^ (depth + 1) + 2 * half = 2 * (2 ^ depth + half) := by
      rw [Nat.pow_succ]
      ring
    rw [hsum, neighbour_two_mul, neighbour_two_mul, ← hsum, Nat.add_assoc]
  · have hsum : 2 ^ (depth + 1) + (2 * half + 1) = 2 * (2 ^ depth + half) + 1 := by
      rw [Nat.pow_succ]
      ring
    rw [hsum, neighbour_two_mul_add_one, neighbour_two_mul_add_one]
    omega

theorem neighbour_lt {depth place : Nat} (h : place < 2 ^ (depth + 1)) :
    neighbour place < 2 ^ (depth + 1) := by
  rw [Nat.pow_succ] at h ⊢
  rcases neighbour_eq_or place with ⟨heven, heq⟩ | ⟨hodd, heq⟩ <;> omega

theorem walkUp_eq_ok {leaves : List Digest} {height depth place : Nat} {nodes : Array Digest}
    (h : StoredFrom leaves height 1 nodes) (hdepth : depth ≤ height) (hplace : place < 2 ^ depth) :
    walkUp nodes (2 ^ depth + place) = .ok ((List.range depth).map fun level =>
      nodeDigest paddingDigest leaves (height - depth + level)
        (neighbour (place / 2 ^ level))) := by
  induction depth generalizing place with
  | zero =>
    have hzero : place = 0 := by simpa using hplace
    subst hzero
    rw [walkUp, if_pos (by decide)]
    rfl
  | succ depth ih =>
    have hpos : 0 < 2 ^ depth := Nat.two_pow_pos depth
    have hheight : 2 ^ (depth + 1) ≤ 2 ^ height := Nat.pow_le_pow_right (by omega) hdepth
    have hnext := neighbour_lt hplace
    have hsibling : read nodes (neighbour (2 ^ (depth + 1) + place)) =
        .ok (nodeDigest paddingDigest leaves (height - (depth + 1)) (neighbour place)) := by
      rw [neighbour_two_pow_add, read_eq_ok (h.digests _ (by omega) (by omega)),
        digestAt_two_pow_add _ _ hnext]
    have hhalf : (2 ^ (depth + 1) + place) / 2 = 2 ^ depth + place / 2 := by
      rw [Nat.pow_succ]
      omega
    have hplace' : place / 2 < 2 ^ depth := by
      rw [Nat.pow_succ] at hplace
      omega
    have hlevel : ∀ level, height - (depth + 1) + (level + 1) = height - depth + level := by
      intro level
      omega
    rw [walkUp, if_neg (by rw [Nat.pow_succ]; omega), hsibling, hhalf, ih (by omega) hplace',
      List.range_succ_eq_map, List.map_cons, List.map_map]
    simp only [bind, Except.bind, Function.comp_def, Nat.succ_eq_add_one, hlevel, Nat.pow_zero,
      Nat.div_one, Nat.add_zero, Nat.pow_succ', Nat.div_div_eq_div_mul]

/-! ### Openings -/

theorem root_eq {values : List Felt} {heap : Heap} (h : commit values = .ok heap) :
    heap.root = .ok (Commitment.commit values).root := by
  obtain ⟨nodes, hok, hstored⟩ := commit_eq_ok values
  rw [hok] at h
  cases h
  have hpos : 0 < 2 ^ heightFor values.length := Nat.two_pow_pos _
  have htop : digestAt (values.map leafDigest) (heightFor values.length) 1 =
      (Commitment.commit values).root := by
    rw [Commitment.root_commit, Tree.digest_ofLeaves]
    exact digestAt_two_pow_add _ _ (Nat.two_pow_pos 0)
  rw [root, read_eq_ok (hstored.digests 1 (Nat.le_refl 1) (by omega)), htop]

theorem opening?_eq {values : List Felt} {heap : Heap} (h : commit values = .ok heap)
    (index : Nat) :
    heap.opening? index = .ok ((Commitment.commit values).opening? index) := by
  obtain ⟨nodes, hok, hstored⟩ := commit_eq_ok values
  rw [hok] at h
  cases h
  cases hcell : values[index]? with
  | none => simp [opening?, Commitment.opening?, Commitment.commit, hcell]
  | some value =>
    have hlt := lt_two_pow_of_getElem? hcell
    have hopened := Commitment.opening?_commit_eq_some_iff.2 ⟨hcell, rfl⟩
    rw [hopened, opening?]
    simp only [hcell, walkUp_eq_ok hstored (Nat.le_refl _) hlt, bind, Except.bind]
    rw [Commitment.commit, Tree.siblings_ofLeaves hlt]
    simp only [Nat.sub_self, Nat.zero_add]

end Heap

/-! ### Columns -/

/-- The height is that of the least full tree in which the cells, or one padding, find room. -/
theorem isLeast_two_pow_heightFor (count : Nat) :
    IsLeast {width | (∃ k, width = 2 ^ k) ∧ max count 1 ≤ width} (2 ^ heightFor count) := by
  have hpos : 0 < 2 ^ heightFor count := Nat.two_pow_pos _
  have hle := le_two_pow_heightFor count
  refine ⟨⟨⟨_, rfl⟩, by omega⟩, ?_⟩
  rintro width ⟨⟨k, rfl⟩, hroom⟩
  refine Nat.pow_le_pow_right (by omega) ?_
  have hlt : 2 * max count 1 - 1 < 2 ^ (k + 1) := by
    rw [Nat.pow_succ]
    omega
  exact Nat.le_of_lt_succ ((Nat.log2_lt (by omega)).2 hlt)

/-- A column of any length is opened at the positions of its cells and nowhere else. An opening
holds the cell, its position and as many siblings as the least full tree is high, and leads to the
root. The array of nodes is filled and read without a fault, and gives the same. -/
theorem Commitment.opens_exactly_cells (values : List Felt) :
    IsLeast {width | (∃ k, width = 2 ^ k) ∧ max values.length 1 ≤ width}
        (2 ^ (commit values).depth) ∧
      (∀ index, ((commit values).opening? index).isSome = true ↔ index < values.length) ∧
      (∀ index value path, (commit values).opening? index = some (value, path) →
        values[index]? = some value ∧ path.leafIndex = index ∧
          path.siblings.length = (commit values).depth ∧
          path.verify (leafDigest value) (commit values).root = true) ∧
      ∃ heap, Heap.commit values = .ok heap ∧ heap.width = 2 ^ (commit values).depth ∧
        heap.root = .ok (commit values).root ∧
        ∀ index, heap.opening? index = .ok ((commit values).opening? index) := by
  obtain ⟨nodes, hheap, -⟩ := Heap.commit_eq_ok values
  refine ⟨isLeast_two_pow_heightFor values.length, fun index => ?_, fun index value path h => ?_,
    _, hheap, rfl, Heap.root_eq hheap, Heap.opening?_eq hheap⟩
  · rw [opening?, Option.isSome_map, commit, isSome_getElem?]
  · obtain ⟨hcell, rfl⟩ := opening?_commit_eq_some_iff.1 h
    exact ⟨hcell, rfl, Tree.length_siblings .., beq_iff_eq.2 (climb_commit hcell)⟩

end SpotCheck.Merkle
