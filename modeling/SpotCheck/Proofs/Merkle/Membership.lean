import SpotCheck.Proof.Basic
import SpotCheck.Proofs.Merkle.Binding

/-!
# What a root holds

Cells, padding and pairs of nodes are told apart by the length of their messages: 4, 0 and 64
bytes. So whatever leads from a cell to the root of a column, of any length and at any position,
has the length of the paths of the column and shows a cell of it; and two columns with one root are
the same column. The bits of a position above the length of the path are not looked at, which is
why a membership check accepts positions beyond the column.
-/

namespace SpotCheck.Merkle

/-! ### Lengths of messages -/

theorem length_pairMessage (left right : Digest) : (pairMessage left right).length = 64 := by
  rw [pairMessage, List.length_append, Digest.length_bytes_eq, Digest.length_bytes_eq]

theorem length_parentMessage (position : Nat) (node sibling : Digest) :
    (parentMessage position node sibling).length = 64 := by
  unfold parentMessage
  split <;> exact length_pairMessage ..

theorem eq_or_eq_of_parentMessage {position : Nat} {node sibling left right : Digest}
    (h : parentMessage position node sibling = pairMessage left right) :
    node = left ∨ node = right := by
  unfold parentMessage at h
  split at h
  · exact .inl (pairMessage_inj.1 h).1
  · exact .inr (pairMessage_inj.1 h).2

theorem climbMessages_subset (node sibling : Digest) (index : Nat) (path : List Digest) :
    climbMessages node index path ⊆ climbMessages node index (path ++ [sibling]) := by
  rw [climbMessages_append_singleton]
  exact List.subset_append_left ..

/-! ### Messages of a tree over messages -/

namespace Tree

/-- The tree over the digests of messages, filled up with the digest of no bytes. -/
def ofMessages (height : Nat) (cells : List Bytes) : Tree :=
  ofLeaves paddingDigest height (cells.map .ofMessage)

def allMessages (height : Nat) (cells : List Bytes) : List Bytes :=
  [] :: cells ++ messages paddingDigest height (cells.map .ofMessage)

theorem digest_ofMessages_zero (cells : List Bytes) :
    ∃ leaf ∈ [] :: cells, (ofMessages 0 cells).digest = .ofMessage leaf := by
  cases cells with
  | nil => exact ⟨[], List.mem_singleton_self _, rfl⟩
  | cons cell cells => exact ⟨cell, by simp, rfl⟩

theorem digest_ofMessages_succ (height : Nat) (cells : List Bytes) :
    (ofMessages (height + 1) cells).digest =
      .ofMessage (pairMessage (ofMessages height (cells.take (2 ^ height))).digest
        (ofMessages height (cells.drop (2 ^ height))).digest) := by
  rw [ofMessages, digest_ofLeaves_succ, ← List.map_take, ← List.map_drop]
  rfl

theorem pairMessage_mem_allMessages (height : Nat) (cells : List Bytes) :
    pairMessage (ofMessages height (cells.take (2 ^ height))).digest
        (ofMessages height (cells.drop (2 ^ height))).digest ∈
      allMessages (height + 1) cells := by
  rw [allMessages, messages_succ, ← List.map_take, ← List.map_drop]
  exact List.mem_append_right _ (List.mem_cons_self ..)

theorem allMessages_subset {height height' : Nat} {cells part : List Bytes}
    (hcells : part ⊆ cells)
    (hnodes : messages paddingDigest height (part.map .ofMessage) ⊆
      messages paddingDigest height' (cells.map .ofMessage)) :
    allMessages height part ⊆ allMessages height' cells :=
  List.append_subset.2
    ⟨List.subset_append_of_subset_left _ (List.cons_subset_cons [] hcells),
      List.subset_append_of_subset_right _ hnodes⟩

theorem allMessages_take_subset (height : Nat) (cells : List Bytes) :
    allMessages height (cells.take (2 ^ height)) ⊆ allMessages (height + 1) cells := by
  refine allMessages_subset (List.take_subset _ _) ?_
  rw [messages_succ, List.map_take]
  exact List.subset_cons_of_subset _ (List.subset_append_left ..)

theorem allMessages_drop_subset (height : Nat) (cells : List Bytes) :
    allMessages height (cells.drop (2 ^ height)) ⊆ allMessages (height + 1) cells := by
  refine allMessages_subset (List.drop_subset _ _) ?_
  rw [messages_succ, List.map_drop]
  exact List.subset_cons_of_subset _ (List.subset_append_right ..)

end Tree

/-- Whatever leads from the digest of a short message to the top of a tree over short messages is
as long as the tree is high: at the bottom of the tree nothing but a short message has the digest,
and above it nothing but a pair. -/
theorem length_eq_of_climb {message : Bytes} {height index : Nat} {cells : List Bytes}
    {path : List Digest}
    (hfree : CollisionFree ((message :: climbMessages (.ofMessage message) index path) ++
      Tree.allMessages height cells))
    (hshort : message.length < 64) (hcells : ∀ cell ∈ cells, cell.length < 64)
    (hclimb : climb (.ofMessage message) index path = (Tree.ofMessages height cells).digest) :
    path.length = height := by
  induction height generalizing cells path with
  | zero =>
    obtain rfl | ⟨below, top, rfl⟩ := List.eq_nil_or_concat path
    · rfl
    · obtain ⟨leaf, hleaf, hdigest⟩ := Tree.digest_ofMessages_zero cells
      have hlen : leaf.length < 64 := by
        rcases List.mem_cons.1 hleaf with rfl | hcell
        · exact Nat.succ_pos 63
        · exact hcells leaf hcell
      rw [List.concat_eq_append] at hfree hclimb
      rw [climb_append_singleton, parent_eq, hdigest] at hclimb
      rw [climbMessages_append_singleton] at hfree
      have hmem : leaf ∈ Tree.allMessages 0 cells := List.mem_append_left _ hleaf
      -- The pair on top would have the digest of the padding or of a cell.
      have hsame := hfree _ (by simp) leaf (List.mem_append_right _ hmem) hclimb
      rw [← hsame, length_parentMessage] at hlen
      exact absurd hlen (Nat.lt_irrefl 64)
  | succ height ih =>
    rw [Tree.digest_ofMessages_succ] at hclimb
    obtain rfl | ⟨below, top, rfl⟩ := List.eq_nil_or_concat path
    · have hsame := hfree message (by simp) _
        (List.mem_append_right _ (Tree.pairMessage_mem_allMessages height cells)) hclimb
      rw [hsame, length_pairMessage] at hshort
      exact absurd hshort (Nat.lt_irrefl 64)
    · rw [List.concat_eq_append] at hfree hclimb ⊢
      rw [climb_append_singleton, parent_eq] at hclimb
      have hpair := hfree _ (by simp [climbMessages_append_singleton]) _
        (List.mem_append_right _ (Tree.pairMessage_mem_allMessages height cells)) hclimb
      have hbelow := List.cons_subset_cons message
        (climbMessages_subset (.ofMessage message) top index below)
      rw [List.length_append, List.length_singleton, Nat.add_right_cancel_iff]
      rcases eq_or_eq_of_parentMessage hpair with hleft | hright
      · exact ih (hfree.append hbelow (Tree.allMessages_take_subset height cells))
          (fun cell hcell => hcells cell (List.take_subset _ _ hcell)) hleft
      · exact ih (hfree.append hbelow (Tree.allMessages_drop_subset height cells))
          (fun cell hcell => hcells cell (List.drop_subset _ _ hcell)) hright

/-! ### Columns -/

namespace Commitment

variable {values : List Felt} {value : Felt} {index : Nat} {siblings : List Digest}

theorem columnMessages_eq (values : List Felt) :
    columnMessages values =
      Tree.allMessages (heightFor values.length) (values.map Felt.toBytes) := by
  rw [columnMessages, Tree.allMessages, List.map_map]
  rfl

theorem length_eq_of_climb
    (hfree : CollisionFree (columnMessages values ++ pathMessages value index siblings))
    (hclimb : climb (leafDigest value) index siblings = (commit values).root) :
    siblings.length = heightFor values.length := by
  have hcells : ∀ cell ∈ values.map Felt.toBytes, cell.length < 64 := by
    intro cell hcell
    obtain ⟨stored, -, rfl⟩ := List.mem_map.1 hcell
    rw [Felt.length_toBytes]
    decide
  have hroot : (commit values).root =
      (Tree.ofMessages (heightFor values.length) (values.map Felt.toBytes)).digest := by
    rw [root_commit, Tree.ofMessages, List.map_map]
    rfl
  have hshort : value.toBytes.length < 64 := by
    rw [Felt.length_toBytes]
    decide
  rw [columnMessages_eq] at hfree
  exact Merkle.length_eq_of_climb hfree.swap hshort hcells (hclimb.trans hroot)

/-- A path to the root of a column, of any length and at any position, is the path of the cell at
the position modulo the width of the tree. -/
theorem opened_of_climb
    (hfree : CollisionFree (columnMessages values ++ pathMessages value index siblings))
    (hclimb : climb (leafDigest value) index siblings = (commit values).root) :
    values[index % 2 ^ heightFor values.length]? = some value ∧
      siblings = (commit values).tree.siblings (heightFor values.length)
        (index % 2 ^ heightFor values.length) := by
  have hlen := length_eq_of_climb hfree hclimb
  have hlt : index % 2 ^ heightFor values.length < 2 ^ heightFor values.length :=
    Nat.mod_lt _ (Nat.two_pow_pos _)
  have hlow : climb (leafDigest value) (index % 2 ^ heightFor values.length) siblings =
      (commit values).root := by
    rw [← hlen, climb_mod, hclimb]
  have hmessages : pathMessages value (index % 2 ^ heightFor values.length) siblings =
      pathMessages value index siblings := by
    rw [← hlen, pathMessages, climbMessages_mod, pathMessages]
  rw [← hmessages] at hfree
  exact ⟨getElem?_of_climb hfree hlen hlt hlow,
    (eq_leafAt_of_climb (collisionFree_nodes hfree) hlen hlt hlow).2⟩

end Commitment

/-! ### Membership -/

theorem verifyMembership_eq_true_iff {value : Felt} {row : Nat} {siblings : List Digest}
    {root : Digest} :
    verifyMembership value row siblings root = true ↔
      value.IsCanonical ∧ climb (leafDigest value) row siblings = root := by
  rw [verifyMembership, Bool.and_eq_true, decide_eq_true_iff]
  exact and_congr_right fun _ => beq_iff_eq

/-- A value that is found to be a member of a column stands in the column, at the row modulo the
width of the tree, and is shown by the siblings of that cell. It stands at the row itself if and
only if the row is a position of the tree. -/
theorem member_of_verifyMembership {values : List Felt} {value : Felt} {row : Nat}
    {siblings : List Digest}
    (hfree : CollisionFree (columnMessages values ++ pathMessages value row siblings))
    (hmember : verifyMembership value row siblings (Commitment.commit values).root = true) :
    value.IsCanonical ∧
      values[row % 2 ^ (Commitment.commit values).depth]? = some value ∧
      siblings = (Commitment.commit values).tree.siblings (Commitment.commit values).depth
        (row % 2 ^ (Commitment.commit values).depth) ∧
      ((row < values.length ∧ values[row]? = some value) ↔
        row < 2 ^ (Commitment.commit values).depth) := by
  obtain ⟨hcanonical, hclimb⟩ := verifyMembership_eq_true_iff.1 hmember
  obtain ⟨hcell, hsiblings⟩ := Commitment.opened_of_climb hfree hclimb
  refine ⟨hcanonical, hcell, hsiblings, fun h => ?_, fun hlt => ?_⟩
  · exact Nat.lt_of_lt_of_le h.1 (le_two_pow_heightFor values.length)
  · have hrow : row % 2 ^ heightFor values.length = row := Nat.mod_eq_of_lt hlt
    rw [hrow] at hcell
    exact ⟨(List.getElem?_eq_some_iff.1 hcell).1, hcell⟩

theorem member_of_verifyMembership_two_cells :
    CollisionFree (columnMessages [⟨5⟩, ⟨9⟩] ++ pathMessages ⟨9⟩ 1 [leafDigest ⟨5⟩]) ∧
      verifyMembership ⟨9⟩ 1 [leafDigest ⟨5⟩] (Commitment.commit [⟨5⟩, ⟨9⟩]).root = true ∧
      (1 < [(⟨5⟩ : Felt), ⟨9⟩].length ∧ [(⟨5⟩ : Felt), ⟨9⟩][1]? = some ⟨9⟩) := by
  have hfree : CollisionFree (columnMessages [⟨5⟩, ⟨9⟩] ++
      pathMessages ⟨9⟩ 1 [leafDigest ⟨5⟩]) := by decide +kernel
  have hmember : verifyMembership ⟨9⟩ 1 [leafDigest ⟨5⟩]
      (Commitment.commit [⟨5⟩, ⟨9⟩]).root = true :=
    verifyMembership_eq_true_iff.2 ⟨by decide, rfl⟩
  obtain ⟨-, -, -, hrow⟩ := member_of_verifyMembership hfree hmember
  exact ⟨hfree, hmember, hrow.2 (by decide)⟩

/-- The last of two cells is found at row 3, where the column has no cell. -/
theorem verifyMembership_beyond_column :
    CollisionFree (columnMessages [⟨5⟩, ⟨9⟩] ++ pathMessages ⟨9⟩ 3 [leafDigest ⟨5⟩]) ∧
      verifyMembership ⟨9⟩ 3 [leafDigest ⟨5⟩] (Commitment.commit [⟨5⟩, ⟨9⟩]).root = true ∧
      ¬ (3 < [(⟨5⟩ : Felt), ⟨9⟩].length ∧ [(⟨5⟩ : Felt), ⟨9⟩][3]? = some ⟨9⟩) := by
  refine ⟨by decide +kernel, verifyMembership_eq_true_iff.2 ⟨by decide, rfl⟩, by decide⟩

/-! ### Roots -/

theorem Tree.climbMessages_siblings_subset (padding : Digest) {height index : Nat}
    (leaves : List Digest) (h : index < 2 ^ height) :
    climbMessages (leafAt padding leaves index) index
        ((ofLeaves padding height leaves).siblings height index) ⊆
      messages padding height leaves := by
  induction height generalizing index leaves with
  | zero => exact List.nil_subset _
  | succ height ih =>
    rw [messages_succ]
    by_cases hlt : index < 2 ^ height
    · have hbelow := ih (leaves.take (2 ^ height)) hlt
      have hnode : climb (leafAt padding (leaves.take (2 ^ height)) index) index _ = _ :=
        climb_siblings (leaves.take (2 ^ height)) hlt
      rw [leafAt_take hlt] at hbelow hnode
      rw [siblings_of_lt hlt, climbMessages_append_singleton, length_siblings,
        Nat.div_eq_of_lt hlt, hnode]
      exact List.append_subset.2
        ⟨fun m hm => List.mem_cons_of_mem _ (List.mem_append_left _ (hbelow hm)),
          List.cons_subset.2 ⟨List.mem_cons_self .., List.nil_subset _⟩⟩
    · have hle : 2 ^ height ≤ index := Nat.not_lt.1 hlt
      obtain ⟨low, hlow, rfl, hbit⟩ := exists_low_of_le h hle
      have hbelow := ih (leaves.drop (2 ^ height)) hlow
      have hnode : climb (leafAt padding (leaves.drop (2 ^ height)) low) low _ = _ :=
        climb_siblings (leaves.drop (2 ^ height)) hlow
      rw [leafAt_drop, Nat.add_comm] at hbelow hnode
      rw [siblings_of_le hle, Nat.add_sub_cancel, climbMessages_append_singleton, length_siblings,
        hbit, climb_add_two_pow (length_siblings ..), climbMessages_add_two_pow (length_siblings ..),
        hnode]
      exact List.append_subset.2
        ⟨fun m hm => List.mem_cons_of_mem _ (List.mem_append_right _ (hbelow hm)),
          List.cons_subset.2 ⟨List.mem_cons_self .., List.nil_subset _⟩⟩

namespace Commitment

variable {values values' : List Felt} {value : Felt} {index : Nat}

/-- Checking the path of a cell hashes nothing that committing its column did not hash. -/
theorem pathMessages_subset (hcell : values[index]? = some value) :
    pathMessages value index
        ((commit values).tree.siblings (heightFor values.length) index) ⊆
      columnMessages values := by
  have hnodes := Tree.climbMessages_siblings_subset paddingDigest (values.map leafDigest)
    (lt_two_pow_of_getElem? hcell)
  rw [leafAt_of_getElem? hcell] at hnodes
  refine List.cons_subset.2 ⟨toBytes_mem_columnMessages (List.mem_of_getElem? hcell), ?_⟩
  exact fun m hm => List.mem_append_right _ (hnodes hm)

theorem getElem?_of_root_eq
    (hfree : CollisionFree (columnMessages values ++ columnMessages values'))
    (h : (commit values).root = (commit values').root) (hcell : values[index]? = some value) :
    values'[index]? = some value := by
  have hpath := pathMessages_subset hcell
  have hboth := hfree.swap.append (List.Subset.refl _) hpath
  -- The path of the cell leads to both roots, so that both trees are as high as it is long.
  have hclimb := (climb_commit hcell).trans h
  have hheight := length_eq_of_climb hboth hclimb
  have hown : ((commit values).tree.siblings (heightFor values.length) index).length =
      heightFor values.length := Tree.length_siblings ..
  have hlt : index < 2 ^ heightFor values'.length := by
    rw [← hheight, hown]
    exact lt_two_pow_of_getElem? hcell
  have hopened := (opened_of_climb hboth hclimb).1
  rwa [Nat.mod_eq_of_lt hlt] at hopened

/-- Two columns with one root are one column, however long each of them is. -/
theorem eq_of_root_eq
    (hfree : CollisionFree (columnMessages values ++ columnMessages values'))
    (h : (commit values).root = (commit values').root) : values = values' := by
  refine List.ext_getElem? fun index => ?_
  cases hcell : values[index]? with
  | some value => exact (getElem?_of_root_eq hfree h hcell).symm
  | none =>
    cases hcell' : values'[index]? with
    | none => rfl
    | some value =>
      have hsome := getElem?_of_root_eq hfree.swap h.symm hcell'
      rw [hcell] at hsome
      cases hsome

theorem eq_of_root_eq_three_cells :
    CollisionFree (columnMessages [⟨7⟩, ⟨7⟩, ⟨7⟩] ++ columnMessages (List.replicate 3 ⟨7⟩)) ∧
      (commit [⟨7⟩, ⟨7⟩, ⟨7⟩]).root = (commit (List.replicate 3 ⟨7⟩)).root ∧
      [(⟨7⟩ : Felt), ⟨7⟩, ⟨7⟩] = List.replicate 3 ⟨7⟩ := by
  have hfree : CollisionFree (columnMessages [⟨7⟩, ⟨7⟩, ⟨7⟩] ++
      columnMessages (List.replicate 3 ⟨7⟩)) := by decide +kernel
  exact ⟨hfree, rfl, eq_of_root_eq hfree rfl⟩

end Commitment

end SpotCheck.Merkle
