import SpotCheck.Proofs.Merkle.Opening

/-!
# Roots bind cells

Whoever presents a path of the right length to the root of a column presents a cell of the column
and its own siblings, unless two different messages with one digest are among those that were
hashed. The messages are listed: those behind a tree, and those behind a climb.
-/

namespace SpotCheck

/-- No two different messages of a list have the same digest. -/
def CollisionFree (messages : List Bytes) : Prop :=
  ∀ m ∈ messages, ∀ m' ∈ messages, Digest.ofMessage m = Digest.ofMessage m' → m = m'

instance (messages : List Bytes) : Decidable (CollisionFree messages) :=
  inferInstanceAs (Decidable (∀ m ∈ messages, ∀ m' ∈ messages, _))

theorem CollisionFree.subset {messages fewer : List Bytes} (h : CollisionFree messages)
    (hsub : fewer ⊆ messages) : CollisionFree fewer :=
  fun m hm m' hm' => h m (hsub hm) m' (hsub hm')

theorem CollisionFree.append {left right fewer fewer' : List Bytes}
    (h : CollisionFree (left ++ right)) (hleft : fewer ⊆ left) (hright : fewer' ⊆ right) :
    CollisionFree (fewer ++ fewer') :=
  h.subset (List.append_subset.2 ⟨List.subset_append_of_subset_left _ hleft,
    List.subset_append_of_subset_right _ hright⟩)

theorem CollisionFree.swap {left right : List Bytes} (h : CollisionFree (left ++ right)) :
    CollisionFree (right ++ left) :=
  h.subset (List.append_subset.2 ⟨List.subset_append_right .., List.subset_append_left ..⟩)

theorem Felt.toBytes_injective {a b : Felt} (h : a.toBytes = b.toBytes) : a = b := by
  rw [← ofRawBytes_toBytes a, h, ofRawBytes_toBytes]

namespace Merkle

/-! ### Messages -/

def pairMessage (left right : Digest) : Bytes := left.bytes ++ right.bytes

theorem pairMessage_inj {left right left' right' : Digest} :
    pairMessage left right = pairMessage left' right' ↔ left = left' ∧ right = right' := by
  constructor
  · intro h
    have hlen : left.bytes.length = left'.bytes.length := by simp
    obtain ⟨hleft, hright⟩ := List.append_inj h hlen
    exact ⟨Digest.ext_bytes hleft, Digest.ext_bytes hright⟩
  · intro h
    obtain ⟨rfl, rfl⟩ := h
    rfl

/-- The message behind the digest above a node and its sibling. -/
def parentMessage (position : Nat) (node sibling : Digest) : Bytes :=
  if position % 2 = 0 then pairMessage node sibling else pairMessage sibling node

theorem parent_eq (position : Nat) (node sibling : Digest) :
    parent position node sibling = Digest.ofMessage (parentMessage position node sibling) := by
  unfold parent parentMessage
  split <;> rfl

theorem parentMessage_inj {position : Nat} {node sibling node' sibling' : Digest} :
    parentMessage position node sibling = parentMessage position node' sibling' ↔
      node = node' ∧ sibling = sibling' := by
  unfold parentMessage
  split
  · exact pairMessage_inj
  · rw [pairMessage_inj, and_comm]

/-- The messages hashed by a climb, lowest first. -/
def climbMessages (node : Digest) (index : Nat) : List Digest → List Bytes
  | [] => []
  | sibling :: rest =>
    parentMessage index node sibling :: climbMessages (parent index node sibling) (index / 2) rest

theorem climbMessages_append_singleton (node sibling : Digest) (index : Nat)
    (path : List Digest) :
    climbMessages node index (path ++ [sibling]) = climbMessages node index path ++
      [parentMessage (index / 2 ^ path.length) (climb node index path) sibling] := by
  induction path generalizing node index with
  | nil => simp [climbMessages, climb]
  | cons first rest ih =>
    rw [List.cons_append, climbMessages, ih, climb_cons, climbMessages, List.length_cons,
      Nat.div_div_eq_div_mul, Nat.pow_succ', List.cons_append]

theorem climbMessages_add_mul (node : Digest) (index high : Nat) (path : List Digest) :
    climbMessages node (index + 2 ^ path.length * high) path = climbMessages node index path := by
  induction path generalizing node index high with
  | nil => rfl
  | cons first rest ih =>
    have hpow : 2 ^ (first :: rest).length * high = 2 * (2 ^ rest.length * high) := by
      rw [List.length_cons, Nat.pow_succ', Nat.mul_assoc]
    have hbit : (index + 2 * (2 ^ rest.length * high)) % 2 = index % 2 := by omega
    have hhalf : (index + 2 * (2 ^ rest.length * high)) / 2 =
        index / 2 + 2 ^ rest.length * high := by omega
    rw [climbMessages, climbMessages, hpow, hhalf, ih]
    simp only [parentMessage, parent, hbit]

theorem climbMessages_add_two_pow {path : List Digest} {height : Nat}
    (hlen : path.length = height) (node : Digest) (low : Nat) :
    climbMessages node (low + 2 ^ height) path = climbMessages node low path := by
  have h := climbMessages_add_mul node low 1 path
  rwa [hlen, Nat.mul_one] at h

theorem climbMessages_mod (node : Digest) (index : Nat) (path : List Digest) :
    climbMessages node (index % 2 ^ path.length) path = climbMessages node index path := by
  have h := climbMessages_add_mul node (index % 2 ^ path.length) (index / 2 ^ path.length) path
  rw [Nat.mod_add_div] at h
  exact h.symm

/-- The messages hashed by the check that a value stands at a place: the leaf's, then those of the
climb. -/
def pathMessages (value : Felt) (index : Nat) (siblings : List Digest) : List Bytes :=
  value.toBytes :: climbMessages (leafDigest value) index siblings

/-- The messages behind the inner nodes of a full tree. -/
def Tree.messages (padding : Digest) : Nat → List Digest → List Bytes
  | 0, _ => []
  | height + 1, leaves =>
    pairMessage (ofLeaves padding height (leaves.take (2 ^ height))).digest
        (ofLeaves padding height (leaves.drop (2 ^ height))).digest ::
      (messages padding height (leaves.take (2 ^ height)) ++
        messages padding height (leaves.drop (2 ^ height)))

theorem Tree.messages_succ (padding : Digest) (height : Nat) (leaves : List Digest) :
    messages padding (height + 1) leaves =
      pairMessage (ofLeaves padding height (leaves.take (2 ^ height))).digest
          (ofLeaves padding height (leaves.drop (2 ^ height))).digest ::
        (messages padding height (leaves.take (2 ^ height)) ++
          messages padding height (leaves.drop (2 ^ height))) := rfl

/-- The messages hashed when a column is committed: the padding's, the cells' and those of the
inner nodes. -/
def columnMessages (values : List Felt) : List Bytes :=
  [] :: values.map Felt.toBytes ++
    Tree.messages paddingDigest (heightFor values.length) (values.map leafDigest)

theorem toBytes_mem_columnMessages {values : List Felt} {cell : Felt} (h : cell ∈ values) :
    cell.toBytes ∈ columnMessages values := by
  refine List.mem_append_left _ (List.mem_cons_of_mem _ ?_)
  exact List.mem_map_of_mem h

theorem collisionFree_nodes {values : List Felt} {value : Felt} {index : Nat}
    {siblings : List Digest}
    (hfree : CollisionFree (columnMessages values ++ pathMessages value index siblings)) :
    CollisionFree (climbMessages (leafDigest value) index siblings ++
      Tree.messages paddingDigest (heightFor values.length) (values.map leafDigest)) :=
  hfree.swap.append (List.subset_cons_self ..) (List.subset_append_right ..)

/-! ### Binding -/

/-- Two climbs from one position to one root are the same climb. -/
theorem eq_of_climb_eq {node node' : Digest} {index : Nat} {path path' : List Digest}
    (hfree : CollisionFree (climbMessages node index path ++ climbMessages node' index path'))
    (hlen : path.length = path'.length) (h : climb node index path = climb node' index path') :
    node = node' ∧ path = path' := by
  induction path generalizing node node' index path' with
  | nil =>
    obtain rfl := List.eq_nil_of_length_eq_zero hlen.symm
    exact ⟨h, rfl⟩
  | cons sibling rest ih =>
    cases path' with
    | nil => cases hlen
    | cons sibling' rest' =>
      rw [climb_cons, climb_cons] at h
      have habove := hfree.append (List.subset_cons_self ..) (List.subset_cons_self ..)
      -- Above the pair the climbs are the same, so that both pairs have one parent.
      obtain ⟨hparent, rfl⟩ := ih habove (Nat.succ.inj hlen) h
      rw [parent_eq, parent_eq] at hparent
      have hmessage := hfree _ (by simp [climbMessages]) _ (by simp [climbMessages]) hparent
      obtain ⟨rfl, rfl⟩ := parentMessage_inj.1 hmessage
      exact ⟨rfl, rfl⟩

/-- Only one value and one path lead from a position to a root. -/
theorem eq_of_path_eq {value value' : Felt} {index : Nat} {siblings siblings' : List Digest}
    (hfree : CollisionFree (pathMessages value index siblings ++
      pathMessages value' index siblings'))
    (hlen : siblings.length = siblings'.length)
    (h : climb (leafDigest value) index siblings = climb (leafDigest value') index siblings') :
    value = value' ∧ siblings = siblings' := by
  have hclimbs := hfree.append (List.subset_cons_self ..) (List.subset_cons_self ..)
  obtain ⟨hleaf, hsiblings⟩ := eq_of_climb_eq hclimbs hlen h
  have hbytes : value.toBytes = value'.toBytes :=
    hfree _ (by simp [pathMessages]) _ (by simp [pathMessages]) hleaf
  exact ⟨Felt.toBytes_injective hbytes, hsiblings⟩

/-- A climb that reaches the top of a tree was the climb from a leaf along its siblings. From top
to bottom: equal digests are digests of equal pairs, so that one sibling is the other half of the
tree and the climb below it reaches the top of its own half. -/
theorem eq_leafAt_of_climb {padding node : Digest} {height index : Nat} {leaves path : List Digest}
    (hfree : CollisionFree (climbMessages node index path ++
      Tree.messages padding height leaves))
    (hlen : path.length = height) (hlt : index < 2 ^ height)
    (hclimb : climb node index path = (Tree.ofLeaves padding height leaves).digest) :
    node = leafAt padding leaves index ∧
      path = (Tree.ofLeaves padding height leaves).siblings height index := by
  induction height generalizing index leaves path with
  | zero =>
    have hpath : path = [] := List.length_eq_zero_iff.1 hlen
    have hindex : index = 0 := by simpa using hlt
    subst hpath hindex
    rw [Tree.digest_ofLeaves_zero] at hclimb
    exact ⟨hclimb, rfl⟩
  | succ height ih =>
    obtain ⟨below, top, rfl⟩ : ∃ below top, path = below ++ [top] :=
      ⟨path.dropLast, path.getLast (List.ne_nil_of_length_eq_add_one hlen),
        (List.dropLast_concat_getLast _).symm⟩
    have hbelow : below.length = height := by simpa using hlen
    rw [climbMessages_append_singleton, hbelow] at hfree
    rw [climb_append_singleton, hbelow, Tree.digest_ofLeaves_succ, parent_eq] at hclimb
    have htop := hfree _ (by simp)
      (pairMessage (Tree.ofLeaves padding height (leaves.take (2 ^ height))).digest
        (Tree.ofLeaves padding height (leaves.drop (2 ^ height))).digest)
      (by simp [Tree.messages]) hclimb
    by_cases hhalf : index < 2 ^ height
    · rw [Nat.div_eq_of_lt hhalf] at htop
      obtain ⟨hnode, hsibling⟩ := pairMessage_inj.1 htop
      have hleft : CollisionFree (climbMessages node index below ++
          Tree.messages padding height (leaves.take (2 ^ height))) := by
        refine hfree.subset fun m hm => ?_
        rcases List.mem_append.1 hm with hm | hm <;> simp [Tree.messages, hm]
      obtain ⟨hleaf, hpath⟩ := ih hleft hbelow hhalf hnode
      rw [leafAt_take hhalf] at hleaf
      refine ⟨hleaf, ?_⟩
      rw [Tree.siblings_of_lt hhalf, ← hpath, hsibling]
    · have hle : 2 ^ height ≤ index := Nat.not_lt.1 hhalf
      obtain ⟨low, hlow, rfl, hside⟩ := Tree.exists_low_of_le hlt hle
      rw [hside, climb_add_two_pow hbelow] at htop
      obtain ⟨hsibling, hnode⟩ := pairMessage_inj.1 htop
      have hright : CollisionFree (climbMessages node low below ++
          Tree.messages padding height (leaves.drop (2 ^ height))) := by
        rw [climbMessages_add_two_pow hbelow] at hfree
        refine hfree.subset fun m hm => ?_
        rcases List.mem_append.1 hm with hm | hm <;> simp [Tree.messages, hm]
      obtain ⟨hleaf, hpath⟩ := ih hright hbelow hlow hnode
      rw [leafAt_drop, Nat.add_comm] at hleaf
      refine ⟨hleaf, ?_⟩
      rw [Tree.siblings_of_le hle, Nat.add_sub_cancel, ← hpath, hsibling]

/-- Whatever leads from a value to the root of a column at a position of its tree, the column holds
that value there. The padding beyond the cells is no value, as it is the digest of no bytes. -/
theorem getElem?_of_climb {values : List Felt} {value : Felt} {index : Nat}
    {siblings : List Digest}
    (hfree : CollisionFree (columnMessages values ++ pathMessages value index siblings))
    (hlen : siblings.length = heightFor values.length)
    (hlt : index < 2 ^ heightFor values.length)
    (hclimb : climb (leafDigest value) index siblings = (Commitment.commit values).root) :
    values[index]? = some value := by
  have hleaf := (eq_leafAt_of_climb (collisionFree_nodes hfree) hlen hlt hclimb).1
  rw [leafAt, List.getElem?_map] at hleaf
  cases hcell : values[index]? with
  | none =>
    rw [hcell] at hleaf
    have hpad : value.toBytes = [] :=
      hfree _ (by simp [pathMessages]) [] (by simp [columnMessages]) hleaf
    have hwidth := value.length_toBytes
    rw [hpad] at hwidth
    cases hwidth
  | some cell =>
    rw [hcell] at hleaf
    have hmem : cell ∈ values := List.mem_of_getElem? hcell
    have hbytes : value.toBytes = cell.toBytes :=
      hfree _ (by simp [pathMessages]) cell.toBytes
        (List.mem_append_left _ (toBytes_mem_columnMessages hmem)) hleaf
    rw [Felt.toBytes_injective hbytes]

end Merkle

end SpotCheck
