import SpotCheck.Digest
import SpotCheck.Field

/-!
# Merkle commitments of columns

A column of field elements is committed by the root of a binary hash tree. The leaves are the
digests of the stored elements; a column whose length is no power of two is filled up with the
digest of the empty message. A cell is opened by its value and the siblings on the way from its
leaf to the root, and anybody can walk that way again.
-/

namespace SpotCheck.Merkle

/-! ### Node digests -/

/-- The digest of a pair of nodes. -/
def pairDigest (left right : Digest) : Digest := Digest.ofMessage (left.bytes ++ right.bytes)

/-- The digest of a cell. -/
def leafDigest (value : Felt) : Digest := Digest.ofMessage value.toBytes

/-- The leaf beyond the end of a column. -/
def paddingDigest : Digest := Digest.ofMessage []

/-! ### Paths -/

/-- The digest reached from a node by joining it with each sibling in turn. The lowest bit of the
index tells on which side the node stands. -/
def climb (node : Digest) (index : Nat) : List Digest → Digest
  | [] => node
  | sibling :: rest =>
    let parent := if index % 2 = 0 then pairDigest node sibling else pairDigest sibling node
    climb parent (index / 2) rest

/-- The siblings from a leaf up to the root, and the position of the leaf. -/
structure Path where
  siblings : List Digest
  leafIndex : Nat
  deriving DecidableEq

/-- The path leads from the leaf to the root. -/
def Path.verify (path : Path) (leaf root : Digest) : Bool :=
  climb leaf path.leafIndex path.siblings == root

/-! ### Trees -/

/-- A hash tree; every node carries its digest. -/
inductive Tree where
  | leaf (digest : Digest)
  | node (digest : Digest) (left right : Tree)

namespace Tree

def digest : Tree → Digest
  | leaf digest => digest
  | node digest _ _ => digest

/-- The tree over two subtrees. -/
def join (left right : Tree) : Tree := node (pairDigest left.digest right.digest) left right

/-- The full tree of a height over the given leaves, filled up with `padding`. -/
def ofLeaves (padding : Digest) : Nat → List Digest → Tree
  | 0, leaves => leaf (leaves.headD padding)
  | height + 1, leaves =>
    join (ofLeaves padding height (leaves.take (1 <<< height)))
      (ofLeaves padding height (leaves.drop (1 <<< height)))

/-- The siblings on the way from the leaf at a position of a tree of a height, lowest first. -/
def siblings : Tree → Nat → Nat → List Digest
  | node _ left right, height + 1, index =>
    if index < 1 <<< height then siblings left height index ++ [right.digest]
    else siblings right height (index - (1 <<< height)) ++ [left.digest]
  | _, _, _ => []

end Tree

/-! ### Commitments -/

/-- A committed column. -/
structure Commitment where
  values : List Felt
  tree : Tree

/-- The height of the least full tree with at least `max count 1` leaves. -/
def heightFor (count : Nat) : Nat := (2 * max count 1 - 1).log2

namespace Commitment

def commit (values : List Felt) : Commitment where
  values := values
  tree := Tree.ofLeaves paddingDigest (heightFor values.length) (values.map leafDigest)

def root (c : Commitment) : Digest := c.tree.digest

/-- Number of siblings on every path. -/
def depth (c : Commitment) : Nat := heightFor c.values.length

/-- The cell at a position with its path; there is none beyond the end of the column. -/
def opening? (c : Commitment) (index : Nat) : Option (Felt × Path) :=
  c.values[index]?.map fun value =>
    (value, { siblings := c.tree.siblings c.depth index, leafIndex := index })

end Commitment

end SpotCheck.Merkle
