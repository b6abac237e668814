import SpotCheck.Merkle
import SpotCheck.Proof.Layout

/-!
# Proofs

A proof holds the roots of the committed columns, an opening for every boundary assertion, and for
every queried row the openings of a window of rows. It is stored without any framing: roots first,
then the openings in order, each as its value and its siblings. The layout alone says where each
part ends.
-/

namespace SpotCheck

/-- The value of a cell and the siblings of its path. -/
structure Opening where
  value : Felt
  siblings : List Digest
  deriving DecidableEq

namespace Opening

/-- The path of the opened cell, if it stands at a position. -/
def path (o : Opening) (leafIndex : Nat) : Merkle.Path := ⟨o.siblings, leafIndex⟩

/-- The opened cell stands at a row of the column with a root. -/
def authenticates (o : Opening) (row : Nat) (root : Digest) : Bool :=
  (o.path row).verify (Merkle.leafDigest o.value) root

def toBytes (o : Opening) : Bytes := o.value.toBytes ++ o.siblings.flatMap Digest.bytes

end Opening

structure Proof where
  roots : List Digest
  boundary : List Opening
  /-- For each queried row its openings, row by row of the window and column by column. -/
  queries : List (List Opening)
  deriving DecidableEq

namespace Proof

/-- All openings in the order in which they are stored. -/
def openings (p : Proof) : List Opening := p.boundary ++ p.queries.flatten

def toBytes (p : Proof) : Bytes :=
  p.roots.flatMap Digest.bytes ++ p.openings.flatMap Opening.toBytes

end Proof

/-- A value is canonical and stands at a row of the column with a root. -/
def verifyMembership (value : Felt) (row : Nat) (siblings : List Digest) (root : Digest) : Bool :=
  value.IsCanonical && Opening.authenticates ⟨value, siblings⟩ row root

end SpotCheck
