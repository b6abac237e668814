import SpotCheck.Word

/-!
# The layout of a proof

The shape of a circuit and its key fixes how many digests and openings a proof holds, hence its
size in bytes. Sizes are words; a shape whose size is none faults.
-/

namespace SpotCheck

structure ProofLayout where
  numColumns : Nat
  merkleDepth : Nat
  numBoundary : Nat
  numQueries : Nat
  window : Nat
  deriving DecidableEq

namespace ProofLayout

/-- Bytes of an opening: its value and the siblings of its path. -/
def openingSize (l : ProofLayout) : Except Fault Nat := do
  let siblings ← Word.mul l.merkleDepth 32
  Word.add 4 siblings

/-- Openings of a query: every column at every row of the window. -/
def openingsPerQuery (l : ProofLayout) : Except Fault Nat := Word.mul l.numColumns l.window

/-- Bytes of a proof: the roots, then the openings of the boundary and of all queries. -/
def proofSize (l : ProofLayout) : Except Fault Nat := do
  let perQuery ← l.openingsPerQuery
  let queried ← Word.mul l.numQueries perQuery
  let openings ← Word.add l.numBoundary queried
  let roots ← Word.mul l.numColumns 32
  let size ← l.openingSize
  let opened ← Word.mul openings size
  Word.add roots opened

end ProofLayout

end SpotCheck
