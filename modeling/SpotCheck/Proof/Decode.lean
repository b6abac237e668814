import SpotCheck.Proof.Basic

/-!
# Reading proofs

A byte string is read against a layout. Its length is compared with the size of the layout before
anything is read, so that reading runs out of bytes on no input that gets so far. The length is
the stated one; whoever holds all the bytes states the true one.
-/

namespace SpotCheck

inductive ProofFormatError where
  | sizeMismatch (expected actual : Nat)
  | truncated (offset : Nat)
  deriving DecidableEq

def ProofFormatError.message : ProofFormatError → String
  | .sizeMismatch expected actual =>
    "proof size mismatch: expected " ++ toString expected ++ " bytes, got " ++ toString actual
  | .truncated offset => "proof truncated at byte " ++ toString offset

/-- The bytes not read yet and the number of those read. -/
structure Cursor where
  offset : Nat
  rest : Bytes

namespace Cursor

def take (count : Nat) (c : Cursor) : Except ProofFormatError (Bytes × Cursor) :=
  let head := c.rest.take count
  if head.length = count then .ok (head, ⟨c.offset + count, c.rest.drop count⟩)
  else .error (.truncated c.offset)

def digest (c : Cursor) : Except ProofFormatError (Digest × Cursor) :=
  let head := c.rest.take 32
  if h : head.length = 32 then .ok (⟨head, h⟩, ⟨c.offset + 32, c.rest.drop 32⟩)
  else .error (.truncated c.offset)

/-- The same step several times. -/
def many {α : Type} (step : Cursor → Except ProofFormatError (α × Cursor)) :
    Nat → Cursor → Except ProofFormatError (List α × Cursor)
  | 0, c => .ok ([], c)
  | count + 1, c => do
    let (first, c) ← step c
    let (rest, c) ← many step count c
    .ok (first :: rest, c)

/-- The next opening, with so many siblings. The value is taken as it is stored. -/
def opening (depth : Nat) (c : Cursor) : Except ProofFormatError (Opening × Cursor) := do
  let (raw, c) ← c.take 4
  let (siblings, c) ← many digest depth c
  .ok (⟨Felt.ofRawBytes raw, siblings⟩, c)

end Cursor

namespace Proof

/-- Reads a byte string that has the size of the layout. -/
def parse (l : ProofLayout) (perQuery : Nat) (bytes : Bytes) : Except ProofFormatError Proof := do
  let (roots, c) ← Cursor.many Cursor.digest l.numColumns ⟨0, bytes⟩
  let (boundary, c) ← Cursor.many (Cursor.opening l.merkleDepth) l.numBoundary c
  let (queries, _) ←
    Cursor.many (Cursor.many (Cursor.opening l.merkleDepth) perQuery) l.numQueries c
  .ok ⟨roots, boundary, queries⟩

/-- Reads a byte string of the stated length. -/
def ofBytes (l : ProofLayout) (bytes : Bytes) (length : Nat := bytes.length) :
    Outcome ProofFormatError Proof := do
  let expected ← Outcome.ofFaulting l.proofSize
  if length ≠ expected then Outcome.refuse (.sizeMismatch expected length)
  else
    let perQuery ← Outcome.ofFaulting l.openingsPerQuery
    Outcome.ofResult (parse l perQuery bytes)

end Proof

end SpotCheck
