import SpotCheck.Digest
import SpotCheck.Field

/-!
# Public inputs

The values that a statement is about: an initial and a final list. The stored form gives the
length of each list in four bytes before its elements, so that no two pairs of lists shorter than
`2 ^ 32` have the same form.
-/

namespace SpotCheck

structure PublicInputs where
  initial : List Felt
  final : List Felt
  deriving DecidableEq

namespace PublicInputs

def empty : PublicInputs := ⟨[], []⟩

def isEmpty (p : PublicInputs) : Bool := p.initial.isEmpty && p.final.isEmpty

/-- A list with its length in front. -/
def listBytes (elements : List Felt) : Bytes :=
  Bytes.littleEndian 4 elements.length ++ elements.flatMap Felt.toBytes

def toBytes (p : PublicInputs) : Bytes := listBytes p.initial ++ listBytes p.final

def digest (p : PublicInputs) : Digest := Digest.ofMessage p.toBytes

end PublicInputs

end SpotCheck
