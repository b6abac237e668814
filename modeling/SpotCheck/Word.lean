import SpotCheck.Fault

/-!
# Machine words

Counts, positions and sizes are natural numbers below `2 ^ 64`. The operations here are the ones
that can leave that range; they fault instead of wrapping around. Where a position may lie before
the start, a word is read as a signed number: the upper half of the words is negative.
-/

namespace SpotCheck.Word

/-- The first number that is no word. -/
def limit : Nat := 1 <<< 64

/-- The largest buffer, in bytes, that can be requested. -/
def maxAllocation : Nat := (1 <<< 63) - 1

def add (a b : Nat) : Except Fault Nat :=
  if a + b < limit then .ok (a + b) else .error .addOverflow

def sub (a b : Nat) : Except Fault Nat :=
  if b ≤ a then .ok (a - b) else .error .subOverflow

def mul (a b : Nat) : Except Fault Nat :=
  if a * b < limit then .ok (a * b) else .error .mulOverflow

/-- `2 ^ k` as a word. -/
def powTwo (k : Nat) : Except Fault Nat :=
  if k < 64 then .ok (1 <<< k) else .error .shiftOverflow

/-- Reserves room for `count` items of `size` bytes. -/
def reserve (count size : Nat) : Except Fault Unit :=
  if count * size ≤ maxAllocation then .ok () else .error .oversized

/-- Some power of two, one included. -/
def IsPowerOfTwo (n : Nat) : Prop := n = 1 <<< n.log2 ∧ n ≠ 0

instance (n : Nat) : Decidable (IsPowerOfTwo n) := inferInstanceAs (Decidable (_ ∧ _))

/-! ### Signed words -/

/-- The number that a word stands for when its top bit counts negatively. -/
def toSigned (a : Nat) : Int := Int.bmod a limit

/-- The word that stands for a signed number. -/
def ofSigned (a : Int) : Nat := (a % limit).toNat

def addSigned (a b : Int) : Except Fault Int :=
  if -0x8000000000000000 ≤ a + b ∧ a + b < 0x8000000000000000 then .ok (a + b) else .error .addOverflow

end SpotCheck.Word
