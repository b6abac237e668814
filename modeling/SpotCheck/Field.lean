import SpotCheck.Bytes
import SpotCheck.Fault

/-!
# The field of integers modulo `2 ^ 31 - 1`

An element is a 32-bit word. It is *canonical* when it is below the modulus; a word at or above
the modulus is not rejected by the arithmetic, which reduces every result. Sums, products and
squares are total. A difference borrows one modulus and faults when that is not enough, which no
pair of canonical elements can bring about.
-/

namespace SpotCheck

/-- The modulus, a Mersenne prime. -/
def modulus : Nat := (1 <<< 31) - 1

/-- A field element as it is stored, canonical or not. -/
structure Felt where
  raw : UInt32
  deriving DecidableEq

namespace Felt

def zero : Felt := ⟨0⟩

def one : Felt := ⟨1⟩

def toNat (a : Felt) : Nat := a.raw.toNat

def IsCanonical (a : Felt) : Prop := a.toNat < modulus

instance (a : Felt) : Decidable a.IsCanonical := inferInstanceAs (Decidable (_ < _))

def isZero (a : Felt) : Bool := a.raw == 0

/-! ### Reduction -/

/-- Adds the bits above the 31st to the 31 low bits; `2 ^ 31` is one modulo the modulus. -/
def fold (x : UInt64) : UInt64 := (x &&& (0x7fffffff : UInt64)) + (x >>> (31 : UInt64))

/-- The canonical element congruent to a 64-bit word: two folds leave less than twice the
modulus, and one subtraction does the rest. -/
def reduce (x : UInt64) : Felt :=
  let folded := fold (fold x)
  ⟨(if folded ≥ 0x7fffffff then folded - 0x7fffffff else folded).toUInt32⟩

/-- The canonical element congruent to a 32-bit word. -/
def ofWord (word : UInt32) : Felt := reduce word.toUInt64

/-! ### Arithmetic -/

def add (a b : Felt) : Felt := reduce (a.raw.toUInt64 + b.raw.toUInt64)

def mul (a b : Felt) : Felt := reduce (a.raw.toUInt64 * b.raw.toUInt64)

instance : Add Felt := ⟨add⟩

instance : Mul Felt := ⟨mul⟩

def square (a : Felt) : Felt := a * a

/-- Faults when `b` exceeds `a` by more than the modulus. -/
def sub (a b : Felt) : Except Fault Felt :=
  if b.toNat ≤ a.toNat + modulus then
    .ok (reduce (a.raw.toUInt64 + 0x7fffffff - b.raw.toUInt64))
  else .error .subOverflow

def neg (a : Felt) : Except Fault Felt := zero.sub a

/-- The sum of a list, from the left. -/
def sum (elements : List Felt) : Felt := elements.foldl (· + ·) zero

/-! ### Bytes -/

def width : Nat := 4

/-- The stored word, least significant byte first. -/
def toBytes (a : Felt) : Bytes := Bytes.littleEndian width a.toNat

/-- The element stored in four bytes, canonical or not. -/
def ofRawBytes (bytes : Bytes) : Felt := ⟨UInt32.ofNat (Bytes.ofLittleEndian bytes)⟩

/-- The canonical element congruent to the word in four bytes. -/
def ofBytes (bytes : Bytes) : Felt := ofWord (ofRawBytes bytes).raw

@[simp] theorem length_toBytes (a : Felt) : a.toBytes.length = 4 := by
  simp [toBytes, width]

/-- Storing an element and reading it back changes nothing, canonical or not. -/
theorem ofRawBytes_toBytes (a : Felt) : ofRawBytes a.toBytes = a := by
  obtain ⟨raw⟩ := a
  simp only [ofRawBytes, toBytes, toNat, width, Bytes.ofLittleEndian_littleEndian]
  congr 1
  apply UInt32.toNat.inj
  simp

/-- Four bytes read as an element are stored as the same four bytes. -/
theorem toBytes_ofRawBytes {bytes : Bytes} (h : bytes.length = 4) :
    (ofRawBytes bytes).toBytes = bytes := by
  have hlt := Bytes.ofLittleEndian_lt bytes
  rw [h] at hlt
  have hval : (ofRawBytes bytes).toNat = Bytes.ofLittleEndian bytes := by
    simp only [ofRawBytes, toNat, UInt32.toNat_ofNat']
    exact Nat.mod_eq_of_lt (by simpa using hlt)
  rw [toBytes, hval, width, ← h]
  exact Bytes.littleEndian_ofLittleEndian bytes

/-! ### Text -/

def text (a : Felt) : String := toString a.toNat

/-- The stored word in decimal, filled up on the left to a least width. -/
def textRight (fill : Char) (least : Nat) (a : Felt) : String :=
  String.ofList (List.replicate (least - a.text.length) fill) ++ a.text

/-- The stored word in decimal, filled up with blanks on the right to a least width. -/
def textLeft (least : Nat) (a : Felt) : String :=
  a.text.pushn ' ' (least - a.text.length)

end Felt

end SpotCheck
