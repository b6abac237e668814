/-!
# Byte strings and little-endian integers

Byte strings are lists of bytes. An integer field of a format has a fixed width, least
significant byte first: `littleEndian` writes it and `ofLittleEndian` reads it back.
-/

namespace SpotCheck

abbrev Bytes := List UInt8

namespace Bytes

/-- The `width` low bytes of `n`, least significant first. -/
def littleEndian : Nat → Nat → Bytes
  | 0, _ => []
  | width + 1, n => UInt8.ofNat n :: littleEndian width (n / 256)

/-- The number whose bytes, least significant first, are given. -/
def ofLittleEndian : Bytes → Nat
  | [] => 0
  | b :: rest => b.toNat + 256 * ofLittleEndian rest

@[simp] theorem length_littleEndian (width n : Nat) : (littleEndian width n).length = width := by
  induction width generalizing n with
  | zero => rfl
  | succ width ih => simp [littleEndian, ih]

/-- Reading back a written field gives the number modulo the field's range. -/
theorem ofLittleEndian_littleEndian (width n : Nat) :
    ofLittleEndian (littleEndian width n) = n % (1 <<< (8 * width)) := by
  induction width generalizing n with
  | zero => simp [littleEndian, ofLittleEndian, Nat.mod_one]
  | succ width ih =>
    have byte : (UInt8.ofNat n).toNat = n % 256 := by simp
    have range : 1 <<< (8 * (width + 1)) = 256 * (1 <<< (8 * width)) := by
      rw [Nat.one_shiftLeft, Nat.one_shiftLeft, Nat.mul_succ, Nat.pow_add, Nat.mul_comm]
    rw [littleEndian, ofLittleEndian, ih, byte, range, Nat.mod_mul]

/-- Writing the number that was read gives the same bytes. -/
theorem littleEndian_ofLittleEndian (bytes : Bytes) :
    littleEndian bytes.length (ofLittleEndian bytes) = bytes := by
  induction bytes with
  | nil => rfl
  | cons b rest ih =>
    have hb : b.toNat < 256 := b.toNat_lt
    simp only [List.length_cons, littleEndian, ofLittleEndian]
    have h : (b.toNat + 256 * ofLittleEndian rest) / 256 = ofLittleEndian rest := by omega
    rw [h, ih]
    congr 1
    apply UInt8.toNat.inj
    simp only [UInt8.toNat_ofNat']
    omega

theorem ofLittleEndian_lt (bytes : Bytes) :
    ofLittleEndian bytes < 1 <<< (8 * bytes.length) := by
  induction bytes with
  | nil => simp [ofLittleEndian]
  | cons b rest ih =>
    have hb : b.toNat < 256 := b.toNat_lt
    rw [Nat.one_shiftLeft] at ih
    rw [ofLittleEndian, List.length_cons, Nat.one_shiftLeft, Nat.mul_succ, Nat.pow_add]
    omega

def ofText (text : String) : Bytes := text.toUTF8.data.toList

/-- The text whose UTF-8 form is given, if there is one. -/
def toText? (bytes : Bytes) : Option String := String.fromUTF8? ⟨bytes.toArray⟩

end Bytes

end SpotCheck
