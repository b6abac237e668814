import SpotCheck.Hex
import SpotCheck.Proofs.Text

/-!
# Hexadecimal text and back

A byte string is read back from its hexadecimal text.
-/

namespace SpotCheck.Hex

/-- The stored form of a digit. -/
def digitCode (n : Nat) : UInt8 := UInt8.ofNat (digit n).toNat

theorem utf8EncodeChar_digit : ∀ n < 16, String.utf8EncodeChar (digit n) = [digitCode n] := by
  decide

theorem value?_digitCode : ∀ n < 16, value? (Char.ofNat (digitCode n).toNat) = some n := by
  decide

def codePair (b : UInt8) : Bytes := [digitCode (b.toNat / 16), digitCode (b.toNat % 16)]

theorem ofText_encode (bytes : Bytes) : Bytes.ofText (encode bytes) = bytes.flatMap codePair := by
  rw [Bytes.ofText_eq, encode, String.toList_ofList, List.flatMap_assoc]
  refine congrArg (bytes.flatMap ·) (funext fun b => ?_)
  have hb : b.toNat < 256 := b.toNat_lt
  have hhigh := utf8EncodeChar_digit (b.toNat / 16) (by omega)
  have hlow := utf8EncodeChar_digit (b.toNat % 16) (by omega)
  simp [encodeByte, codePair, hhigh, hlow]

theorem length_flatMap_codePair (bytes : Bytes) :
    (bytes.flatMap codePair).length = 2 * bytes.length := by
  induction bytes with
  | nil => rfl
  | cons b rest ih =>
    rw [List.flatMap_cons, List.length_append, ih, List.length_cons]
    show 2 + 2 * rest.length = _
    omega

theorem decodePairs_codePair (bytes done : Bytes) (position : Nat) :
    decodePairs position done (bytes.flatMap codePair) = .ok (done.reverse ++ bytes) := by
  induction bytes generalizing done position with
  | nil => simp [decodePairs]
  | cons b rest ih =>
    have hb : b.toNat < 256 := b.toNat_lt
    have hhigh := value?_digitCode (b.toNat / 16) (by omega)
    have hlow := value?_digitCode (b.toNat % 16) (by omega)
    have hbyte : UInt8.ofNat (16 * (b.toNat / 16) + b.toNat % 16) = b := by
      rw [Nat.div_add_mod, UInt8.ofNat_toNat]
    have hstep : (b :: rest).flatMap codePair = digitCode (b.toNat / 16) ::
        digitCode (b.toNat % 16) :: rest.flatMap codePair := rfl
    rw [hstep, decodePairs, hhigh, hlow]
    dsimp only
    rw [hbyte, ih]
    simp

theorem decode_encode (bytes : Bytes) : decode (encode bytes) = .ok bytes := by
  have heven : ¬ (bytes.flatMap codePair).length % 2 = 1 := by
    rw [length_flatMap_codePair]
    omega
  rw [decode, ofText_encode, if_neg heven, decodePairs_codePair]
  rfl

end SpotCheck.Hex
