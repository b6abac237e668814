import Mathlib.Algebra.Field.ZMod
import SpotCheck.Proofs.Field.Prime

/-!
# Elements as residues

An element, canonical or not, stands for a residue modulo the modulus, and every residue has one
canonical element. As the modulus is prime, the residues are a field.
-/

namespace SpotCheck

instance fact_prime_modulus : Fact modulus.Prime := ⟨prime_modulus⟩

namespace Felt

/-- The residue that an element stands for. -/
def residue (a : Felt) : ZMod modulus := (a.toNat : ZMod modulus)

def ofResidue (r : ZMod modulus) : Felt := ⟨UInt32.ofNat r.val⟩

theorem toNat_ofResidue (r : ZMod modulus) : (ofResidue r).toNat = r.val := by
  have hlt : r.val < modulus := ZMod.val_lt r
  have hword : modulus < 2 ^ 32 := by decide
  exact UInt32.toNat_ofNat_of_lt' (Nat.lt_trans hlt hword)

theorem isCanonical_ofResidue (r : ZMod modulus) : (ofResidue r).IsCanonical := by
  unfold IsCanonical
  rw [toNat_ofResidue]
  exact ZMod.val_lt r

@[simp] theorem residue_ofResidue (r : ZMod modulus) : (ofResidue r).residue = r := by
  rw [residue, toNat_ofResidue, ZMod.natCast_zmod_val]

theorem ofResidue_residue {a : Felt} (ha : a.IsCanonical) : ofResidue a.residue = a := by
  apply toNat_injective
  rw [toNat_ofResidue, residue, ZMod.val_natCast, ha.mod]

theorem ofResidue_injective : Function.Injective ofResidue :=
  Function.LeftInverse.injective residue_ofResidue

theorem residue_eq_zero_iff {a : Felt} (ha : a.IsCanonical) : a.residue = 0 ↔ a = zero := by
  rw [residue, ZMod.natCast_eq_zero_iff, Nat.dvd_iff_mod_eq_zero, ha.mod, eq_zero_iff]

end Felt

end SpotCheck
