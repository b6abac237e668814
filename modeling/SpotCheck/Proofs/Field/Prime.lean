import Mathlib.NumberTheory.LucasLehmer
import SpotCheck.Proofs.Field.Reduction

/-!
# The modulus is prime

A product is zero only if one of its factors is zero modulo the modulus. Sums and products of
elements, canonical or not, stand for the sums and products of their numbers.
-/

namespace SpotCheck

theorem prime_modulus : modulus.Prime := by
  have hmersenne : (mersenne 31).Prime := lucas_lehmer_sufficiency 31 (by norm_num) (by norm_num)
  exact hmersenne

theorem pow_mod_modulus_ne_zero {n : Nat} (h : n % modulus ≠ 0) (exponent : Nat) :
    n ^ exponent % modulus ≠ 0 := by
  intro hpow
  have hdvd := prime_modulus.dvd_of_dvd_pow (Nat.dvd_of_mod_eq_zero hpow)
  exact h (Nat.mod_eq_zero_of_dvd hdvd)

namespace Felt

theorem eq_zero_iff {a : Felt} : a = zero ↔ a.toNat = 0 :=
  ⟨fun h => h ▸ toNat_zero, fun h => toNat_injective h⟩

theorem IsCanonical.mod {a : Felt} (h : a.IsCanonical) : a.toNat % modulus = a.toNat :=
  Nat.mod_eq_of_lt h

theorem mul_eq_zero_iff {a b : Felt} :
    a * b = zero ↔ a.toNat % modulus = 0 ∨ b.toNat % modulus = 0 := by
  rw [eq_zero_iff, toNat_mul, ← Nat.dvd_iff_mod_eq_zero, ← Nat.dvd_iff_mod_eq_zero,
    ← Nat.dvd_iff_mod_eq_zero]
  exact prime_modulus.dvd_mul

/-! ### Sums -/

theorem isCanonical_foldl_add {a : Felt} (ha : a.IsCanonical) (elements : List Felt) :
    (elements.foldl (· + ·) a).IsCanonical := by
  induction elements generalizing a with
  | nil => exact ha
  | cons element elements ih => exact ih (isCanonical_add a element)

theorem isCanonical_sum (elements : List Felt) : (sum elements).IsCanonical :=
  isCanonical_foldl_add (by decide) elements

theorem toNat_foldl_add (a : Felt) (elements : List Felt) :
    (elements.foldl (· + ·) a).toNat % modulus =
      (a.toNat + (elements.map toNat).sum) % modulus := by
  induction elements generalizing a with
  | nil => rfl
  | cons element elements ih =>
    rw [List.foldl_cons, ih, toNat_add, Nat.mod_add_mod, List.map_cons, List.sum_cons,
      Nat.add_assoc]

theorem toNat_sum (elements : List Felt) :
    (sum elements).toNat = (elements.map toNat).sum % modulus := by
  rw [← (isCanonical_sum elements).mod, sum, toNat_foldl_add, toNat_zero, Nat.zero_add]

end Felt

end SpotCheck
