import Mathlib.Algebra.Group.Nat.Defs
import SpotCheck.Field

/-!
# Reduction is division with remainder

Two folds and a subtraction leave the remainder modulo `2 ^ 31 - 1`, of every 64-bit word. The
operations of the field compute in such words without wrapping around, also on elements that are
not canonical, so that each of them gives the remainder of what it stands for.
-/

namespace SpotCheck

theorem modulus_eq : modulus = 2 ^ 31 - 1 := rfl

namespace Felt

theorem toNat_injective {a b : Felt} (h : a.toNat = b.toNat) : a = b := by
  cases a
  cases b
  exact congrArg Felt.mk (UInt32.toNat.inj h)

theorem toNat_inj {a b : Felt} : a.toNat = b.toNat ↔ a = b :=
  ⟨toNat_injective, congrArg toNat⟩

theorem toNat_lt (a : Felt) : a.toNat < 2 ^ 32 := a.raw.toNat_lt

@[simp] theorem toNat_zero : zero.toNat = 0 := rfl

theorem isZero_iff {a : Felt} : a.isZero = true ↔ a = zero := by
  cases a
  simp [isZero, zero]

/-! ### Folds -/

theorem toNat_fold (x : UInt64) : (fold x).toNat = x.toNat % 2 ^ 31 + x.toNat / 2 ^ 31 := by
  have hx : x.toNat < 2 ^ 64 := x.toNat_lt
  have hlow : (x &&& (0x7fffffff : UInt64)).toNat = x.toNat % 2 ^ 31 := by
    rw [UInt64.toNat_and]
    exact Nat.and_two_pow_sub_one_eq_mod x.toNat 31
  have hhigh : (x >>> (31 : UInt64)).toNat = x.toNat / 2 ^ 31 := by
    rw [UInt64.toNat_shiftRight]
    exact Nat.shiftRight_eq_div_pow x.toNat 31
  rw [fold, UInt64.toNat_add, hlow, hhigh, Nat.mod_eq_of_lt]
  omega

theorem fold_mod (n : Nat) : (n % 2 ^ 31 + n / 2 ^ 31) % modulus = n % modulus := by
  have hsplit : n = n % 2 ^ 31 + n / 2 ^ 31 + modulus * (n / 2 ^ 31) := by
    have hdiv := Nat.mod_add_div n (2 ^ 31)
    rw [modulus_eq]
    omega
  calc (n % 2 ^ 31 + n / 2 ^ 31) % modulus
      = (n % 2 ^ 31 + n / 2 ^ 31 + modulus * (n / 2 ^ 31)) % modulus :=
        (Nat.add_mul_mod_self_left ..).symm
    _ = n % modulus := by rw [← hsplit]

/-- The second fold adds less than eight. -/
theorem toNat_fold_fold_lt (x : UInt64) : (fold (fold x)).toNat < 2 ^ 31 + 7 := by
  have hx : x.toNat < 2 ^ 64 := x.toNat_lt
  rw [toNat_fold, toNat_fold]
  omega

theorem toNat_reduce (x : UInt64) : (reduce x).toNat = x.toNat % modulus := by
  have hfolds : (fold (fold x)).toNat % modulus = x.toNat % modulus := by
    rw [toNat_fold, fold_mod, toNat_fold, fold_mod]
  have hsmall := toNat_fold_fold_lt x
  rw [← hfolds]
  unfold reduce
  by_cases hge : fold (fold x) ≥ 0x7fffffff
  · have hle : modulus ≤ (fold (fold x)).toNat := UInt64.le_iff_toNat_le.1 hge
    have hdiff : (fold (fold x) - 0x7fffffff).toNat = (fold (fold x)).toNat - modulus :=
      UInt64.toNat_sub_of_le _ _ hge
    have hmod : (fold (fold x)).toNat % modulus = (fold (fold x)).toNat - modulus := by
      rw [Nat.mod_eq_sub_mod hle, Nat.mod_eq_of_lt]
      rw [modulus_eq]
      omega
    simp only [hge, if_true, toNat, UInt64.toNat_toUInt32, hdiff, hmod]
    omega
  · have hlt : (fold (fold x)).toNat < modulus := by
      have h := fun hle => hge (UInt64.le_iff_toNat_le.2 hle)
      exact Nat.not_le.1 h
    simp only [hge, if_false, toNat, UInt64.toNat_toUInt32]
    rw [Nat.mod_eq_of_lt hlt]
    rw [modulus_eq] at hlt
    omega

theorem isCanonical_reduce (x : UInt64) : (reduce x).IsCanonical := by
  unfold IsCanonical
  rw [toNat_reduce]
  exact Nat.mod_lt _ (by decide)

theorem toNat_ofWord (word : UInt32) : (ofWord word).toNat = word.toNat % modulus := by
  rw [ofWord, toNat_reduce, UInt32.toNat_toUInt64]

theorem isCanonical_ofWord (word : UInt32) : (ofWord word).IsCanonical := isCanonical_reduce _

/-! ### Operations -/

theorem toNat_wordSum (a b : Felt) :
    (a.raw.toUInt64 + b.raw.toUInt64).toNat = a.toNat + b.toNat := by
  have ha := a.toNat_lt
  have hb := b.toNat_lt
  rw [UInt64.toNat_add, UInt32.toNat_toUInt64, UInt32.toNat_toUInt64]
  exact Nat.mod_eq_of_lt (show a.toNat + b.toNat < 2 ^ 64 by omega)

theorem toNat_wordProduct (a b : Felt) :
    (a.raw.toUInt64 * b.raw.toUInt64).toNat = a.toNat * b.toNat := by
  have hle : a.toNat * b.toNat ≤ (2 ^ 32 - 1) * (2 ^ 32 - 1) :=
    Nat.mul_le_mul (Nat.le_pred_of_lt a.toNat_lt) (Nat.le_pred_of_lt b.toNat_lt)
  rw [UInt64.toNat_mul, UInt32.toNat_toUInt64, UInt32.toNat_toUInt64]
  exact Nat.mod_eq_of_lt (show a.toNat * b.toNat < 2 ^ 64 by omega)

theorem toNat_lifted (a : Felt) : (a.raw.toUInt64 + 0x7fffffff).toNat = a.toNat + modulus := by
  have ha := a.toNat_lt
  rw [UInt64.toNat_add, UInt32.toNat_toUInt64]
  exact Nat.mod_eq_of_lt (show a.toNat + modulus < 2 ^ 64 by rw [modulus_eq]; omega)

theorem toNat_lifted_sub {a b : Felt} (h : b.toNat ≤ a.toNat + modulus) :
    (a.raw.toUInt64 + 0x7fffffff - b.raw.toUInt64).toNat = a.toNat + modulus - b.toNat := by
  have hword : b.raw.toUInt64 ≤ a.raw.toUInt64 + 0x7fffffff := by
    rw [UInt64.le_iff_toNat_le, toNat_lifted, UInt32.toNat_toUInt64]
    exact h
  rw [UInt64.toNat_sub_of_le _ _ hword, toNat_lifted, UInt32.toNat_toUInt64]
  rfl

theorem toNat_add (a b : Felt) : (a + b).toNat = (a.toNat + b.toNat) % modulus := by
  show (reduce (a.raw.toUInt64 + b.raw.toUInt64)).toNat = _
  rw [toNat_reduce, toNat_wordSum]

theorem toNat_mul (a b : Felt) : (a * b).toNat = a.toNat * b.toNat % modulus := by
  show (reduce (a.raw.toUInt64 * b.raw.toUInt64)).toNat = _
  rw [toNat_reduce, toNat_wordProduct]

theorem toNat_square (a : Felt) : a.square.toNat = a.toNat ^ 2 % modulus := by
  rw [square, toNat_mul, Nat.pow_two]

/-- A difference that does not fault is the remainder of the difference, one modulus up. -/
theorem toNat_of_sub {a b d : Felt} (h : a.sub b = .ok d) :
    d.toNat = (a.toNat + modulus - b.toNat) % modulus := by
  unfold sub at h
  split at h
  · rename_i hle
    cases h
    rw [toNat_reduce, toNat_lifted_sub hle]
  · cases h

theorem sub_isOk {a b : Felt} (hb : b.IsCanonical) : ∃ d, a.sub b = .ok d := by
  unfold IsCanonical at hb
  unfold sub
  rw [if_pos (by omega)]
  exact ⟨_, rfl⟩

theorem sub_self {a : Felt} (ha : a.IsCanonical) : a.sub a = .ok zero := by
  obtain ⟨d, hd⟩ := sub_isOk (a := a) ha
  have hval := toNat_of_sub hd
  rw [Nat.add_sub_cancel_left, Nat.mod_self] at hval
  rw [hd, toNat_injective (b := zero) hval]

/-- A canonical summand is what is left when the other one is taken away. -/
theorem add_sub_cancel_left {a b : Felt} (ha : a.IsCanonical) (hb : b.IsCanonical) :
    (a + b).sub a = .ok b := by
  obtain ⟨d, hd⟩ := sub_isOk (a := a + b) ha
  have hval := toNat_of_sub hd
  unfold IsCanonical at ha hb
  rw [toNat_add] at hval
  have hb' : d.toNat = b.toNat := by
    rw [hval, Nat.add_sub_assoc (Nat.le_of_lt ha), Nat.add_mod, Nat.mod_mod, ← Nat.add_mod]
    have hsum : a.toNat + b.toNat + (modulus - a.toNat) = b.toNat + modulus := by omega
    rw [hsum, Nat.add_mod_right, Nat.mod_eq_of_lt hb]
  rw [hd, toNat_injective hb']

/-- What is left over gives the first element back, when both were canonical. -/
theorem add_of_sub {a b d : Felt} (ha : a.IsCanonical) (hb : b.IsCanonical) (h : a.sub b = .ok d) :
    b + d = a := by
  have hval := toNat_of_sub h
  unfold IsCanonical at ha hb
  apply toNat_injective
  rw [toNat_add, hval, Nat.add_mod_mod]
  have hsum : b.toNat + (a.toNat + modulus - b.toNat) = a.toNat + modulus := by omega
  rw [hsum, Nat.add_mod_right, Nat.mod_eq_of_lt ha]

theorem isCanonical_of_sub {a b d : Felt} (h : a.sub b = .ok d) : d.IsCanonical := by
  unfold IsCanonical
  rw [toNat_of_sub h]
  exact Nat.mod_lt _ (by decide)

theorem isCanonical_add (a b : Felt) : (a + b).IsCanonical := isCanonical_reduce _

theorem isCanonical_square (a : Felt) : a.square.IsCanonical := isCanonical_reduce _

@[simp] theorem zero_mul (a : Felt) : zero * a = zero := by
  apply toNat_injective
  rw [toNat_mul, toNat_zero, Nat.zero_mul]
  rfl

@[simp] theorem mul_zero (a : Felt) : a * zero = zero := by
  apply toNat_injective
  rw [toNat_mul, toNat_zero, Nat.mul_zero]
  rfl

@[simp] theorem zero_add_zero : zero + zero = zero := by decide

theorem add_zero {a : Felt} (ha : a.IsCanonical) : a + zero = a := by
  apply toNat_injective
  rw [toNat_add, toNat_zero, Nat.add_zero, Nat.mod_eq_of_lt ha]

/-- Canonical elements whose difference is zero are equal. -/
theorem sub_eq_zero_iff {a b : Felt} (ha : a.IsCanonical) (hb : b.IsCanonical) :
    a.sub b = .ok zero ↔ a = b := by
  constructor
  · intro h
    exact (add_of_sub ha hb h).symm.trans (add_zero hb)
  · intro h
    rw [h, sub_self hb]

end Felt

end SpotCheck
