import Mathlib.Algebra.Field.Equiv
import Mathlib.Tactic.Ring
import SpotCheck.Proofs.Field.Residue
import SpotCheck.Proofs.Steps

/-!
# Arithmetic on any words

The operations give the canonical element congruent to the exact result, also for operands that are
not canonical, and none of their steps leaves the range of its word but the one of a difference that
takes away too much. Canonical elements never do that, and with these operations they are the field
of residues.
-/

namespace SpotCheck.Felt

variable {a b d : Felt} {n : Int}

/-! ### Every step checked -/

namespace Checked

def fold (x : Nat) : Except Fault Nat := Word.add (x &&& 0x7fffffff) (x >>> 31)

/-- The word of the 32 low bits. -/
def narrow (x : Nat) : UInt32 := UInt32.ofNat x

def reduce (x : Nat) : Except Fault Felt := do
  let once ← fold x
  let folded ← fold once
  if modulus ≤ folded then
    let rest ← Word.sub (narrow folded).toNat modulus
    .ok ⟨narrow rest⟩
  else
    .ok ⟨narrow folded⟩

def add (a b : Felt) : Except Fault Felt := do
  let total ← Word.add a.toNat b.toNat
  reduce total

def mul (a b : Felt) : Except Fault Felt := do
  let product ← Word.mul a.toNat b.toNat
  reduce product

def square (a : Felt) : Except Fault Felt := mul a a

def sub (a b : Felt) : Except Fault Felt := do
  let lifted ← Word.add a.toNat modulus
  let rest ← Word.sub lifted b.toNat
  reduce rest

def neg (a : Felt) : Except Fault Felt := sub zero a

def sum (elements : List Felt) : Except Fault Felt := elements.foldlM add zero

theorem fold_eq (x : UInt64) : fold x.toNat = .ok (Felt.fold x).toNat := by
  have hx : x.toNat < 2 ^ 64 := x.toNat_lt
  have hlow : x.toNat &&& 0x7fffffff = x.toNat % 2 ^ 31 :=
    Nat.and_two_pow_sub_one_eq_mod x.toNat 31
  have hhigh : x.toNat >>> 31 = x.toNat / 2 ^ 31 := Nat.shiftRight_eq_div_pow x.toNat 31
  rw [fold, hlow, hhigh, toNat_fold]
  refine Word.add_eq_ok_iff.2 ⟨rfl, ?_⟩
  rw [Word.limit_eq]
  omega

theorem reduce_eq (x : UInt64) : reduce x.toNat = .ok (Felt.reduce x) := by
  have hsmall := toNat_fold_fold_lt x
  refine bind_eq_ok_iff.2 ⟨_, fold_eq x, bind_eq_ok_iff.2 ⟨_, fold_eq _, ?_⟩⟩
  dsimp only [Felt.reduce]
  generalize Felt.fold (Felt.fold x) = folded at hsmall
  have hnarrow : narrow folded.toNat = folded.toUInt32 := UInt32.ofNat_uInt64ToNat folded
  by_cases hge : folded ≥ 0x7fffffff
  · have hle : modulus ≤ folded.toNat := UInt64.le_iff_toNat_le.1 hge
    have hword : folded.toUInt32.toNat = folded.toNat := by
      rw [UInt64.toNat_toUInt32]
      omega
    have hrest : folded.toNat - modulus = (folded - 0x7fffffff).toNat :=
      (UInt64.toNat_sub_of_le _ _ hge).symm
    rw [if_pos hle, if_pos hge, hnarrow, hword]
    refine bind_eq_ok_iff.2 ⟨_, Word.sub_eq_ok_iff.2 ⟨rfl, hle⟩, ?_⟩
    rw [hrest, narrow, UInt32.ofNat_uInt64ToNat]
  · have hlt : ¬ modulus ≤ folded.toNat := fun hle => hge (UInt64.le_iff_toNat_le.2 hle)
    rw [if_neg hlt, if_neg hge, hnarrow]

theorem add_eq (a b : Felt) : add a b = .ok (a + b) := by
  have hsum := toNat_wordSum a b
  have hlt : a.toNat + b.toNat < 2 ^ 64 := hsum ▸ UInt64.toNat_lt _
  exact bind_eq_ok_iff.2 ⟨_, Word.add_eq_ok_iff.2 ⟨hsum.symm, hlt⟩, reduce_eq _⟩

theorem mul_eq (a b : Felt) : mul a b = .ok (a * b) := by
  have hproduct := toNat_wordProduct a b
  have hlt : a.toNat * b.toNat < 2 ^ 64 := hproduct ▸ UInt64.toNat_lt _
  exact bind_eq_ok_iff.2 ⟨_, Word.mul_eq_ok_iff.2 ⟨hproduct.symm, hlt⟩, reduce_eq _⟩

/-- Only the step that takes away can fault. -/
theorem sub_eq (a b : Felt) : sub a b = a.sub b := by
  have hlt : a.toNat + modulus < 2 ^ 64 := toNat_lifted a ▸ UInt64.toNat_lt _
  have hlifted : Word.add a.toNat modulus = .ok (a.toNat + modulus) :=
    Word.add_eq_ok_iff.2 ⟨rfl, hlt⟩
  have hsteps : sub a b = Word.sub (a.toNat + modulus) b.toNat >>= reduce := by
    rw [sub, hlifted]
    rfl
  rw [hsteps, Felt.sub]
  by_cases hle : b.toNat ≤ a.toNat + modulus
  · have hrest := toNat_lifted_sub hle
    rw [if_pos hle]
    exact bind_eq_ok_iff.2 ⟨_, Word.sub_eq_ok_iff.2 ⟨hrest.symm, hle⟩, reduce_eq _⟩
  · rw [if_neg hle, Word.sub, if_neg hle]
    rfl

theorem sum_eq (elements : List Felt) : sum elements = .ok (Felt.sum elements) := by
  unfold sum Felt.sum
  generalize zero = total
  induction elements generalizing total with
  | nil => rfl
  | cons element elements ih =>
    rw [List.foldlM_cons, add_eq, List.foldl_cons, ← ih]
    rfl

end Checked

/-! ### Residues -/

/-- The canonical element congruent to a number. -/
def IsResidueOf (a : Felt) (n : Int) : Prop := a.IsCanonical ∧ (a.toNat : Int) = n % modulus

theorem isResidueOf_of_toNat_eq {k : Nat} (h : a.toNat = k % modulus) : a.IsResidueOf k := by
  constructor
  · unfold IsCanonical
    rw [h]
    exact Nat.mod_lt _ (by decide)
  · rw [h, Int.natCast_mod]

theorem IsResidueOf.residue_eq (h : a.IsResidueOf n) : a.residue = (n : ZMod modulus) := by
  rw [residue, ← Int.cast_natCast, h.2, ZMod.intCast_mod]

theorem isResidueOf_reduce (x : UInt64) : (reduce x).IsResidueOf x.toNat :=
  isResidueOf_of_toNat_eq (toNat_reduce x)

theorem isResidueOf_add (a b : Felt) : (a + b).IsResidueOf (a.toNat + b.toNat) := by
  rw [← Nat.cast_add]
  exact isResidueOf_of_toNat_eq (toNat_add a b)

theorem isResidueOf_mul (a b : Felt) : (a * b).IsResidueOf (a.toNat * b.toNat) := by
  rw [← Nat.cast_mul]
  exact isResidueOf_of_toNat_eq (toNat_mul a b)

theorem isResidueOf_square (a : Felt) : a.square.IsResidueOf (a.toNat ^ 2) := by
  rw [← Nat.cast_pow]
  exact isResidueOf_of_toNat_eq (toNat_square a)

theorem isResidueOf_sum (elements : List Felt) :
    (sum elements).IsResidueOf (elements.map toNat).sum :=
  isResidueOf_of_toNat_eq (toNat_sum elements)

theorem sub_eq_error_iff : (∃ f, a.sub b = .error f) ↔ a.toNat + modulus < b.toNat := by
  unfold sub
  split_ifs with hle
  · simp [hle]
  · simp [Nat.not_le.1 hle]

theorem isResidueOf_of_sub (h : a.sub b = .ok d) : d.IsResidueOf (a.toNat - b.toNat) := by
  have hle : b.toNat ≤ a.toNat + modulus := by
    by_contra hlt
    obtain ⟨f, hf⟩ := sub_eq_error_iff.2 (Nat.not_le.1 hlt)
    rw [h] at hf
    cases hf
  refine ⟨isCanonical_of_sub h, ?_⟩
  have hborrow : (a.toNat : Int) + modulus - b.toNat = a.toNat - b.toNat + modulus := by ring
  rw [toNat_of_sub h, Int.natCast_mod, Nat.cast_sub hle, Nat.cast_add, hborrow,
    Int.add_emod_right]

theorem neg_eq_error_iff : (∃ f, a.neg = .error f) ↔ modulus < a.toNat := by
  rw [neg, sub_eq_error_iff, toNat_zero, Nat.zero_add]

theorem isResidueOf_of_neg (h : a.neg = .ok d) : d.IsResidueOf (-a.toNat) := by
  have hdifference := isResidueOf_of_sub h
  rwa [toNat_zero, Nat.cast_zero, zero_sub] at hdifference

/-! ### Canonical elements -/

def Canonical : Type := {a : Felt // a.IsCanonical}

namespace Canonical

instance : Zero Canonical := ⟨⟨zero, by decide⟩⟩

instance : One Canonical := ⟨⟨one, by decide⟩⟩

instance : Add Canonical := ⟨fun a b => ⟨a.1 + b.1, isCanonical_add a.1 b.1⟩⟩

instance : Mul Canonical := ⟨fun a b => ⟨a.1 * b.1, isCanonical_reduce _⟩⟩

/-- What is left of one canonical element when another one is taken away. -/
def difference (a b : Canonical) : Canonical :=
  match h : a.1.sub b.1 with
  | .ok d => ⟨d, isCanonical_of_sub h⟩
  | .error _ => 0

instance : Sub Canonical := ⟨difference⟩

instance : Neg Canonical := ⟨difference 0⟩

variable (a b : Canonical)

theorem sub_val : a.1.sub b.1 = .ok (a - b).1 := by
  obtain ⟨d, hd⟩ := sub_isOk (a := a.1) b.2
  have hval : (a - b).1 = d := by
    show (difference a b).1 = d
    unfold difference
    split
    case h_1 d' hd' => exact Except.ok.inj (hd'.symm.trans hd)
    case h_2 f hf =>
      rw [hd] at hf
      cases hf
  rw [hd, hval]

theorem neg_val : a.1.neg = .ok (-a).1 := sub_val 0 a

def residue : ZMod modulus := a.1.residue

variable {a b} in
theorem residue_injective (h : a.residue = b.residue) : a = b := by
  apply Subtype.ext
  rw [← ofResidue_residue a.2, ← ofResidue_residue b.2]
  exact congrArg ofResidue h

@[simp] theorem residue_zero : (0 : Canonical).residue = 0 := Nat.cast_zero

@[simp] theorem residue_one : (1 : Canonical).residue = 1 := Nat.cast_one

@[simp] theorem residue_add : (a + b).residue = a.residue + b.residue := by
  have h := (isResidueOf_add a.1 b.1).residue_eq
  rwa [Int.cast_add, Int.cast_natCast, Int.cast_natCast] at h

@[simp] theorem residue_mul : (a * b).residue = a.residue * b.residue := by
  have h := (isResidueOf_mul a.1 b.1).residue_eq
  rwa [Int.cast_mul, Int.cast_natCast, Int.cast_natCast] at h

@[simp] theorem residue_sub : (a - b).residue = a.residue - b.residue := by
  have h := (isResidueOf_of_sub (sub_val a b)).residue_eq
  rwa [Int.cast_sub, Int.cast_natCast, Int.cast_natCast] at h

@[simp] theorem residue_neg : (-a).residue = -a.residue := by
  have h := residue_sub 0 a
  rwa [residue_zero, zero_sub] at h

instance : CommRing Canonical where
  add_assoc a b c := residue_injective (by simp only [residue_add]; ring)
  zero_add a := residue_injective (by simp)
  add_zero a := residue_injective (by simp)
  add_comm a b := residue_injective (by simp only [residue_add]; ring)
  neg_add_cancel a := residue_injective (by simp)
  sub_eq_add_neg a b :=
    residue_injective (by simp only [residue_sub, residue_add, residue_neg]; ring)
  mul_assoc a b c := residue_injective (by simp only [residue_mul]; ring)
  one_mul a := residue_injective (by simp)
  mul_one a := residue_injective (by simp)
  mul_comm a b := residue_injective (by simp only [residue_mul]; ring)
  zero_mul a := residue_injective (by simp)
  mul_zero a := residue_injective (by simp)
  left_distrib a b c := residue_injective (by simp only [residue_add, residue_mul]; ring)
  right_distrib a b c := residue_injective (by simp only [residue_add, residue_mul]; ring)
  nsmul := nsmulRec
  zsmul := zsmulRec

/-- The canonical elements are the residues. -/
def residueEquiv : Canonical ≃+* ZMod modulus where
  toFun := residue
  invFun r := ⟨ofResidue r, isCanonical_ofResidue r⟩
  left_inv a := Subtype.ext (ofResidue_residue a.2)
  right_inv := residue_ofResidue
  map_add' := residue_add
  map_mul' := residue_mul

theorem isField : IsField Canonical :=
  MulEquiv.isField (Field.toIsField (ZMod modulus)) residueEquiv.toMulEquiv

end Canonical

/-! ### Main theorem -/

/-- Reduction, sum, product, square and the sum of a list never leave their words and give the
canonical element congruent to the exact result, whatever the operands. A difference faults if and
only if it takes away more than the modulus and the first operand, a negation if and only if its
operand exceeds the modulus, and else they give the canonical element congruent to the exact result,
too. So the operations never fault on canonical elements, which are the field of residues. -/
theorem arithmetic_is_modular (x : UInt64) (a b : Felt) (elements : List Felt)
    (c c' : Canonical) :
    (Checked.reduce x.toNat = .ok (reduce x) ∧ (reduce x).IsResidueOf x.toNat) ∧
      (Checked.add a b = .ok (a + b) ∧ (a + b).IsResidueOf (a.toNat + b.toNat)) ∧
      (Checked.mul a b = .ok (a * b) ∧ (a * b).IsResidueOf (a.toNat * b.toNat)) ∧
      (Checked.square a = .ok a.square ∧ a.square.IsResidueOf (a.toNat ^ 2)) ∧
      (Checked.sum elements = .ok (sum elements) ∧
        (sum elements).IsResidueOf (elements.map toNat).sum) ∧
      (Checked.sub a b = a.sub b ∧
        ((∃ f, a.sub b = .error f) ↔ a.toNat + modulus < b.toNat) ∧
        ∀ d, a.sub b = .ok d → d.IsResidueOf (a.toNat - b.toNat)) ∧
      (Checked.neg a = a.neg ∧
        ((∃ f, a.neg = .error f) ↔ modulus < a.toNat) ∧
        ∀ d, a.neg = .ok d → d.IsResidueOf (-a.toNat)) ∧
      (c.1 + c'.1 = (c + c').1 ∧ c.1 * c'.1 = (c * c').1 ∧ c.1.neg = .ok (-c).1 ∧
        c.1.sub c'.1 = .ok (c - c').1 ∧ (c - c').1 + c'.1 = c.1) ∧
      IsField Canonical ∧
      ∃ e : Canonical ≃+* ZMod modulus, ∀ c, e c = (c.1.toNat : ZMod modulus) := by
  refine ⟨⟨Checked.reduce_eq x, isResidueOf_reduce x⟩, ⟨Checked.add_eq a b, isResidueOf_add a b⟩,
    ⟨Checked.mul_eq a b, isResidueOf_mul a b⟩, ⟨Checked.mul_eq a a, isResidueOf_square a⟩,
    ⟨Checked.sum_eq elements, isResidueOf_sum elements⟩,
    ⟨Checked.sub_eq a b, sub_eq_error_iff, fun _ => isResidueOf_of_sub⟩,
    ⟨Checked.sub_eq zero a, neg_eq_error_iff, fun _ => isResidueOf_of_neg⟩,
    ⟨rfl, rfl, Canonical.neg_val c, Canonical.sub_val c c', ?_⟩, Canonical.isField,
    Canonical.residueEquiv, fun _ => rfl⟩
  have hback : c - c' + c' = c := sub_add_cancel c c'
  exact congrArg Subtype.val hback

/-- The largest words, zero less the modulus, the most that can be taken from zero, and the negation
of the modulus. -/
theorem arithmetic_is_modular_at_limits :
    (reduce 0xffffffffffffffff).IsResidueOf (2 ^ 64 - 1) ∧
      ((⟨0xffffffff⟩ : Felt) * ⟨0xffffffff⟩).IsResidueOf ((2 ^ 32 - 1) * (2 ^ 32 - 1)) ∧
      (zero.sub ⟨0x7fffffff⟩ = .ok zero ∧ zero.IsResidueOf (0 - 0x7fffffff)) ∧
      (∃ f, zero.sub ⟨0x80000000⟩ = .error f) ∧
      ((⟨0x7fffffff⟩ : Felt).neg = .ok zero ∧ zero.IsResidueOf (-0x7fffffff)) := by
  have hsub : zero.sub ⟨0x7fffffff⟩ = .ok zero := by decide
  have hneg : (⟨0x7fffffff⟩ : Felt).neg = .ok zero := by decide
  obtain ⟨⟨-, hreduce⟩, -, ⟨-, hmul⟩, -⟩ :=
    arithmetic_is_modular 0xffffffffffffffff ⟨0xffffffff⟩ ⟨0xffffffff⟩ [] 0 0
  obtain ⟨-, -, -, -, -, ⟨-, -, hlimit⟩, -⟩ :=
    arithmetic_is_modular 0 zero ⟨0x7fffffff⟩ [] 0 0
  obtain ⟨-, -, -, -, -, ⟨-, hfaults, -⟩, -⟩ :=
    arithmetic_is_modular 0 zero ⟨0x80000000⟩ [] 0 0
  obtain ⟨-, -, -, -, -, -, ⟨-, -, hopposite⟩, -⟩ :=
    arithmetic_is_modular 0 ⟨0x7fffffff⟩ zero [] 0 0
  exact ⟨hreduce, hmul, ⟨hsub, hlimit zero hsub⟩, hfaults.2 (by decide), hneg, hopposite zero hneg⟩

end SpotCheck.Felt
