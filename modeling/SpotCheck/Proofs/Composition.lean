import Mathlib.Data.List.GetD
import Mathlib.Data.Set.Card
import Mathlib.FieldTheory.Finiteness
import Mathlib.LinearAlgebra.Dual.Lemmas
import SpotCheck.Proofs.Field.Residue
import SpotCheck.Proofs.Key.RowWeights

/-!
# Random composition

The evaluations on a row are composed with coefficients that are drawn from the field. Up to the
weight of the row, which is not zero, the composition is a linear form in the coefficients, and it
is the zero form only if all evaluations are zero. So the coefficients that compose a violated row
to zero are a hyperplane: one vector in as many as there are field elements.
-/

namespace SpotCheck

/-- The vectors of so many coefficients, all of them canonical. -/
def coefficientVectors (count : Nat) : Set (List Felt) :=
  {coefficients | coefficients.length = count ∧ ∀ c ∈ coefficients, c.IsCanonical}

/-- Those among them that compose the evaluations on a row of a weight to zero. -/
def vanishingVectors (evals : List Felt) (weight : Felt) : Set (List Felt) :=
  {coefficients ∈ coefficientVectors evals.length |
    (composeRow evals coefficients weight).isZero = true}

/-! ### Vectors of residues -/

def vectorOf {count : Nat} (residues : Fin count → ZMod modulus) : List Felt :=
  List.ofFn fun i => Felt.ofResidue (residues i)

theorem vectorOf_injective (count : Nat) :
    Function.Injective (vectorOf : (Fin count → ZMod modulus) → List Felt) := by
  intro residues residues' h
  funext i
  exact Felt.ofResidue_injective (congrFun (List.ofFn_injective h) i)

theorem range_vectorOf (count : Nat) :
    Set.range (vectorOf : (Fin count → ZMod modulus) → List Felt) = coefficientVectors count := by
  ext coefficients
  constructor
  · rintro ⟨residues, rfl⟩
    refine ⟨List.length_ofFn, fun c hc => ?_⟩
    obtain ⟨i, rfl⟩ := (List.mem_ofFn' _ _).1 hc
    exact Felt.isCanonical_ofResidue _
  · rintro ⟨rfl, hcanonical⟩
    refine ⟨fun i => (coefficients.get i).residue, ?_⟩
    have hget : ∀ i : Fin coefficients.length,
        Felt.ofResidue (coefficients.get i).residue = coefficients.get i := fun i =>
      Felt.ofResidue_residue (hcanonical _ (List.get_mem ..))
    rw [vectorOf, funext hget, List.ofFn_get]

theorem ncard_coefficientVectors (count : Nat) :
    (coefficientVectors count).ncard = modulus ^ count := by
  rw [← range_vectorOf, ← Set.image_univ, Set.ncard_image_of_injective _ (vectorOf_injective count),
    Set.ncard_univ, Nat.card_fun, Nat.card_zmod, Nat.card_fin]

/-! ### The linear form of a row -/

/-- The sum of the evaluations, each times its coefficient, as a linear form. -/
def combination (evals : List Felt) :
    (Fin evals.length → ZMod modulus) →ₗ[ZMod modulus] ZMod modulus :=
  Fintype.linearCombination (ZMod modulus) fun i => (evals.get i).residue

theorem natCast_weightedTotal (evals : List Felt) (residues : Fin evals.length → ZMod modulus) :
    (weightedTotal evals (vectorOf residues) : ZMod modulus) = combination evals residues := by
  rw [combination, Fintype.linearCombination_apply, weightedTotal, Finset.sum_range, Nat.cast_sum]
  refine Finset.sum_congr rfl fun i _ => ?_
  have heval : evals.getD i Felt.zero = evals.get i := List.getD_eq_getElem _ _ i.isLt
  have hlen : i < (vectorOf residues).length := by
    rw [vectorOf, List.length_ofFn]
    exact i.isLt
  have hcoefficient : (vectorOf residues).getD i Felt.one = Felt.ofResidue (residues i) := by
    rw [List.getD_eq_getElem _ _ hlen]
    exact List.getElem_ofFn _
  rw [heval, hcoefficient, Nat.cast_mul, smul_eq_mul, mul_comm]
  exact congrArg (· * (evals.get i).residue) (Felt.residue_ofResidue (residues i))

theorem combination_ne_zero {evals : List Felt} (h : ∃ eval ∈ evals, eval.residue ≠ 0) :
    combination evals ≠ 0 := by
  obtain ⟨eval, hmem, hne⟩ := h
  obtain ⟨i, rfl⟩ := List.get_of_mem hmem
  intro hzero
  have hsingle := LinearMap.congr_fun hzero (Pi.single i 1)
  rw [combination, Fintype.linearCombination_apply_single, one_smul] at hsingle
  exact hne hsingle

theorem ncard_ker_combination {evals : List Felt} (h : ∃ eval ∈ evals, eval.residue ≠ 0) :
    ((combination evals).ker : Set (Fin evals.length → ZMod modulus)).ncard =
      modulus ^ (evals.length - 1) := by
  have hdimension : Module.finrank (ZMod modulus) (combination evals).ker + 1 = evals.length := by
    rw [Module.Dual.finrank_ker_add_one_of_ne_zero (combination_ne_zero h), Module.finrank_fin_fun]
  have hexponent : evals.length - 1 = Module.finrank (ZMod modulus) (combination evals).ker := by
    omega
  have hcard : Nat.card (combination evals).ker =
      Nat.card (ZMod modulus) ^ Module.finrank (ZMod modulus) (combination evals).ker :=
    Module.natCard_eq_pow_finrank
  rw [Nat.card_zmod] at hcard
  rw [← Nat.card_coe_set_eq, hexponent]
  exact hcard

theorem isZero_composeRow_vectorOf_iff {evals : List Felt} {weight : Felt}
    (hweight : weight.toNat % modulus ≠ 0) (residues : Fin evals.length → ZMod modulus) :
    (composeRow evals (vectorOf residues) weight).isZero = true ↔
      residues ∈ (combination evals).ker := by
  rw [isZero_composeRow_iff hweight, LinearMap.mem_ker, ← natCast_weightedTotal,
    ZMod.natCast_eq_zero_iff, Nat.dvd_iff_mod_eq_zero]

theorem vanishingVectors_eq {evals : List Felt} {weight : Felt}
    (hweight : weight.toNat % modulus ≠ 0) :
    vanishingVectors evals weight =
      vectorOf '' ((combination evals).ker : Set (Fin evals.length → ZMod modulus)) := by
  ext coefficients
  rw [vanishingVectors, ← range_vectorOf]
  constructor
  · rintro ⟨⟨residues, rfl⟩, hzero⟩
    exact ⟨residues, (isZero_composeRow_vectorOf_iff hweight residues).1 hzero, rfl⟩
  · rintro ⟨residues, hker, rfl⟩
    exact ⟨⟨residues, rfl⟩, (isZero_composeRow_vectorOf_iff hweight residues).2 hker⟩

/-! ### Violated rows -/

/-- On a row with a violated constraint the composition is zero for exactly one coefficient vector
in as many as there are field elements, whatever the number of constraints and the weight. -/
theorem composeRow_hides_violation_rarely {evals : List Felt} {weight : Felt}
    (hevals : ∀ eval ∈ evals, eval.IsCanonical) (hviolated : ∃ eval ∈ evals, eval ≠ Felt.zero)
    (hweight : weight.IsCanonical) (hne : weight ≠ Felt.zero) :
    (coefficientVectors evals.length).ncard = modulus ^ evals.length ∧
      (vanishingVectors evals weight).ncard = modulus ^ (evals.length - 1) ∧
      ((vanishingVectors evals weight).ncard : ℚ) / (coefficientVectors evals.length).ncard =
        1 / modulus := by
  have hscales : weight.toNat % modulus ≠ 0 := by
    rw [hweight.mod]
    exact fun hzero => hne (Felt.eq_zero_iff.2 hzero)
  obtain ⟨eval, hmem, hnonzero⟩ := hviolated
  have hresidue : ∃ eval ∈ evals, eval.residue ≠ 0 :=
    ⟨eval, hmem, fun hzero => hnonzero ((Felt.residue_eq_zero_iff (hevals eval hmem)).1 hzero)⟩
  have hall := ncard_coefficientVectors evals.length
  have hvanishing : (vanishingVectors evals weight).ncard = modulus ^ (evals.length - 1) := by
    rw [vanishingVectors_eq hscales, Set.ncard_image_of_injective _ (vectorOf_injective _),
      ncard_ker_combination hresidue]
  refine ⟨hall, hvanishing, ?_⟩
  have hcount : evals.length = evals.length - 1 + 1 :=
    (Nat.sub_add_cancel (List.length_pos_of_mem hmem)).symm
  have hmodulus : (modulus : ℚ) ≠ 0 := Nat.cast_ne_zero.2 prime_modulus.ne_zero
  rw [hvanishing, hall, Nat.cast_pow, Nat.cast_pow, hcount, Nat.add_sub_cancel, pow_succ]
  field_simp

/-- A constraint that holds beside one that fails, on a row of weight 5: one coefficient vector in
`modulus` of all `modulus ^ 2` hides the failure. -/
theorem composeRow_hides_violation_rarely_two_constraints :
    (∀ eval ∈ [(⟨3⟩ : Felt), ⟨0⟩], eval.IsCanonical) ∧
      (∃ eval ∈ [(⟨3⟩ : Felt), ⟨0⟩], eval ≠ Felt.zero) ∧
      (⟨5⟩ : Felt).IsCanonical ∧ (⟨5⟩ : Felt) ≠ Felt.zero ∧
      (coefficientVectors 2).ncard = modulus ^ 2 ∧
      (vanishingVectors [⟨3⟩, ⟨0⟩] ⟨5⟩).ncard = modulus ^ 1 := by
  have hevals : ∀ eval ∈ [(⟨3⟩ : Felt), ⟨0⟩], eval.IsCanonical := by decide
  have hviolated : ∃ eval ∈ [(⟨3⟩ : Felt), ⟨0⟩], eval ≠ Felt.zero := by decide
  have hweight : (⟨5⟩ : Felt).IsCanonical := by decide
  have hne : (⟨5⟩ : Felt) ≠ Felt.zero := by decide
  obtain ⟨hall, hvanishing, -⟩ := composeRow_hides_violation_rarely hevals hviolated hweight hne
  exact ⟨hevals, hviolated, hweight, hne, hall, hvanishing⟩

end SpotCheck
