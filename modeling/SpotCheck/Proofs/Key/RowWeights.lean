import Mathlib.Algebra.BigOperators.Group.Finset.Basic
import SpotCheck.Proofs.Key.Codec
import SpotCheck.Proofs.ReferenceString.File

/-!
# The weights of rows

The weight of a row is a power of an element that is not zero, and the modulus is prime. Hence a
weight scales what the constraints of its row are composed to, and never makes it zero: a row on
which the weighted evaluations do not add up to zero is seen, whichever row is sampled.
-/

namespace SpotCheck

/-! ### Compositions -/

/-- The sum of the evaluations, each times its coefficient, in whole numbers. An evaluation without
a coefficient counts once. -/
def weightedTotal (evals coefficients : List Felt) : Nat :=
  ∑ i ∈ Finset.range evals.length,
    (evals.getD i Felt.zero).toNat * (coefficients.getD i Felt.one).toNat

theorem weightedTotal_cons (eval : Felt) (evals coefficients : List Felt) :
    weightedTotal (eval :: evals) coefficients =
      weightedTotal evals coefficients.tail + eval.toNat * (coefficients.headD Felt.one).toNat := by
  rw [weightedTotal, List.length_cons, Finset.sum_range_succ']
  cases coefficients with
  | nil => rfl
  | cons coefficient coefficients => rfl

theorem weighted_cons (eval : Felt) (evals coefficients : List Felt) :
    weighted (eval :: evals) coefficients =
      eval * coefficients.headD Felt.one :: weighted evals coefficients.tail := by
  cases coefficients with
  | nil => rfl
  | cons coefficient coefficients => rfl

theorem sum_toNat_weighted (evals coefficients : List Felt) :
    ((weighted evals coefficients).map Felt.toNat).sum % modulus =
      weightedTotal evals coefficients % modulus := by
  induction evals generalizing coefficients with
  | nil => rfl
  | cons eval evals ih =>
    rw [weighted_cons, List.map_cons, List.sum_cons, Felt.toNat_mul, weightedTotal_cons,
      Nat.mod_add_mod, Nat.add_comm, Nat.add_mod, ih, ← Nat.add_mod]

theorem isZero_composeRow_iff {weight : Felt} (hweight : weight.toNat % modulus ≠ 0)
    (evals coefficients : List Felt) :
    (composeRow evals coefficients weight).isZero = true ↔
      weightedTotal evals coefficients % modulus = 0 := by
  rw [Felt.isZero_iff, composeRow, Felt.mul_eq_zero_iff, or_iff_left hweight, Felt.toNat_sum,
    Nat.mod_mod, sum_toNat_weighted]

/-! ### Weights -/

namespace Key

/-- The key was read from its stored form against the string, or set up from the string for a
circuit that enforces its constraints on all rows at which a frame starts. -/
def IsStandardFor (key : Key) (string : ReferenceString) : Prop :=
  (∃ stored, ofBytes stored string = .ok key) ∨
    ∃ c logRows inputs config, (∀ rows, c.enforcedRows rows = rows - (c.window - 1)) ∧
      setup c logRows inputs config string = .ok key

variable {key : Key} {string : ReferenceString}

theorem IsStandardFor.rowWeights (h : key.IsStandardFor string) :
    string.take? key.transitionRows = .ok key.rowWeights := by
  rcases h with ⟨stored, hread⟩ | ⟨c, logRows, inputs, config, hdefault, hsetup⟩
  · exact (ofBytes_eq_ok_iff.1 hread).2.1.rowWeights
  · have hkey := isOf_of_setup hsetup
    rw [← hkey.enforcedRows_eq hdefault]
    exact hkey.rowWeights

theorem getElem?_points_of_lt (hweights : string.take? key.transitionRows = .ok key.rowWeights)
    {row : Nat} (hrow : row < key.transitionRows) :
    string.points[row]? = some (key.rowWeight row) := by
  obtain ⟨hpoints, hle⟩ := ReferenceString.take?_eq_ok_iff.1 hweights
  have hweight : key.rowWeights[row]? = string.points[row]? := by
    rw [← hpoints, List.getElem?_take_of_lt hrow]
  rw [rowWeight, List.getD_eq_getElem?_getD, hweight, List.getElem?_eq_getElem (by omega),
    Option.getD_some]

/-- The weight of each row at which a frame starts is the power of the second point of the string
with the row as exponent, and is not zero. So the composition on the row is zero if and only if the
evaluations, times their coefficients, add up to zero; the rows that a proof is asked for are among
these. -/
theorem rowWeight_hides_nothing {key : Key} {string : ReferenceString} (hstring : string.IsMade)
    (hkey : key.IsStandardFor string) :
    (∀ row < key.transitionRows, (key.rowWeight row).IsCanonical ∧
      (key.rowWeight row).toNat = string.tau.toNat ^ row % modulus ∧
      key.rowWeight row ≠ Felt.zero ∧
      ∀ evals coefficients, (composeRow evals coefficients (key.rowWeight row)).isZero = true ↔
        weightedTotal evals coefficients % modulus = 0) ∧
    ∀ inputs roots ch, Challenges.draw key inputs roots = .ok ch → ∀ row ∈ ch.rows,
      ∀ evals, (composeRow evals ch.coefficients (key.rowWeight row)).isZero = true ↔
        weightedTotal evals ch.coefficients % modulus = 0 := by
  have hpoint : ∀ row < key.transitionRows, (key.rowWeight row).IsCanonical ∧
      (key.rowWeight row).toNat = string.tau.toNat ^ row % modulus ∧
      (key.rowWeight row).toNat % modulus ≠ 0 := fun row hrow =>
    hstring.isProgression.getElem? (getElem?_points_of_lt hkey.rowWeights hrow)
  refine ⟨fun row hrow => ?_, fun inputs roots ch hdraw row hrow evals => ?_⟩
  · obtain ⟨hcanonical, hvalue, hne⟩ := hpoint row hrow
    refine ⟨hcanonical, hvalue, fun hzero => ?_, isZero_composeRow_iff hne⟩
    rw [hzero] at hne
    exact hne rfl
  · obtain ⟨-, -, hne⟩ := hpoint row ((Challenges.suits_of_draw hdraw).below row hrow)
    exact isZero_composeRow_iff hne evals ch.coefficients

end Key

namespace Constant

def threePointsKey : Key where
  circuitId := "constant"
  logRows := 2
  numColumns := 1
  window := 2
  numConstraints := 1
  numBoundary := 1
  numQueries := 1
  stringDigest := ReferenceString.pointsDigest [⟨1⟩, ⟨3⟩, ⟨9⟩]
  rowWeights := [⟨1⟩, ⟨3⟩, ⟨9⟩]
  one_le_logRows := Nat.le_add_left 1 1
  logRows_le := Nat.le_add_right 2 22
  one_le_window := Nat.le_add_left 1 1
  window_le := by decide

theorem setup_eq_threePointsKey :
    Key.setup circuit 2 .empty ⟨1⟩ ⟨[⟨1⟩, ⟨3⟩, ⟨9⟩]⟩ = .ok threePointsKey := rfl

end Constant

/-- The last of three rows weighs the square of the second point. Two evaluations that cancel out
are composed to zero on it, and two that differ by three are not. -/
theorem Key.rowWeight_hides_nothing_three_points :
    Key.setup Constant.circuit 2 .empty ⟨1⟩ ⟨[⟨1⟩, ⟨3⟩, ⟨9⟩]⟩ = .ok Constant.threePointsKey ∧
      (Constant.threePointsKey.rowWeight 2).toNat = 3 ^ 2 % modulus ∧
      (composeRow [⟨5⟩, ⟨5⟩] [⟨0x7ffffffe⟩] (Constant.threePointsKey.rowWeight 2)).isZero = true ∧
      ¬ (composeRow [⟨5⟩, ⟨2⟩] [⟨0x7ffffffe⟩] (Constant.threePointsKey.rowWeight 2)).isZero =
        true := by
  have hmade : ReferenceString.IsMade ⟨[⟨1⟩, ⟨3⟩, ⟨9⟩]⟩ :=
    .inr (.inl ⟨[⟨1⟩, ⟨3⟩, ⟨9⟩], by decide⟩)
  have hstandard : Constant.threePointsKey.IsStandardFor ⟨[⟨1⟩, ⟨3⟩, ⟨9⟩]⟩ :=
    .inr ⟨_, _, _, _, fun _ => rfl, Constant.setup_eq_threePointsKey⟩
  obtain ⟨-, hvalue, -, hzero⟩ :=
    (Key.rowWeight_hides_nothing hmade hstandard).1 2 (by decide)
  refine ⟨Constant.setup_eq_threePointsKey, hvalue, (hzero _ _).2 ?_, fun h => ?_⟩
  · decide
  · have htotal := (hzero _ _).1 h
    revert htotal
    decide

end SpotCheck
