import Mathlib.Data.Finset.Card
import Mathlib.Logic.Function.Iterate
import SpotCheck.Proofs.ReferenceString.Progression

/-!
# The search for an element

A seed is hashed until the element at the front of the digest is neither zero nor one. A digest is
one of `2 ^ 256`, so that digests without success come round again within so many steps: the search
stops early only where it would never end.
-/

namespace SpotCheck

/-! ### Orbits -/

section Orbits

variable {α : Type} {f : α → α} {number : α → Nat} {bound : Nat}

/-- Among one step more than there are values, two steps lead to the same value. -/
theorem exists_iterate_eq (hinj : Function.Injective number) (hlt : ∀ a, number a < bound)
    (a : α) : ∃ i j, i < j ∧ j ≤ bound ∧ f^[i] a = f^[j] a := by
  have hcard : (Finset.range bound).card < (Finset.range (bound + 1)).card := by
    rw [Finset.card_range, Finset.card_range]
    exact Nat.lt_succ_self bound
  have hmaps : ∀ i ∈ Finset.range (bound + 1), number (f^[i] a) ∈ Finset.range bound :=
    fun i _ => Finset.mem_range.2 (hlt _)
  obtain ⟨i, hi, j, hj, hne, heq⟩ := Finset.exists_ne_map_eq_of_card_lt_of_maps_to hcard hmaps
  have hsame : f^[i] a = f^[j] a := hinj heq
  rw [Finset.mem_range] at hi hj
  rcases Nat.lt_or_gt_of_ne hne with hij | hji
  · exact ⟨i, j, hij, by omega, hsame⟩
  · exact ⟨j, i, hji, by omega, hsame.symm⟩

/-- Whatever is reached is reached within as many steps as there are values. -/
theorem exists_iterate_lt (hinj : Function.Injective number) (hlt : ∀ a, number a < bound)
    (a : α) (n : Nat) : ∃ i < bound, f^[i] a = f^[n] a := by
  obtain ⟨i, j, hij, hj, hsame⟩ := exists_iterate_eq (f := f) hinj hlt a
  induction n using Nat.strong_induction_on with
  | _ n ih =>
    by_cases hn : n < j
    · exact ⟨n, by omega, rfl⟩
    · -- The way from the second visit on is the way from the first one on.
      have hback : f^[n - j + i] a = f^[n] a := by
        rw [Function.iterate_add_apply, hsame, ← Function.iterate_add_apply,
          Nat.sub_add_cancel (Nat.not_lt.1 hn)]
      obtain ⟨k, hk, hreach⟩ := ih (n - j + i) (by omega)
      exact ⟨k, hk, hreach.trans hback⟩

end Orbits

theorem Digest.number_injective :
    Function.Injective fun d : Digest => Bytes.ofLittleEndian d.bytes := by
  intro d d' h
  apply Digest.ext_bytes
  have hbytes := Bytes.littleEndian_ofLittleEndian d.bytes
  have hbytes' := Bytes.littleEndian_ofLittleEndian d'.bytes
  rw [d.length_bytes] at hbytes
  rw [d'.length_bytes] at hbytes'
  rw [← hbytes, ← hbytes']
  exact congrArg (Bytes.littleEndian 32) h

theorem Digest.number_lt (d : Digest) : Bytes.ofLittleEndian d.bytes < 1 <<< 256 := by
  have hlt := Bytes.ofLittleEndian_lt d.bytes
  rwa [d.length_bytes] at hlt

namespace ReferenceString

/-! ### Candidates -/

/-- The digest that is looked at after one without success. -/
def rehash (d : Digest) : Digest := Digest.ofMessage (tauDomain ++ d.bytes)

/-- The digest that is looked at in a step of the search. -/
def candidate (seed : Bytes) (step : Nat) : Digest :=
  rehash^[step] (Digest.ofMessage (tauDomain ++ seed))

/-- Some step of the search comes upon an element that is neither zero nor one. -/
def SearchEnds (seed : Bytes) : Prop := ∃ step, 2 ≤ (tauOf (candidate seed step)).toNat

theorem searchTau_isOk_iff {budget : Nat} {d : Digest} :
    (∃ tau, searchTau budget d = .ok tau) ↔
      ∃ step < budget, 2 ≤ (tauOf (rehash^[step] d)).toNat := by
  induction budget generalizing d with
  | zero => simp [searchTau]
  | succ budget ih =>
    rw [searchTau]
    by_cases hlow : (tauOf d).toNat ≤ 1
    · rw [if_pos hlow]
      refine ih.trans ⟨fun h => ?_, fun h => ?_⟩
      · obtain ⟨step, hstep, htwo⟩ := h
        exact ⟨step + 1, by omega, htwo⟩
      · obtain ⟨step, hstep, htwo⟩ := h
        cases step with
        | zero => exact absurd htwo (Nat.not_le.2 (Nat.lt_succ_of_le hlow))
        | succ step => exact ⟨step, by omega, htwo⟩
    · rw [if_neg hlow]
      exact ⟨fun _ => ⟨0, by omega, Nat.not_le.1 hlow⟩, fun _ => ⟨_, rfl⟩⟩

/-- The search gives an element whenever some step, however late, comes upon one. -/
theorem tauOfSeed_isOk_iff {seed : Bytes} :
    (∃ tau, tauOfSeed seed = .ok tau) ↔ SearchEnds seed := by
  refine searchTau_isOk_iff.trans ⟨fun h => ?_, fun h => ?_⟩
  · obtain ⟨step, -, htwo⟩ := h
    exact ⟨step, htwo⟩
  · obtain ⟨step, htwo⟩ := h
    obtain ⟨early, hearly, hsame⟩ := exists_iterate_lt (f := rehash) Digest.number_injective
      Digest.number_lt (Digest.ofMessage (tauDomain ++ seed)) step
    refine ⟨early, hearly, ?_⟩
    rw [hsame]
    exact htwo

end ReferenceString

end SpotCheck
