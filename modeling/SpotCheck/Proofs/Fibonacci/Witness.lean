import SpotCheck.Fibonacci.Circuit
import SpotCheck.Proofs.Proving

/-!
# The generated trace

The values of the generated sequence are the Fibonacci numbers of its two first values, reduced.
Its trace holds them in column 0 and their squares in column 1. On canonical cells the constraints
can be evaluated, whatever the cells hold.
-/

namespace SpotCheck.Fibonacci

/-! ### The sequence -/

/-- The Fibonacci numbers with two given first values. -/
def fibonacci (first second : Nat) : Nat → Nat
  | 0 => first
  | 1 => second
  | n + 2 => fibonacci first second (n + 1) + fibonacci first second n

/-- The same in the field. -/
def term (first second : Felt) : Nat → Felt
  | 0 => first
  | 1 => second
  | n + 2 => term first second (n + 1) + term first second n

/-- A sequence goes on as the one that starts at its second value. -/
theorem term_succ (first second : Felt) (n : Nat) :
    term first second (n + 1) = term second (second + first) n := by
  induction n using Nat.strongRecOn with
  | ind n ih =>
    match n with
    | 0 => rfl
    | 1 => rfl
    | n + 2 =>
      rw [term, ih (n + 1) (by omega), ih n (by omega), term]

theorem isCanonical_term {first second : Felt} (hfirst : first.IsCanonical)
    (hsecond : second.IsCanonical) (n : Nat) : (term first second n).IsCanonical := by
  match n with
  | 0 => exact hfirst
  | 1 => exact hsecond
  | _ + 2 => exact Felt.isCanonical_add _ _

theorem toNat_term {first second : Felt} (hfirst : first.IsCanonical)
    (hsecond : second.IsCanonical) (n : Nat) :
    (term first second n).toNat = fibonacci first.toNat second.toNat n % modulus := by
  induction n using Nat.strongRecOn with
  | ind n ih =>
    match n with
    | 0 => exact (Nat.mod_eq_of_lt hfirst).symm
    | 1 => exact (Nat.mod_eq_of_lt hsecond).symm
    | n + 2 =>
      rw [term, Felt.toNat_add, ih (n + 1) (by omega), ih n (by omega), ← Nat.add_mod, fibonacci]

theorem toList_extend (count : Nat) (first second : Felt) (done : Array Felt) :
    (extend count first second done).toList =
      done.toList ++ (List.range count).map fun i => term first second (i + 2) := by
  -- The two values in hand move along, so that they are general in the induction.
  induction count generalizing first second done with
  | zero => simp [extend]
  | succ count ih =>
    have hrest : ∀ i, term second (second + first) (i + 2) = term first second (i + 1 + 2) :=
      fun i => (term_succ first second (i + 2)).symm
    rw [extend, ih, Array.toList_push, List.range_succ_eq_map, List.map_cons, List.map_map,
      List.append_assoc]
    simp only [hrest]
    rfl

theorem toList_sequence {first second : Felt} {count : Nat} (h : 2 ≤ count) :
    (sequence first second count).toList = (List.range count).map (term first second) := by
  obtain ⟨rest, rfl⟩ := Nat.exists_eq_add_of_le' h
  rw [sequence, Nat.add_sub_cancel, toList_extend, List.range_succ_eq_map, List.range_succ_eq_map]
  simp [term, Function.comp_def]

/-! ### The trace -/

def traceOf (first second : Felt) (rows : Nat) : Trace :=
  .ofColumns [⟨0, sequence first second rows⟩, ⟨1, (sequence first second rows).map Felt.square⟩]

variable {first second : Felt} {rows : Nat}

theorem size_sequence (h : 2 ≤ rows) : (sequence first second rows).size = rows := by
  rw [← Array.length_toList, toList_sequence h, List.length_map, List.length_range]

theorem numRows_traceOf (h : 2 ≤ rows) : (traceOf first second rows).numRows = rows :=
  size_sequence h

theorem isTable_traceOf : (traceOf first second rows).IsTable where
  nonempty := by simp [traceOf, Trace.ofColumns]
  size := by simp [traceOf, Trace.ofColumns]

theorem getElem?_sequence (h : 2 ≤ rows) {row : Nat} (hrow : row < rows) :
    (sequence first second rows)[row]? = some (term first second row) := by
  rw [← Array.getElem?_toList, toList_sequence h, List.getElem?_map, List.getElem?_range hrow]
  rfl

theorem cell?_zero (h : 2 ≤ rows) {row : Nat} (hrow : row < rows) :
    (traceOf first second rows).cell? 0 row = some (term first second row) :=
  getElem?_sequence h hrow

theorem cell?_one (h : 2 ≤ rows) {row : Nat} (hrow : row < rows) :
    (traceOf first second rows).cell? 1 row = some (term first second row).square := by
  show ((sequence first second rows).map Felt.square)[row]? = _
  rw [Array.getElem?_map, getElem?_sequence h hrow]
  rfl

theorem value_zero (h : 2 ≤ rows) {row : Nat} (hrow : row < rows) :
    (traceOf first second rows).value 0 row = term first second row := by
  rw [Trace.value, cell?_zero h hrow, Option.getD_some]

theorem value_one (h : 2 ≤ rows) {row : Nat} (hrow : row < rows) :
    (traceOf first second rows).value 1 row = (term first second row).square := by
  rw [Trace.value, cell?_one h hrow, Option.getD_some]

theorem back?_sequence (h : 2 ≤ rows) :
    (sequence first second rows).back? = some (term first second (rows - 1)) := by
  rw [Array.back?, size_sequence h, getElem?_sequence h (by omega)]

/-! ### Assertions -/

theorem assertions_eq (first second output : Felt) {rows : Nat} (hrows : 0 < rows) :
    circuit.assertions ⟨[first, second], [output]⟩ rows =
      .ok [⟨0, 0, first⟩, ⟨0, 1, second⟩, ⟨0, rows - 1, output⟩] := by
  have hlast : Word.sub rows 1 = .ok (rows - 1) := Word.sub_eq_ok_iff.2 ⟨rfl, hrows⟩
  show assertions ⟨[first, second], [output]⟩ rows = _
  simp [assertions, hlast, bind, Except.bind]

/-! ### Constraints -/

theorem evaluate_cells (f0 s0 f1 s1 f2 s2 : Felt) :
    evaluate ⟨[f0, s0, f1, s1, f2, s2], 2⟩ = (do
      let step ← f2.sub f1
      let recurrence ← step.sub f0
      let square ← s0.sub f0.square
      let squareTail ← s2.sub f2.square
      .ok [recurrence, square, squareTail]) := rfl

theorem evaluate_isOk {f0 s0 f1 s1 f2 s2 : Felt} (h0 : f0.IsCanonical) (h1 : f1.IsCanonical) :
    ∃ evals, evaluate ⟨[f0, s0, f1, s1, f2, s2], 2⟩ = .ok evals := by
  obtain ⟨step, hstep⟩ := Felt.sub_isOk (a := f2) h1
  obtain ⟨recurrence, hrecurrence⟩ := Felt.sub_isOk (a := step) h0
  obtain ⟨square, hsquare⟩ := Felt.sub_isOk (a := s0) (Felt.isCanonical_square f0)
  obtain ⟨squareTail, htail⟩ := Felt.sub_isOk (a := s2) (Felt.isCanonical_square f2)
  rw [evaluate_cells]
  exact ⟨_, bind_eq_ok_iff.2 ⟨_, hstep, bind_eq_ok_iff.2 ⟨_, hrecurrence,
    bind_eq_ok_iff.2 ⟨_, hsquare, bind_eq_ok_iff.2 ⟨_, htail, rfl⟩⟩⟩⟩⟩

end SpotCheck.Fibonacci
