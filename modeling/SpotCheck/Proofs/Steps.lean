import Mathlib.Algebra.Group.Nat.Defs
import Mathlib.Data.List.Forall2
import SpotCheck.Word

/-!
# Steps in sequence

A computation that may stop early gives a value exactly when all its steps do. The lemmas here open
a sequence of steps, a traversal of a list and the operations on words in that sense. A traversal
is opened by a relation between the two lists, element by element.
-/

namespace SpotCheck

section Sequences

variable {ε α β γ : Type}

theorem bind_eq_ok_iff {x : Except ε α} {f : α → Except ε β} {b : β} :
    (x >>= f) = .ok b ↔ ∃ a, x = .ok a ∧ f a = .ok b := by
  cases x with
  | error e => simp [bind, Except.bind]
  | ok a => simp [bind, Except.bind]

theorem map_eq_ok_iff {x : Except ε α} {f : α → β} {b : β} :
    x.map f = .ok b ↔ ∃ a, x = .ok a ∧ f a = b := by
  cases x with
  | error e => simp [Except.map]
  | ok a => simp [Except.map]

theorem mapError_eq_ok_iff {x : Except ε α} {f : ε → β} {a : α} :
    x.mapError f = .ok a ↔ x = .ok a := by
  cases x with
  | error e => simp [Except.mapError]
  | ok a => simp [Except.mapError]

/-- A check that stops a computation has to be passed, and then leaves it as it is. -/
theorem ite_error_bind_eq_ok_iff {p : Prop} [Decidable p] {e : ε} {f : α → Except ε β}
    {x : Except ε β} {b : β} :
    (if p then (Except.error e >>= f) else x) = .ok b ↔ ¬ p ∧ x = .ok b := by
  by_cases h : p <;> simp [h, bind, Except.bind]

theorem ite_eq_ok_iff {p : Prop} [Decidable p] {e : ε} {a b : α} :
    (if p then .ok a else .error e) = Except.ok b ↔ a = b ∧ p := by
  by_cases h : p <;> simp [h]

/-- A traversal succeeds with a list if and only if each step succeeds with its element. -/
theorem mapM_eq_ok_iff {f : α → Except ε β} {xs : List α} {ys : List β} :
    xs.mapM f = .ok ys ↔ List.Forall₂ (fun x y => f x = .ok y) xs ys := by
  induction xs generalizing ys with
  | nil =>
    simp only [List.mapM_nil, pure, Except.pure, Except.ok.injEq, List.forall₂_nil_left_iff]
    exact eq_comm
  | cons x xs ih =>
    rw [List.mapM_cons, bind_eq_ok_iff]
    simp only [bind_eq_ok_iff, ih, pure, Except.pure, Except.ok.injEq, List.forall₂_cons_left_iff]
    constructor
    · intro h
      obtain ⟨y, hy, rest, hrest, rfl⟩ := h
      exact ⟨y, rest, hy, hrest, rfl⟩
    · intro h
      obtain ⟨y, rest, hy, hrest, rfl⟩ := h
      exact ⟨y, hy, rest, hrest, rfl⟩

/-- The same for a traversal that may find nothing. -/
theorem mapM_eq_some_iff {f : α → Option β} {xs : List α} {ys : List β} :
    xs.mapM f = some ys ↔ List.Forall₂ (fun x y => f x = some y) xs ys := by
  induction xs generalizing ys with
  | nil =>
    simp only [List.mapM_nil, pure, Option.some.injEq, List.forall₂_nil_left_iff]
    exact eq_comm
  | cons x xs ih =>
    rw [List.mapM_cons]
    simp only [Option.bind_eq_bind, Option.bind_eq_some_iff, ih, pure, Option.some.injEq,
      List.forall₂_cons_left_iff]
    constructor
    · intro h
      obtain ⟨y, hy, rest, hrest, rfl⟩ := h
      exact ⟨y, rest, hy, hrest, rfl⟩
    · intro h
      obtain ⟨y, rest, hy, hrest, rfl⟩ := h
      exact ⟨y, hy, rest, hrest, rfl⟩

theorem forall₂_of_forall_exists {r : α → β → Prop} {xs : List α} (h : ∀ x ∈ xs, ∃ y, r x y) :
    ∃ ys, List.Forall₂ r xs ys := by
  induction xs with
  | nil => exact ⟨[], .nil⟩
  | cons x xs ih =>
    obtain ⟨⟨y, hy⟩, hrest⟩ := List.forall_mem_cons.1 h
    obtain ⟨ys, hys⟩ := ih hrest
    exact ⟨y :: ys, .cons hy hys⟩

theorem exists_left_of_mem {r : α → β → Prop} {xs : List α} {ys : List β}
    (h : List.Forall₂ r xs ys) {y : β} (hy : y ∈ ys) : ∃ x ∈ xs, r x y := by
  induction h with
  | nil => cases hy
  | cons hxy _ ih =>
    rcases List.mem_cons.1 hy with rfl | hy
    · exact ⟨_, List.mem_cons_self, hxy⟩
    · obtain ⟨x, hx, hr⟩ := ih hy
      exact ⟨x, List.mem_cons_of_mem _ hx, hr⟩

/-- The element at a position on the left has its partner at the same position. -/
theorem exists_getElem?_right {r : α → β → Prop} {xs : List α} {ys : List β}
    (h : List.Forall₂ r xs ys) {i : Nat} {x : α} (hx : xs[i]? = some x) :
    ∃ y, ys[i]? = some y ∧ r x y := by
  induction h generalizing i with
  | nil => cases hx
  | cons hxy _ ih =>
    cases i with
    | zero =>
      cases hx
      exact ⟨_, rfl, hxy⟩
    | succ i => exact ih hx

theorem exists_right_of_mem {r : α → β → Prop} {xs : List α} {ys : List β}
    (h : List.Forall₂ r xs ys) {x : α} (hx : x ∈ xs) : ∃ y ∈ ys, r x y :=
  exists_left_of_mem h.flip hx

/-- Two lists are equal when their elements at one place are. -/
theorem eq_of_forall₂ {r : α → β → Prop} {xs : List α} {ys zs : List β}
    (hys : List.Forall₂ r xs ys) (hzs : List.Forall₂ r xs zs)
    (heq : ∀ x y z, (x, y) ∈ xs.zip ys → (x, z) ∈ xs.zip zs → r x y → r x z → y = z) :
    ys = zs := by
  induction hys generalizing zs with
  | nil =>
    cases hzs
    rfl
  | cons hxy _ ih =>
    cases hzs with
    | cons hxz hrest =>
      have hfirst := heq _ _ _ (by simp) (by simp) hxy hxz
      have htail := ih hrest fun x y z hy hz =>
        heq x y z (List.mem_cons_of_mem _ hy) (List.mem_cons_of_mem _ hz)
      rw [hfirst, htail]

/-- Two traversals, one after the other, are one. -/
theorem exists_forall₂_iff {r : α → β → Prop} {s : β → γ → Prop} {xs : List α} {zs : List γ} :
    (∃ ys, List.Forall₂ r xs ys ∧ List.Forall₂ s ys zs) ↔
      List.Forall₂ (fun x z => ∃ y, r x y ∧ s y z) xs zs := by
  constructor
  · intro h
    obtain ⟨ys, hr, hs⟩ := h
    induction hr generalizing zs with
    | nil =>
      cases hs
      exact .nil
    | cons hxy _ ih =>
      cases hs with
      | cons hyz hrest => exact .cons ⟨_, hxy, hyz⟩ (ih hrest)
  · intro h
    induction h with
    | nil => exact ⟨[], .nil, .nil⟩
    | cons hxz _ ih =>
      obtain ⟨y, hxy, hyz⟩ := hxz
      obtain ⟨ys, hr, hs⟩ := ih
      exact ⟨y :: ys, .cons hxy hr, .cons hyz hs⟩

theorem forM_eq_ok_iff {f : α → Except ε PUnit} {xs : List α} :
    xs.forM f = .ok () ↔ ∀ x ∈ xs, f x = .ok () := by
  induction xs with
  | nil => simp [pure, Except.pure]
  | cons x xs ih =>
    show (f x >>= fun _ => xs.forM f) = .ok () ↔ ∀ y ∈ x :: xs, f y = .ok ()
    rw [bind_eq_ok_iff, List.forall_mem_cons, ← ih]
    exact ⟨fun ⟨_, hx, hxs⟩ => ⟨hx, hxs⟩, fun ⟨hx, hxs⟩ => ⟨(), hx, hxs⟩⟩

end Sequences

/-! ### Words -/

namespace Word

theorem limit_eq : limit = 2 ^ 64 := rfl

theorem add_eq_ok_iff {a b c : Nat} : add a b = .ok c ↔ a + b = c ∧ a + b < limit := by
  unfold add
  exact ite_eq_ok_iff

theorem sub_eq_ok_iff {a b c : Nat} : sub a b = .ok c ↔ a - b = c ∧ b ≤ a := by
  unfold sub
  exact ite_eq_ok_iff

theorem mul_eq_ok_iff {a b c : Nat} : mul a b = .ok c ↔ a * b = c ∧ a * b < limit := by
  unfold mul
  exact ite_eq_ok_iff

theorem reserve_eq_ok_iff {count size : Nat} :
    reserve count size = .ok () ↔ count * size ≤ maxAllocation := by
  unfold reserve
  rw [ite_eq_ok_iff]
  simp

theorem isPowerOfTwo_two_pow (k : Nat) : IsPowerOfTwo (2 ^ k) := by
  refine ⟨?_, Nat.pos_iff_ne_zero.1 (Nat.two_pow_pos k)⟩
  rw [Nat.log2_two_pow, Nat.one_shiftLeft]

end Word

end SpotCheck
