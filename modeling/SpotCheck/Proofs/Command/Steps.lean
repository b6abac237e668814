import SpotCheck.Command.Run
import SpotCheck.Proofs.Steps

/-!
# Commands that succeed

A command succeeds exactly when each of its steps gives a value. The lemmas here say of each kind of
step when it does, and what is printed and stored then.
-/

namespace SpotCheck.Command

variable {α β ε : Type}

def Progress.print (p : Progress) (pieces : List Piece) : Progress :=
  { p with printed := p.printed ++ pieces }

namespace Step

/-- The step gives the value and leads from one progress to the other. -/
def Gives (step : Step α) (p : Progress) (a : α) (q : Progress) : Prop :=
  step.run.run p = (.ok a, q)

variable {p q : Progress} {a : α} {b : β}

/-! ### Sequences -/

theorem gives_pure {a' : α} : Gives (pure a) p a' q ↔ a' = a ∧ q = p := by
  show (Except.ok a, p) = (Except.ok a', q) ↔ _
  simp [eq_comm]

theorem gives_bind {step : Step α} {next : α → Step β} :
    Gives (step >>= next) p b q ↔ ∃ a r, step.Gives p a r ∧ (next a).Gives r b q := by
  -- The state is threaded through a pair, on which the second step depends by its first component.
  have hrun : (step >>= next).run.run p =
      match step.run.run p with
      | (.ok a, r) => (next a).run.run r
      | (.error e, r) => (.error e, r) := by
    show (ExceptT.bindCont next (step.run.run p).1).run (step.run.run p).2 = _
    rcases step.run.run p with ⟨_ | _, r⟩ <;> rfl
  unfold Gives
  rw [hrun]
  rcases step.run.run p with ⟨e | a, r⟩
  · constructor
    · intro h
      cases h
    · intro h
      obtain ⟨_, _, h, _⟩ := h
      cases h
  · constructor
    · intro h
      exact ⟨a, r, rfl, h⟩
    · intro h
      obtain ⟨_, _, hstep, h⟩ := h
      cases hstep
      exact h

theorem gives_ite {c : Prop} [Decidable c] {step other : Step α} :
    Gives (if c then step else other) p a q ↔ c ∧ step.Gives p a q ∨ ¬ c ∧ other.Gives p a q := by
  by_cases h : c <;> simp [h]

theorem gives_get {r : Progress} : Gives (get : Step Progress) p r q ↔ r = p ∧ q = p := by
  show (Except.ok p, p) = (Except.ok r, q) ↔ _
  simp [eq_comm]

theorem gives_set {r : Progress} {u : PUnit} : Gives (set r : Step PUnit) p u q ↔ q = r := by
  show (Except.ok PUnit.unit, r) = (Except.ok u, q) ↔ _
  simp [eq_comm]

theorem not_gives_fail {chain : List String} : ¬ Gives (fail chain : Step α) p a q := by
  show ¬ (Except.error (Halt.refused chain), p) = (Except.ok a, q)
  simp

/-! ### Steps of commands -/

theorem gives_line {text : String} {u : Unit} :
    (line text).Gives p u q ↔ q = p.print [.text (text ++ "\n")] := by
  show (Except.ok PUnit.unit, p.print _) = (Except.ok u, q) ↔ _
  simp [eq_comm]

theorem gives_timedLine {before after : String} {u : Unit} :
    (timedLine before after).Gives p u q ↔
      q = p.print [.text before, .elapsed, .text (after ++ "\n")] := by
  show (Except.ok PUnit.unit, p.print _) = (Except.ok u, q) ↔ _
  simp [eq_comm]

theorem gives_expect {words : List String} {chain : ε → List String} {outcome : Outcome ε α} :
    (expect words chain outcome).Gives p a q ↔ outcome = .ok a ∧ q = p := by
  cases outcome with
  | error stop =>
    cases stop with
    | refused e =>
      show (Except.error (Halt.refused (words ++ chain e)), p) = (Except.ok a, q) ↔ _
      simp
    | fault f =>
      show (Except.error (Halt.fault f), p) = (Except.ok a, q) ↔ _
      simp
  | ok a' =>
    show (Except.ok a', p) = (Except.ok a, q) ↔ _
    simp [eq_comm]

theorem gives_readText {name text : String} :
    (readText name).Gives p text q ↔ p.files.readText name = .ok text ∧ q = p := by
  simp only [readText, gives_bind, gives_get, gives_expect, Outcome.ofResult_eq_ok_iff]
  simp

theorem gives_store {words : List String} {chain : ε → List String}
    {change : Files → Except ε Files} {u : Unit} :
    (store words chain change).Gives p u q ↔
      ∃ files, change p.files = .ok files ∧ q = { p with files := files } := by
  simp only [store, gives_bind, gives_get, gives_expect, gives_set, Outcome.ofResult_eq_ok_iff]
  simp

end Step

/-! ### Reports -/

theorem report_of_gives {step : Step Unit} {files : Files} {q : Progress}
    (h : step.Gives ⟨[], files⟩ () q) : step.report files = ⟨q.printed, q.files, .success⟩ := by
  rw [Step.report, h]

theorem report_iff {step : Step Unit} {files after : Files} :
    (step.report files).ending = .success ∧ (step.report files).files = after ↔
      ∃ q, step.Gives ⟨[], files⟩ () q ∧ q.files = after := by
  constructor
  · intro h
    obtain ⟨hending, hfiles⟩ := h
    unfold Step.report at hending hfiles
    split at hending
    case h_1 q hstep =>
      rw [hstep] at hfiles
      exact ⟨q, hstep, hfiles⟩
    all_goals cases hending
  · intro h
    obtain ⟨q, hstep, hfiles⟩ := h
    rw [report_of_gives hstep]
    exact ⟨rfl, hfiles⟩

theorem ending_report_iff {step : Step Unit} {files : Files} :
    (step.report files).ending = .success ↔ ∃ q, step.Gives ⟨[], files⟩ () q := by
  constructor
  · intro h
    obtain ⟨q, hstep, -⟩ := report_iff.1 ⟨h, rfl⟩
    exact ⟨q, hstep⟩
  · intro h
    obtain ⟨q, hstep⟩ := h
    exact (report_iff.2 ⟨q, hstep, rfl⟩).1

end SpotCheck.Command
