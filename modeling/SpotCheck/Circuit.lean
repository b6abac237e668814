import SpotCheck.PublicInputs
import SpotCheck.Trace

/-!
# Circuits

A circuit says which traces are good: constraints that every window of rows satisfies, and
assertions that pin single cells to values taken from the public inputs. The constraints of a row
are composed into one field element by random coefficients. A trace is checked row by row, and
`violations_eq_flatten` says that this finds what each row gives, in order.
-/

namespace SpotCheck

structure Assertion where
  column : Nat
  row : Nat
  value : Felt
  deriving DecidableEq

structure Circuit where
  id : String
  numColumns : Nat
  /-- Rows in a frame. -/
  window : Nat := 1
  /-- The constraints on a frame; all zero when they hold. -/
  evaluate : Frame → Except Fault (List Felt)
  constraintNames : List String
  /-- The assertions for public inputs and a number of rows. -/
  assertions : PublicInputs → Nat → Outcome ProvingError (List Assertion)
  /-- The number of rows, of so many, on which the constraints are enforced. Unless a circuit
  says otherwise, these are the rows at which a frame starts. -/
  enforcedRows : Nat → Nat := fun rows => rows - (window - 1)

/-! ### Composition -/

/-- Each evaluation times its coefficient, which is one where there is none. -/
def weighted : List Felt → List Felt → List Felt
  | [], _ => []
  | eval :: evals, [] => eval * Felt.one :: weighted evals []
  | eval :: evals, coefficient :: coefficients =>
    eval * coefficient :: weighted evals coefficients

/-- The weighted sum of the evaluations at a row, times the weight of the row. -/
def composeRow (evals coefficients : List Felt) (weight : Felt) : Felt :=
  Felt.sum (weighted evals coefficients) * weight

/-- The composition of each row; a row without a weight has weight one. -/
def composeRows : List (List Felt) → List Felt → List Felt → List Felt
  | [], _, _ => []
  | evals :: rows, coefficients, [] =>
    composeRow evals coefficients Felt.one :: composeRows rows coefficients []
  | evals :: rows, coefficients, weight :: weights =>
    composeRow evals coefficients weight :: composeRows rows coefficients weights

/-! ### Checking a trace -/

namespace Circuit

def constraintName (c : Circuit) (index : Nat) : String :=
  c.constraintNames.getD index ("constraint_" ++ toString index)

/-- The constraints that fail at a row, in order. -/
def rowViolations (c : Circuit) (t : Trace) (row : Nat) : Except Fault (List (Nat × String)) := do
  match ← Frame.ofTrace t row c.window with
  | none => .ok [(row, "frame_out_of_bounds")]
  | some frame =>
    let evals ← c.evaluate frame
    .ok (evals.zipIdx.filterMap fun (eval, index) =>
      if eval.isZero then none else some (row, c.constraintName index))

/-- The constraints that fail on so many rows from a row on, after those found before, the
latest first. The rows are visited one by one: a circuit may enforce more of them than could be
listed, and the first fault ends the walk. -/
def violationsFrom (c : Circuit) (t : Trace) (row : Nat) :
    Nat → List (Nat × String) → Except Fault (List (Nat × String))
  | 0, found => .ok found
  | count + 1, found =>
    match c.rowViolations t row with
    | .error f => .error f
    | .ok here => c.violationsFrom t (row + 1) count (here.reverse ++ found)

/-- The constraints that fail anywhere, row by row. -/
def violations (c : Circuit) (t : Trace) : Except Fault (List (Nat × String)) := do
  let found ← c.violationsFrom t 0 (c.enforcedRows t.numRows) []
  .ok found.reverse

/-- The walk finds what the rows give one after another, and keeps it in reverse. -/
theorem violationsFrom_eq (c : Circuit) (t : Trace) (row count : Nat)
    (found : List (Nat × String)) :
    c.violationsFrom t row count found =
      ((List.range' row count).mapM (c.rowViolations t)).map
        fun rows => rows.flatten.reverse ++ found := by
  induction count generalizing row found with
  | zero => simp [violationsFrom, pure, Except.pure, Except.map]
  | succ count ih =>
    rw [violationsFrom, List.range'_succ, List.mapM_cons]
    cases c.rowViolations t row with
    | error f => rfl
    | ok here =>
      simp only [ih]
      cases (List.range' (row + 1) count).mapM (c.rowViolations t) with
      | error f => rfl
      | ok rest => simp [bind, Except.bind, pure, Except.pure, Except.map]

/-- No row is passed over: the walk finds what a list of all rows would give. -/
theorem violations_eq_flatten (c : Circuit) (t : Trace) :
    c.violations t =
      ((List.range (c.enforcedRows t.numRows)).mapM (c.rowViolations t)).map List.flatten := by
  rw [violations, violationsFrom_eq, List.range_eq_range']
  cases (List.range' 0 (c.enforcedRows t.numRows)).mapM (c.rowViolations t) with
  | error f => rfl
  | ok rows => simp [bind, Except.bind, Except.map]

end Circuit

/-- The cell of an assertion exists and holds its value. -/
def Assertion.check (a : Assertion) (t : Trace) : Except ProvingError Unit :=
  match t.cell? a.column a.row with
  | none => .error (.cellOutside a.row a.column)
  | some actual =>
    if actual = a.value then .ok () else .error (.boundary a.row a.column actual a.value)

/-- All assertions hold; the first that does not is reported. -/
def checkBoundary (t : Trace) (assertions : List Assertion) : Except ProvingError Unit :=
  assertions.forM (·.check t)

end SpotCheck
