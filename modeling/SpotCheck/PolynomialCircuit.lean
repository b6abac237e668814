import SpotCheck.Circuit

/-!
# Circuits given by polynomials

A circuit written down as data: every constraint is a sum of terms, a term a coefficient times
cells of the frame, and every assertion pins a cell to a constant or to one of the public inputs.
-/

namespace SpotCheck

/-- A coefficient and the cells, by offset and column, that it is multiplied by. -/
structure Term where
  coefficient : Felt
  cells : List (Nat × Nat)

namespace Term

def eval (term : Term) (frame : Frame) : Except Fault Felt :=
  term.cells.foldlM (fun product (offset, column) => do
    let cell ← frame.get offset column
    .ok (product * cell)) term.coefficient

end Term

inductive PinnedValue where
  | constant (value : Felt)
  | initial (index : Nat)
  | final (index : Nat)

namespace PinnedValue

/-- The value for given public inputs, if they have it. -/
def resolve? : PinnedValue → PublicInputs → Option Felt
  | constant value, _ => some value
  | initial index, inputs => inputs.initial[index]?
  | final index, inputs => inputs.final[index]?

end PinnedValue

/-- A pinned cell; a negative row counts from the end. -/
structure PinnedCell where
  column : Nat
  row : Int
  value : PinnedValue

namespace PinnedCell

/-- The row of a trace with so many rows. A negative row is added to their number in signed
words, and the sum is taken as a word again: a row before the first one is far beyond the last. -/
def rowOf (cell : PinnedCell) (rows : Nat) : Except Fault Nat :=
  if 0 ≤ cell.row then .ok cell.row.toNat
  else do
    let row ← Word.addSigned (Word.toSigned rows) cell.row
    .ok (Word.ofSigned row)

def toAssertion (cell : PinnedCell) (inputs : PublicInputs) (rows : Nat) :
    Outcome ProvingError Assertion := do
  let row ← Outcome.ofFaulting (cell.rowOf rows)
  match cell.value.resolve? inputs with
  | some value => .ok ⟨cell.column, row, value⟩
  | none => Outcome.refuse (.circuit .witness "missing public input")

end PinnedCell

structure PolynomialCircuit where
  id : String
  numColumns : Nat
  window : Nat
  constraintNames : List String
  polynomials : List (List Term)
  /-- The pinned cells, or the reason for which every public input is refused. -/
  boundary : Except String (List PinnedCell)
  /-- A fixed number of enforced rows in place of the usual one. -/
  enforcedRows : Option Nat

namespace PolynomialCircuit

def evaluate (c : PolynomialCircuit) (frame : Frame) : Except Fault (List Felt) :=
  c.polynomials.mapM fun terms => do
    let products ← terms.mapM (·.eval frame)
    .ok (Felt.sum products)

def assertions (c : PolynomialCircuit) (inputs : PublicInputs) (rows : Nat) :
    Outcome ProvingError (List Assertion) :=
  match c.boundary with
  | .error reason => Outcome.refuse (.circuit .witness reason)
  | .ok cells => cells.mapM (·.toAssertion inputs rows)

def toCircuit (c : PolynomialCircuit) : Circuit where
  id := c.id
  numColumns := c.numColumns
  window := c.window
  evaluate := c.evaluate
  constraintNames := c.constraintNames
  assertions := c.assertions
  enforcedRows rows := c.enforcedRows.getD (rows - (c.window - 1))

end PolynomialCircuit

end SpotCheck
