import SpotCheck.ProvingError
import SpotCheck.Word

/-!
# Traces and frames

A trace is a table of field elements, stored by columns. A frame is what a constraint sees of it:
all columns of a few consecutive rows, row after row.
-/

namespace SpotCheck

/-- A column with the number under which it is reported. -/
structure Column where
  index : Nat
  values : Array Felt
  deriving DecidableEq

structure Trace where
  columns : List Column
  numRows : Nat
  deriving DecidableEq

namespace Trace

/-- A trace with as many rows as its first column. -/
def ofColumns (columns : List Column) : Trace where
  columns := columns
  numRows := match columns with
    | [] => 0
    | first :: _ => first.values.size

def numColumns (t : Trace) : Nat := t.columns.length

def cell? (t : Trace) (column row : Nat) : Option Felt :=
  match t.columns[column]? with
  | some c => c.values[row]?
  | none => none

/-- Overwrites a cell; a place outside the trace faults. -/
def set (t : Trace) (column row : Nat) (value : Felt) : Except Fault Trace :=
  match t.columns[column]? with
  | none => .error (.outOfBounds t.numColumns column)
  | some c =>
    if row < c.values.size then
      let changed := { c with values := c.values.setIfInBounds row value }
      .ok { t with columns := t.columns.set column changed }
    else .error (.outOfBounds c.values.size row)

def clear (_ : Trace) : Trace := ⟨[], 0⟩

/-- The table is a rectangle with a power of two of rows and at least one column. -/
def validate (t : Trace) : Except ProvingError Unit :=
  if t.columns.isEmpty then .error .noColumns
  else if ¬ Word.IsPowerOfTwo t.numRows then .error (.rowCount t.numRows)
  else match t.columns.find? (·.values.size ≠ t.numRows) with
    | some c => .error (.columnLength c.index c.values.size t.numRows)
    | none => .ok ()

/-- The cells of a row, column by column. -/
def row? (t : Trace) (row : Nat) : Option (List Felt) := t.columns.mapM (·.values[row]?)

def rows? (t : Trace) (row : Nat) : Nat → Option (List Felt)
  | 0 => some []
  | count + 1 => do
    let cells ← t.row? row
    let rest ← t.rows? (row + 1) count
    some (cells ++ rest)

/-- Rows that hold no cells at all miss none. -/
theorem rows?_eq_nil {t : Trace} {row count : Nat} (h : count * t.numColumns = 0) :
    t.rows? row count = some [] := by
  induction count generalizing row with
  | zero => rfl
  | succ count ih =>
    have empty : t.columns = [] := by
      rcases Nat.mul_eq_zero.1 h with h | h
      · cases h
      · exact List.length_eq_zero_iff.1 h
    have here : t.row? row = some [] := by simp [row?, empty]
    have rest : t.rows? (row + 1) count = some [] := ih (by simp [numColumns, empty])
    simp [rows?, here, rest]

end Trace

/-- The cells of a window of rows, row after row, each of `width` cells. -/
structure Frame where
  values : List Felt
  width : Nat
  deriving DecidableEq

namespace Frame

/-- The frame of `window` rows from a row on; there is none when a cell is missing. A frame
without cells misses none, however many rows it spans. -/
def ofTrace (t : Trace) (row window : Nat) : Except Fault (Option Frame) := do
  let stop ← Word.add row window
  if stop > t.numRows then .ok none
  else
    let cells ← Word.mul window t.numColumns
    Word.reserve cells Felt.width
    if cells = 0 then .ok (some ⟨[], t.numColumns⟩)
    else .ok ((t.rows? row window).map fun values => ⟨values, t.numColumns⟩)

/-- The short answer for a frame without cells is the one that a walk over its rows gives. -/
theorem ofTrace_eq (t : Trace) (row window : Nat) :
    ofTrace t row window = (do
      let stop ← Word.add row window
      if stop > t.numRows then .ok none
      else
        let cells ← Word.mul window t.numColumns
        Word.reserve cells Felt.width
        .ok ((t.rows? row window).map fun values => ⟨values, t.numColumns⟩)) := by
  have short : window * t.numColumns = 0 →
      (t.rows? row window).map (Frame.mk · t.numColumns) = some ⟨[], t.numColumns⟩ :=
    fun h => by rw [Trace.rows?_eq_nil h]; rfl
  unfold ofTrace
  congr 1
  funext stop
  split
  · rfl
  · simp only [Word.mul]
    split
    · simp only [bind, Except.bind]
      by_cases h : window * t.numColumns = 0
      · simp [h, short h]
      · simp [h]
    · rfl

/-- The cell at a place. A column beyond the width runs on into the next row; only a place beyond
the last cell faults. -/
def get (f : Frame) (offset column : Nat) : Except Fault Felt := do
  let start ← Word.mul offset f.width
  let index ← Word.add start column
  match f.values[index]? with
  | some value => .ok value
  | none => .error (.outOfBounds f.values.length index)

end Frame

end SpotCheck
