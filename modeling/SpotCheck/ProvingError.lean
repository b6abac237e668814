import SpotCheck.Field

/-!
# Why no proof is made

Each cause belongs to one of five kinds, and its text starts with the words of its kind.
-/

namespace SpotCheck

/-- Five kinds of causes. -/
inductive ProvingError.Kind where
  | witness
  | constraint
  | trace
  | parameters
  | merkle
  deriving DecidableEq

/-- The words with which the text of a cause of a kind starts. -/
def ProvingError.Kind.label : ProvingError.Kind → String
  | .witness => "Invalid witness"
  | .constraint => "Constraint violation"
  | .trace => "Invalid trace"
  | .parameters => "Invalid parameters"
  | .merkle => "Merkle error"

/-- Why no proof is made for a trace and public inputs. -/
inductive ProvingError where
  /-- The circuit refuses the public inputs, in its own words. -/
  | circuit (kind : ProvingError.Kind) (reason : String)
  | noColumns
  | rowCount (rows : Nat)
  | columnLength (index rows expected : Nat)
  | cellOutside (row column : Nat)
  | noFrame (row : Nat)
  | traceShape (rows columns keyRows keyColumns : Nat)
  | assertionCount (produced expected : Nat)
  | boundary (row column : Nat) (actual claimed : Felt)
  | constraint (name : String) (row violations : Nat)
  | nonVanishing (row : Nat)
  | unopened (row column : Nat)
  deriving DecidableEq

namespace ProvingError

def kind : ProvingError → Kind
  | circuit kind _ => kind
  | noColumns | rowCount _ | columnLength .. | cellOutside .. | noFrame _ => .trace
  | traceShape .. | assertionCount .. => .parameters
  | boundary .. | constraint .. => .constraint
  | nonVanishing _ => .witness
  | unopened .. => .merkle

/-- The text of a cause without its kind. -/
def reason : ProvingError → String
  | circuit _ reason => reason
  | noColumns => "trace has no columns"
  | rowCount rows => "row count " ++ toString rows ++ " is not a power of two"
  | columnLength index rows expected =>
    "column " ++ toString index ++ " has " ++ toString rows ++ " rows, expected " ++
      toString expected
  | cellOutside row column =>
    "boundary cell (" ++ toString row ++ ", " ++ toString column ++ ") outside the trace"
  | noFrame row => "no frame at row " ++ toString row
  | traceShape rows columns keyRows keyColumns =>
    "trace is " ++ toString rows ++ "x" ++ toString columns ++ ", key expects " ++
      toString keyRows ++ "x" ++ toString keyColumns
  | assertionCount produced expected =>
    "public inputs produce " ++ toString produced ++ " boundary assertions, key expects " ++
      toString expected
  | boundary row column actual claimed =>
    "boundary assertion at row " ++ toString row ++ " column " ++ toString column ++
      ": trace has " ++ actual.text ++ ", public input claims " ++ claimed.text
  | constraint name row violations =>
    name ++ " failed at row " ++ toString row ++ " (" ++ toString violations ++ " violations)"
  | nonVanishing row => "composition does not vanish at row " ++ toString row
  | unopened row column => "cannot open row " ++ toString row ++ " of column " ++ toString column

def message (e : ProvingError) : String := e.kind.label ++ ": " ++ e.reason

end ProvingError

end SpotCheck
