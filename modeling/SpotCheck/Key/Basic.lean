import SpotCheck.Circuit
import SpotCheck.Proof.Layout
import SpotCheck.ReferenceString.Basic

/-!
# Keys

A key fixes the shape of a circuit, the number of queried rows and the weights of the rows, which
are the first points of a reference string. Everything that prover and verifier must agree on is
in the key or follows from it.
-/

namespace SpotCheck

/-- What can be wrong with the parameters of a key. -/
inductive ParameterFault where
  | rowCount (logRows : Nat)
  | shape (columns window rows : Nat)
  | noQueries
  deriving DecidableEq

/-- The largest binary logarithm of a number of rows. -/
def maxLogRows : Nat := 24

def ParameterFault.message : ParameterFault → String
  | .rowCount logRows =>
    "log_rows " ++ toString logRows ++ " outside 1..=" ++ toString maxLogRows
  | .shape columns window rows =>
    toString columns ++ " columns with window " ++ toString window ++ " do not fit " ++
      toString rows ++ " rows"
  | .noQueries => "num_queries must be positive"

/-- What can be wrong with the bytes of a key. -/
inductive KeyFault where
  | truncated
  | badMagic
  | idNotText
  | trailing (count : Nat)
  | shape
  | queryCount (count : Nat)
  | foreignString
  deriving DecidableEq

def KeyFault.message : KeyFault → String
  | .truncated => "unexpected end of key"
  | .badMagic => "bad magic"
  | .idNotText => "circuit id is not utf-8"
  | .trailing count => toString count ++ " trailing bytes"
  | .shape => "inconsistent circuit shape"
  | .queryCount count => "query count " ++ toString count ++ " out of range"
  | .foreignString => "key was derived from a different reference string"

/-- Why there is no key. -/
inductive KeyError where
  | string (cause : ReferenceString.Error)
  | circuit (cause : ProvingError)
  | parameters (fault : ParameterFault)
  | format (fault : KeyFault)
  deriving DecidableEq

def KeyError.message : KeyError → String
  | .string cause => cause.message
  | .circuit cause => cause.message
  | .parameters fault => "invalid key parameters: " ++ fault.message
  | .format fault => "malformed verification key: " ++ fault.message

/-- How many rows a proof is to query. -/
structure ProverConfig where
  numQueries : Nat
  deriving DecidableEq

namespace ProverConfig

def default : ProverConfig := ⟨50⟩

def fast : ProverConfig := ⟨25⟩

def highSecurity : ProverConfig := ⟨100⟩

end ProverConfig

/-- The sizes of a circuit: rows under constraints, cells, rows. -/
structure CircuitSizes where
  exact : Nat
  total : Nat
  subgroup : Nat
  deriving DecidableEq

namespace CircuitSizes

/-- The sizes are 32-bit words: a shape is cut to its low bits, and a product beyond the largest
word is that word. -/
def ofShape (logRows columns window : Nat) : CircuitSizes :=
  let rows := 1 <<< min logRows maxLogRows
  { exact := rows - (window - 1) % (1 <<< 32)
    total := min (rows * (columns % (1 <<< 32))) ((1 <<< 32) - 1)
    subgroup := rows }

end CircuitSizes

/-- A key. Its shape is possible: the window fits the rows. -/
structure Key where
  circuitId : String
  logRows : Nat
  numColumns : Nat
  window : Nat
  numConstraints : Nat
  numBoundary : Nat
  numQueries : Nat
  stringDigest : Digest
  rowWeights : List Felt
  one_le_logRows : 1 ≤ logRows
  logRows_le : logRows ≤ maxLogRows
  one_le_window : 1 ≤ window
  window_le : window ≤ 1 <<< logRows
  deriving DecidableEq

namespace Key

def numRows (k : Key) : Nat := 1 <<< k.logRows

/-- The rows at which a frame starts. -/
def transitionRows (k : Key) : Nat := k.numRows - (k.window - 1)

/-- The weight of a row; a row without one weighs nothing. -/
def rowWeight (k : Key) (row : Nat) : Felt := k.rowWeights.getD row Felt.zero

def layout (k : Key) : ProofLayout where
  numColumns := k.numColumns
  merkleDepth := k.logRows
  numBoundary := k.numBoundary
  numQueries := k.numQueries
  window := k.window

def circuitSizes (k : Key) : CircuitSizes :=
  CircuitSizes.ofShape k.logRows k.numColumns k.window

/-- The key of a circuit with `2 ^ logRows` rows for statements with the given public inputs. -/
def setup (circuit : Circuit) (logRows : Nat) (inputs : PublicInputs) (config : ProverConfig)
    (string : ReferenceString) : Outcome KeyError Key :=
  if hlog : 1 ≤ logRows ∧ logRows ≤ maxLogRows then
    if hshape : circuit.numColumns ≠ 0 ∧ 1 ≤ circuit.window ∧ circuit.window ≤ 1 <<< logRows then
      if config.numQueries = 0 then Outcome.refuse (.parameters .noQueries)
      else do
        let transitionRows := circuit.enforcedRows (1 <<< logRows)
        let assertions ← Outcome.relabel .circuit (circuit.assertions inputs (1 <<< logRows))
        let stringDigest ←
          Outcome.relabel .string (Outcome.ofResult (string.prefixDigest transitionRows))
        let rowWeights ← Outcome.relabel .string (Outcome.ofResult (string.take? transitionRows))
        .ok {
          circuitId := circuit.id
          logRows := logRows
          numColumns := circuit.numColumns
          window := circuit.window
          numConstraints := circuit.constraintNames.length
          numBoundary := assertions.length
          numQueries := min config.numQueries transitionRows
          stringDigest := stringDigest
          rowWeights := rowWeights
          one_le_logRows := hlog.1
          logRows_le := hlog.2
          one_le_window := hshape.2.1
          window_le := hshape.2.2 }
    else Outcome.refuse (.parameters (.shape circuit.numColumns circuit.window (1 <<< logRows)))
  else Outcome.refuse (.parameters (.rowCount logRows))

end Key

end SpotCheck
