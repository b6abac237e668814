import SpotCheck.Circuit
import SpotCheck.Key.Basic

/-!
# The Fibonacci circuit

Column 0 is a Fibonacci sequence and column 1 holds the squares of column 0. The first two values
and the last one are public. The square is checked at both ends of the window of three rows, so
that the last two rows, at which no window starts, are under constraint too.
-/

namespace SpotCheck.Fibonacci

def circuitId : String := "zkbind-simple-v1"

/-- The constraints on a window of three rows. -/
def evaluate (frame : Frame) : Except Fault (List Felt) := do
  let f2 ← frame.get 2 0
  let f1 ← frame.get 1 0
  let f0 ← frame.get 0 0
  let step ← f2.sub f1
  let recurrence ← step.sub f0
  let s0 ← frame.get 0 1
  let square ← s0.sub f0.square
  let s2 ← frame.get 2 1
  let squareTail ← s2.sub f2.square
  .ok [recurrence, square, squareTail]

/-- Two initial values and a final one, at the first two rows and the last. -/
def assertions (inputs : PublicInputs) (rows : Nat) : Outcome ProvingError (List Assertion) :=
  match inputs.initial, inputs.final with
  | [first, second], [output] => do
    let last ← Outcome.ofFaulting (Word.sub rows 1)
    .ok [⟨0, 0, first⟩, ⟨0, 1, second⟩, ⟨0, last, output⟩]
  | initial, final =>
    Outcome.refuse (.circuit .witness
      ("expected 2 initial and 1 final value, got " ++ toString initial.length ++ " and " ++
        toString final.length))

def circuit : Circuit where
  id := circuitId
  numColumns := 2
  window := 3
  evaluate := evaluate
  constraintNames := ["fibonacci", "square", "square_tail"]
  assertions := assertions

/-! ### Parameters -/

def minLogRows : Nat := 2

def maxLogRows : Nat := 20

/-- The parameters of an instance; words of 32 bits. A claimed output takes the place of the true
one among the public inputs. -/
structure Config where
  logRows : Nat
  first : UInt32
  second : UInt32
  claimedOutput : Option UInt32
  deriving DecidableEq

/-- A number of rows outside the supported ones. -/
structure ConfigError where
  logRows : Nat
  deriving DecidableEq

def ConfigError.message (e : ConfigError) : String :=
  "invalid circuit configuration: log_rows " ++ toString e.logRows ++ " outside " ++
    toString minLogRows ++ "..=" ++ toString maxLogRows

namespace Config

def default : Config := ⟨6, 1, 1, none⟩

def ofLogRows (logRows : Nat) : Config := { default with logRows := logRows }

def validate (c : Config) : Except ConfigError Unit :=
  if minLogRows ≤ c.logRows ∧ c.logRows ≤ maxLogRows then .ok () else .error ⟨c.logRows⟩

/-- Number of rows; it has to be a word. -/
def numRows (c : Config) : Except Fault Nat := Word.powTwo c.logRows

end Config

/-- The sizes of an instance with `2 ^ logRows` rows. -/
def circuitSizes (logRows : Nat) : Except ConfigError CircuitSizes := do
  (Config.ofLogRows logRows).validate
  .ok (CircuitSizes.ofShape logRows circuit.numColumns circuit.window)

/-! ### Witnesses -/

structure Witness where
  config : Config
  trace : Trace
  inputs : PublicInputs

/-- The sequence continued by a number of sums of its last two values. -/
def extend : Nat → Felt → Felt → Array Felt → Array Felt
  | 0, _, _, done => done
  | count + 1, first, second, done =>
    let next := second + first
    extend count second next (done.push next)

/-- So many values of the sequence that starts with two given ones. -/
def sequence (first second : Felt) (count : Nat) : Array Felt :=
  extend (count - 2) first second #[first, second]

namespace Witness

/-- The last value of the sequence; zero when there is none. -/
def output (w : Witness) : Felt :=
  match w.trace.columns with
  | [] => Felt.zero
  | column :: _ => column.values.back?.getD Felt.zero

def ofConfig (c : Config) : Except ConfigError Witness := do
  c.validate
  let first := Felt.ofWord c.first
  let second := Felt.ofWord c.second
  let values := sequence first second (1 <<< c.logRows)
  let trace := Trace.ofColumns [⟨0, values⟩, ⟨1, values.map Felt.square⟩]
  let output := match c.claimedOutput with
    | some claimed => Felt.ofWord claimed
    | none => values.back?.getD Felt.zero
  .ok ⟨c, trace, ⟨[first, second], [output]⟩⟩

def clear (w : Witness) : Witness := { w with trace := w.trace.clear }

end Witness

end SpotCheck.Fibonacci
