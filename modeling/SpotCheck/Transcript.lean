import SpotCheck.Digest
import SpotCheck.Field
import SpotCheck.Word
import Std.Data.HashSet

/-!
# The transcript

Prover and verifier derive their challenges from the messages exchanged so far. A transcript
holds the digest of those messages and counts the challenges drawn; each challenge hashes both.
Appending a message changes every later challenge, drawing one changes none of the messages.
-/

namespace SpotCheck

structure Transcript where
  state : Digest
  drawn : Nat
  deriving DecidableEq

namespace Transcript

/-- The message with which every transcript starts. -/
def domain : Bytes := Bytes.ofText "zkbind-transcript-v1"

/-- The transcript before the first message. -/
def start : Transcript where
  state := Digest.ofMessage domain
  drawn := 0

def append (t : Transcript) (message : Digest) : Transcript :=
  { t with state := Digest.ofMessage (t.state.bytes ++ message.bytes) }

/-! ### Challenges -/

/-- The scalar with a given number, counted from one. -/
def scalarAt (state : Digest) (number : Nat) : Felt :=
  Felt.ofWord (Digest.ofMessage (state.bytes ++ Bytes.littleEndian 8 number)).firstWord

/-- Draws the next scalar; the count of scalars must stay a word. -/
def scalar (t : Transcript) : Except Fault (Felt × Transcript) := do
  let number ← Word.add t.drawn 1
  .ok (scalarAt t.state number, { t with drawn := number })

def draw : Nat → Transcript → Except Fault (List Felt × Transcript)
  | 0, t => .ok ([], t)
  | count + 1, t => do
    let (first, t) ← t.scalar
    let (rest, t) ← draw count t
    .ok (first :: rest, t)

/-- Draws a number of scalars, for all of which there must be room beforehand. -/
def scalars (t : Transcript) (count : Nat) : Except Fault (List Felt × Transcript) := do
  Word.reserve count Felt.width
  draw count t

/-- Draws scalars modulo `max` until no more different ones are `missing`, keeping each at its
first appearance. Those kept so far are in `found`, the latest first, and in `seen`. At most
`budget` scalars are left before the count of scalars leaves its word, which is what ends a search
that finds too few. -/
def search (max : Nat) : (budget missing : Nat) → (found : List Nat) → (seen : Std.HashSet Nat) →
    Transcript → Except Fault (List Nat × Transcript)
  | _, 0, found, _, t => .ok (found.reverse, t)
  | 0, _ + 1, _, _, _ => .error .addOverflow
  | budget + 1, missing + 1, found, seen, t => do
    let (scalar, t) ← t.scalar
    let index := scalar.toNat % max
    if seen.contains index then search max budget (missing + 1) found seen t
    else search max budget missing (index :: found) (seen.insert index) t

/-- Draws `min count max` different indices below `max`. -/
def indices (t : Transcript) (count max : Nat) : Except Fault (List Nat × Transcript) := do
  let count := min count max
  Word.reserve count 8
  search max (Word.limit - 1 - t.drawn) count [] ∅ t

end Transcript

end SpotCheck
