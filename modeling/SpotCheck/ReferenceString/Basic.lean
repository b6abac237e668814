import SpotCheck.Digest
import SpotCheck.Field
import SpotCheck.Files

/-!
# Reference strings

A reference string is the list of powers `1, tau, tau ^ 2, …` of a field element `tau` that is
neither zero nor one. Its size bounds the circuits that can be set up, its points weight the
composed constraints, and the digest of a prefix of it is bound into every key.
-/

namespace SpotCheck

/-- What can be wrong with the bytes of a reference string file. -/
inductive FileFault where
  | tooShort (length : Nat)
  | badMagic
  | wrongLength (points length : Nat)
  deriving DecidableEq

def FileFault.message : FileFault → String
  | .tooShort length => "file too short (" ++ toString length ++ " bytes)"
  | .badMagic => "bad magic"
  | .wrongLength points length =>
    "header announces " ++ toString points ++ " points but file holds " ++ toString length ++
      " bytes"

structure ReferenceString where
  points : List Felt
  deriving DecidableEq

namespace ReferenceString

def maxPoints : Nat := 1 <<< 24

inductive Error where
  | empty
  | tooSmall (required available : Nat)
  | tooLarge (requested : Nat)
  | nonCanonical (index : Nat)
  | malformed (index : Nat)
  | io (path : String) (cause : FileError)
  | format (fault : FileFault)
  | checksum
  deriving DecidableEq

def Error.message : Error → String
  | empty => "reference string has no points"
  | tooSmall required available =>
    "reference string too small: need " ++ toString required ++ " points, have " ++
      toString available
  | tooLarge requested =>
    "reference string too large: " ++ toString requested ++ " points requested, at most " ++
      toString maxPoints ++ " supported"
  | nonCanonical index =>
    "reference string point " ++ toString index ++ " is not a canonical field element"
  | malformed index =>
    "reference string point " ++ toString index ++ " breaks the monomial progression"
  | io path cause =>
    "failed to access reference string file " ++ path ++ ": " ++ cause.message
  | format fault => "invalid reference string file: " ++ fault.message
  | checksum => "reference string checksum mismatch"

def size (s : ReferenceString) : Nat := s.points.length

/-! ### Digests and prefixes -/

def digestDomain : Bytes := Bytes.ofText "zkbind-srs-digest"

/-- The digest of a list of points: their number in eight bytes, then the points. -/
def pointsDigest (points : List Felt) : Digest :=
  Digest.ofMessage
    (digestDomain ++ Bytes.littleEndian 8 points.length ++ points.flatMap Felt.toBytes)

def digest (s : ReferenceString) : Digest := pointsDigest s.points

def take? (s : ReferenceString) (count : Nat) : Except Error (List Felt) :=
  if count ≤ s.size then .ok (s.points.take count) else .error (.tooSmall count s.size)

def prefixDigest (s : ReferenceString) (count : Nat) : Except Error Digest :=
  (s.take? count).map pointsDigest

/-- The string itself, if it has enough points. -/
def ensure (s : ReferenceString) (least : Nat) : Except Error ReferenceString :=
  if s.size < least then .error (.tooSmall least s.size) else .ok s

/-! ### Validation -/

/-- The first position, counting from `index`, at which a point is not `tau` times the one
before. -/
def firstBreak (tau : Felt) (index : Nat) (previous : Felt) : List Felt → Option Nat
  | [] => none
  | point :: rest =>
    if point = previous * tau then firstBreak tau (index + 1) point rest else some index

/-- Accepts exactly the lists of powers, and otherwise names the first thing that is wrong. -/
def ofPoints (points : List Felt) : Except Error ReferenceString :=
  match points with
  | [] => .error .empty
  | first :: rest =>
    match points.findIdx? (fun point => ¬ point.IsCanonical) with
    | some index => .error (.nonCanonical index)
    | none =>
      if first ≠ Felt.one then .error (.malformed 0)
      else match rest with
        | [] => .ok ⟨points⟩
        | tau :: rest =>
          if tau.toNat ≤ 1 then .error (.malformed 1)
          else match firstBreak tau 2 tau rest with
            | some index => .error (.malformed index)
            | none => .ok ⟨points⟩

/-! ### Generation -/

def tauDomain : Bytes := Bytes.ofText "zkbind-srs-tau"

/-- The element in the first four bytes of a digest. -/
def tauOf (d : Digest) : Felt := Felt.ofBytes (d.bytes.take 4)

/-- Hashes on until the element is neither zero nor one. A digest is one of `2 ^ 256`, so that
many steps without success run in a circle. -/
def searchTau : Nat → Digest → Except Fault Felt
  | 0, _ => .error .endless
  | budget + 1, d =>
    if (tauOf d).toNat ≤ 1 then searchTau budget (Digest.ofMessage (tauDomain ++ d.bytes))
    else .ok (tauOf d)

/-- The element whose powers a seed stands for. -/
def tauOfSeed (seed : Bytes) : Except Fault Felt :=
  searchTau (1 <<< 256) (Digest.ofMessage (tauDomain ++ seed))

def checkCount (count : Nat) : Except Error Unit :=
  if count = 0 then .error .empty
  else if count > maxPoints then .error (.tooLarge count)
  else .ok ()

/-- A number of products with `tau` from an element on, after those made so far (last one
first). -/
def powersFrom (tau : Felt) : Nat → Felt → List Felt → List Felt
  | 0, _, done => done.reverse
  | count + 1, current, done => powersFrom tau count (current * tau) (current :: done)

def powers (tau : Felt) (count : Nat) : List Felt := powersFrom tau count Felt.one []

/-- The reference string of a size that a seed stands for. -/
def generate (count : Nat) (seed : Bytes) : Outcome Error ReferenceString := do
  Outcome.ofResult (checkCount count)
  let tau ← Outcome.ofFaulting (tauOfSeed seed)
  .ok ⟨powers tau count⟩

end ReferenceString

end SpotCheck
