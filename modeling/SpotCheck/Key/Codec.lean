import SpotCheck.Key.Basic

/-!
# Stored keys

A key is stored as a magic of eight bytes, the length of the circuit's name in four, the name, six
numbers in four bytes each and the digest of the weights. The weights themselves are not stored:
whoever reads a key takes them from a reference string, which has to have that digest.
-/

namespace SpotCheck.Key

/-- The first eight bytes of a stored key. -/
def magic : Bytes := Bytes.ofText "ZKBVK001"

/-- The six numbers in the order in which they are stored. -/
def numbers (k : Key) : List Nat :=
  [k.logRows, k.numColumns, k.window, k.numConstraints, k.numBoundary, k.numQueries]

def toBytes (k : Key) : Bytes :=
  magic ++ Bytes.littleEndian 4 k.circuitId.utf8ByteSize ++ Bytes.ofText k.circuitId ++
    k.numbers.flatMap (Bytes.littleEndian 4) ++ k.stringDigest.bytes

def digestDomain : Bytes := Bytes.ofText "zkbind-vk"

/-- The digest of the stored form. -/
def digest (k : Key) : Digest := Digest.ofMessage (digestDomain ++ k.toBytes)

/-- The next bytes and the rest. -/
def cut (count : Nat) (bytes : Bytes) : Except KeyFault (Bytes × Bytes) :=
  let head := bytes.take count
  if head.length = count then .ok (head, bytes.drop count) else .error .truncated

/-- The next number and the rest. -/
def cutNumber (bytes : Bytes) : Except KeyFault (Nat × Bytes) := do
  let (head, rest) ← cut 4 bytes
  .ok (Bytes.ofLittleEndian head, rest)

/-- The fields of a stored key, before they are checked. -/
structure Fields where
  circuitId : String
  logRows : Nat
  numColumns : Nat
  window : Nat
  numConstraints : Nat
  numBoundary : Nat
  numQueries : Nat
  stringDigest : Bytes

/-- Cuts a byte string of the stated length into the fields of a key. -/
def fields (bytes : Bytes) (length : Nat := bytes.length) : Except KeyFault Fields := do
  let (head, rest) ← cut 8 bytes
  if head ≠ magic then .error .badMagic
  let (idLength, rest) ← cutNumber rest
  let (id, rest) ← cut idLength rest
  let circuitId ← match Bytes.toText? id with
    | some text => .ok text
    | none => .error .idNotText
  let (logRows, rest) ← cutNumber rest
  let (numColumns, rest) ← cutNumber rest
  let (window, rest) ← cutNumber rest
  let (numConstraints, rest) ← cutNumber rest
  let (numBoundary, rest) ← cutNumber rest
  let (numQueries, rest) ← cutNumber rest
  let (stringDigest, rest) ← cut Digest.width rest
  let trailing := rest.length + (length - bytes.length)
  if trailing ≠ 0 then .error (.trailing trailing)
  .ok ⟨circuitId, logRows, numColumns, window, numConstraints, numBoundary, numQueries,
    stringDigest⟩

/-- The key with given fields and weights from a reference string. -/
def ofFields (f : Fields) (string : ReferenceString) : Except KeyError Key :=
  if h : 1 ≤ f.logRows ∧ f.logRows ≤ maxLogRows ∧ 1 ≤ f.window ∧ f.window ≤ 1 <<< f.logRows then
    let transitionRows := (1 <<< f.logRows) - (f.window - 1)
    if f.numQueries = 0 ∨ f.numQueries > transitionRows then
      .error (.format (.queryCount f.numQueries))
    else do
      let stringDigest ← (string.prefixDigest transitionRows).mapError .string
      if stringDigest.bytes ≠ f.stringDigest then .error (.format .foreignString)
      let rowWeights ← (string.take? transitionRows).mapError .string
      .ok {
        circuitId := f.circuitId
        logRows := f.logRows
        numColumns := f.numColumns
        window := f.window
        numConstraints := f.numConstraints
        numBoundary := f.numBoundary
        numQueries := f.numQueries
        stringDigest := stringDigest
        rowWeights := rowWeights
        one_le_logRows := h.1
        logRows_le := h.2.1
        one_le_window := h.2.2.1
        window_le := h.2.2.2 }
  else .error (.format .shape)

/-- Reads a stored key of the stated length against a reference string. -/
def ofBytes (bytes : Bytes) (string : ReferenceString) (length : Nat := bytes.length) :
    Except KeyError Key := do
  let f ← (fields bytes length).mapError .format
  ofFields f string

end SpotCheck.Key
