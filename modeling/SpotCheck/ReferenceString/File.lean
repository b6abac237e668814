import SpotCheck.ReferenceString.Basic

/-!
# Reference string files

A file holds a magic of eight bytes, the number of points in four, the points in four bytes each
and the digest of all that. Reading checks the frame first, then the checksum, then the points.
-/

namespace SpotCheck.ReferenceString

/-- The first eight bytes of a file. -/
def magic : Bytes := Bytes.ofText "ZKBSRS01"

def headerLength : Nat := 12

/-- All but the checksum. -/
def fileBody (points : List Felt) : Bytes :=
  magic ++ Bytes.littleEndian 4 points.length ++ points.flatMap Felt.toBytes

def toFileBytes (s : ReferenceString) : Bytes :=
  fileBody s.points ++ (Digest.ofMessage (fileBody s.points)).bytes

/-- Cuts `count` points off the front. -/
def readPoints (count : Nat) (bytes : Bytes) (done : List Felt) : List Felt :=
  match count with
  | 0 => done.reverse
  | count + 1 => readPoints count (bytes.drop 4) (Felt.ofRawBytes (bytes.take 4) :: done)

def ofFileBytes (bytes : Bytes) : Except Error ReferenceString := do
  if bytes.length < headerLength + Digest.width then
    .error (.format (.tooShort bytes.length))
  if bytes.take 8 ≠ magic then .error (.format .badMagic)
  let count := Bytes.ofLittleEndian ((bytes.drop 8).take 4)
  checkCount count
  let bodyLength := headerLength + 4 * count
  if bytes.length ≠ bodyLength + Digest.width then
    .error (.format (.wrongLength count bytes.length))
  if (Digest.ofMessage (bytes.take bodyLength)).bytes ≠ bytes.drop bodyLength then
    .error .checksum
  ofPoints (readPoints count (bytes.drop headerLength) [])

def ofFile (files : Files) (path : String) : Except Error ReferenceString :=
  match files.read path with
  | .ok bytes => ofFileBytes bytes
  | .error cause => .error (.io path cause)

def toFile (s : ReferenceString) (files : Files) (path : String) : Except Error Files :=
  match files.write path s.toFileBytes with
  | .ok files => .ok files
  | .error cause => .error (.io path cause)

end SpotCheck.ReferenceString
