import SpotCheck.Bytes

/-!
# Byte strings that are no text

A byte string that is not in UTF-8 has a first place at which it goes wrong: either a sequence of
one to three bytes that no character starts with, or a character that the end cuts off.
-/

namespace SpotCheck.Text

/-- Where a byte string stops being text, and how many bytes are wrong there; none when the end
cuts a character off. -/
structure Utf8Error where
  validUpTo : Nat
  wrong : Option Nat
  deriving DecidableEq

def Utf8Error.message (e : Utf8Error) : String :=
  match e.wrong with
  | some count =>
    "invalid utf-8 sequence of " ++ toString count ++ " bytes from index " ++ toString e.validUpTo
  | none => "incomplete utf-8 byte sequence from index " ++ toString e.validUpTo

/-- How the first character of a byte string is stored. -/
inductive LeadingCharacter where
  | valid (length : Nat)
  | invalid (length : Nat)
  | incomplete
  deriving DecidableEq

/-- A byte that continues a character. -/
def isContinuation (b : UInt8) : Bool := 0x80 ≤ b && b ≤ 0xbf

/-- The second bytes that may follow a first byte of a character of three or four bytes. -/
def isSecond (first second : UInt8) : Bool :=
  if first = 0xe0 then 0xa0 ≤ second && second ≤ 0xbf
  else if first = 0xed then 0x80 ≤ second && second ≤ 0x9f
  else if first = 0xf0 then 0x90 ≤ second && second ≤ 0xbf
  else if first = 0xf4 then 0x80 ≤ second && second ≤ 0x8f
  else isContinuation second

/-- Checks the bytes after the second one, of which `seen` are good so far. -/
def checkRest (seen : Nat) : Nat → Bytes → LeadingCharacter
  | 0, _ => .valid seen
  | _ + 1, [] => .incomplete
  | count + 1, b :: rest =>
    if isContinuation b then checkRest (seen + 1) count rest else .invalid seen

/-- Checks the bytes after the first one of a character of `length` bytes. -/
def checkSecond (first : UInt8) (length : Nat) : Bytes → LeadingCharacter
  | [] => .incomplete
  | second :: rest =>
    if isSecond first second then checkRest 2 (length - 2) rest else .invalid 1

/-- The first character of a byte string that is not empty. -/
def leadingCharacter (first : UInt8) (rest : Bytes) : LeadingCharacter :=
  if first < 0x80 then .valid 1
  else if 0xc2 ≤ first ∧ first ≤ 0xdf then checkSecond first 2 rest
  else if 0xe0 ≤ first ∧ first ≤ 0xef then checkSecond first 3 rest
  else if 0xf0 ≤ first ∧ first ≤ 0xf4 then checkSecond first 4 rest
  else .invalid 1

/-- The first error from a position on. At most `budget` characters are looked at. -/
def utf8ErrorFrom (position : Nat) : Nat → Bytes → Option Utf8Error
  | 0, _ => none
  | _, [] => none
  | budget + 1, first :: rest =>
    match leadingCharacter first rest with
    | .valid length => utf8ErrorFrom (position + length) budget (rest.drop (length - 1))
    | .invalid length => some ⟨position, some length⟩
    | .incomplete => some ⟨position, none⟩

/-- The first error of a byte string. -/
def utf8Error? (bytes : Bytes) : Option Utf8Error := utf8ErrorFrom 0 bytes.length bytes

/-- The parts of a byte string that are text, with a replacement character for every wrong
sequence between them. -/
def replaceErrors : Nat → Bytes → Bytes
  | 0, _ => []
  | _, [] => []
  | budget + 1, first :: rest =>
    match leadingCharacter first rest with
    | .valid length =>
      first :: rest.take (length - 1) ++ replaceErrors budget (rest.drop (length - 1))
    | .invalid length =>
      Bytes.ofText "\ufffd" ++ replaceErrors budget (rest.drop (length - 1))
    | .incomplete => Bytes.ofText "\ufffd"

/-- A byte string as text, at any cost. -/
def lossy (bytes : Bytes) : String :=
  match Bytes.toText? bytes with
  | some text => text
  | none => (Bytes.toText? (replaceErrors bytes.length bytes)).getD ""

end SpotCheck.Text
