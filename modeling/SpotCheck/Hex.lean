import SpotCheck.Bytes
import SpotCheck.Text.Quoted

/-!
# Hexadecimal text

Two digits per byte, high half first, written in lower case. Reading takes both cases and names
the first thing that is wrong: an odd number of bytes of text before a character that is no digit.
-/

namespace SpotCheck.Hex

/-- The digit of a number below sixteen. -/
def digit (n : Nat) : Char := if n < 10 then Char.ofNat (48 + n) else Char.ofNat (87 + n)

def encodeByte (b : UInt8) : List Char := [digit (b.toNat / 16), digit (b.toNat % 16)]

def encode (bytes : Bytes) : String := String.ofList (bytes.flatMap encodeByte)

inductive Malformed where
  | oddLength
  | character (c : Char) (position : Nat)
  deriving DecidableEq

def Malformed.message : Malformed → String
  | .oddLength => "Odd number of digits"
  | .character c position =>
    "Invalid character " ++ Text.quotedCharacter c ++ " at position " ++ toString position

def value? (c : Char) : Option Nat :=
  if '0' ≤ c ∧ c ≤ '9' then some (c.toNat - 48)
  else if 'a' ≤ c ∧ c ≤ 'f' then some (c.toNat - 87)
  else if 'A' ≤ c ∧ c ≤ 'F' then some (c.toNat - 55)
  else none

/-- Reads pairs of digits from a position on, after the bytes read so far (last one first). -/
def decodePairs (position : Nat) (done : Bytes) : Bytes → Except Malformed Bytes
  | high :: low :: rest =>
    match value? (Char.ofNat high.toNat), value? (Char.ofNat low.toNat) with
    | none, _ => .error (.character (Char.ofNat high.toNat) position)
    | some _, none => .error (.character (Char.ofNat low.toNat) (position + 1))
    | some h, some l => decodePairs (position + 2) (UInt8.ofNat (16 * h + l) :: done) rest
  | _ => .ok done.reverse

/-- Reads a text byte by byte: a byte above 127 is no digit, and is named as the character with
that number. -/
def decode (text : String) : Except Malformed Bytes :=
  let bytes := Bytes.ofText text
  if bytes.length % 2 = 1 then .error .oddLength else decodePairs 0 [] bytes

end SpotCheck.Hex
