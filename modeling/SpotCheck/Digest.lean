import SpotCheck.Bytes
import SpotCheck.Keccak.Permutation

/-!
# Message digests

The digest of a message is its Keccak-256 hash: the message is cut into blocks of 136 bytes, of
which the last one is padded, each block is added to the first seventeen lanes of the state and the
state permuted, and the first four lanes at the end are the 32 bytes of the digest. The padding is
that of the submission: a one bit, zero bits, a one bit.
-/

namespace SpotCheck

/-- Thirty-two bytes. -/
structure Digest where
  bytes : Bytes
  length_bytes : bytes.length = 32
  deriving DecidableEq

namespace Keccak

def rate : Nat := 136

/-- Zero bytes and the byte that ends the padding. -/
def padding : Nat → Bytes
  | 0 => [0x80]
  | zeros + 1 => 0 :: padding zeros

/-- Fills what is left of a message up to a block, always with at least one byte. -/
def lastBlock (rest : Bytes) : Bytes :=
  match rate - rest.length with
  | 1 => rest ++ [0x81]
  | missing => rest ++ 0x01 :: padding (missing - 2)

/-- The lane of eight bytes, least significant first. -/
@[inline] def lane (b0 b1 b2 b3 b4 b5 b6 b7 : UInt8) : UInt64 :=
  b0.toUInt64 ||| (b1.toUInt64 <<< 8) ||| (b2.toUInt64 <<< 16) ||| (b3.toUInt64 <<< 24) |||
    (b4.toUInt64 <<< 32) ||| (b5.toUInt64 <<< 40) ||| (b6.toUInt64 <<< 48) |||
    (b7.toUInt64 <<< 56)

def laneBytes (word : UInt64) : Bytes :=
  [word.toUInt8, (word >>> 8).toUInt8, (word >>> 16).toUInt8, (word >>> 24).toUInt8,
    (word >>> 32).toUInt8, (word >>> 40).toUInt8, (word >>> 48).toUInt8, (word >>> 56).toUInt8]

/-- The first `count` lanes of a byte string. -/
def lanes : Nat → Bytes → List UInt64
  | count + 1, b0 :: b1 :: b2 :: b3 :: b4 :: b5 :: b6 :: b7 :: rest =>
    lane b0 b1 b2 b3 b4 b5 b6 b7 :: lanes count rest
  | _, _ => []

/-- Adds the lanes of a block to the front of the state. -/
def State.addBlock (s : State) : List UInt64 → State
  | [l0, l1, l2, l3, l4, l5, l6, l7, l8, l9, l10, l11, l12, l13, l14, l15, l16] =>
    { s with
      a00 := s.a00 ^^^ l0, a10 := s.a10 ^^^ l1, a20 := s.a20 ^^^ l2, a30 := s.a30 ^^^ l3,
      a40 := s.a40 ^^^ l4, a01 := s.a01 ^^^ l5, a11 := s.a11 ^^^ l6, a21 := s.a21 ^^^ l7,
      a31 := s.a31 ^^^ l8, a41 := s.a41 ^^^ l9, a02 := s.a02 ^^^ l10, a12 := s.a12 ^^^ l11,
      a22 := s.a22 ^^^ l12, a32 := s.a32 ^^^ l13, a42 := s.a42 ^^^ l14, a03 := s.a03 ^^^ l15,
      a13 := s.a13 ^^^ l16 }
  | _ => s

/-- Absorbs `blocks` whole blocks and then the last one. -/
def absorb : Nat → State → Bytes → State
  | 0, s, rest => permute (s.addBlock (lanes 17 (lastBlock rest)))
  | blocks + 1, s, bytes => absorb blocks (permute (s.addBlock (lanes 17 bytes))) (bytes.drop rate)

/-- The first four lanes as bytes. -/
def State.squeeze (s : State) : Digest where
  bytes := laneBytes s.a00 ++ laneBytes s.a10 ++ laneBytes s.a20 ++ laneBytes s.a30
  length_bytes := rfl

end Keccak

namespace Digest

@[irreducible] def ofMessage (message : Bytes) : Digest :=
  (Keccak.absorb (message.length / Keccak.rate) Keccak.State.zero message).squeeze

def width : Nat := 32

def ofBytes? (bytes : Bytes) : Option Digest :=
  if h : bytes.length = 32 then some ⟨bytes, h⟩ else none

@[simp] theorem length_bytes_eq (d : Digest) : d.bytes.length = 32 := d.length_bytes

theorem ext_bytes {a b : Digest} (h : a.bytes = b.bytes) : a = b := by
  cases a; cases b; simp_all

@[simp] theorem ofBytes?_bytes (d : Digest) : ofBytes? d.bytes = some d := by
  simp [ofBytes?, d.length_bytes]

def firstWord (d : Digest) : UInt32 := UInt32.ofNat (Bytes.ofLittleEndian (d.bytes.take 4))

end Digest

end SpotCheck
