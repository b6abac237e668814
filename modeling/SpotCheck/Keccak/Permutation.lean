/-!
# The Keccak permutation on 1600 bits

The state is a square of five times five 64-bit lanes; lane `axy` stands in column `x` and row
`y`. A round mixes the columns (theta), rotates and moves the lanes (rho, pi), combines each row
(chi) and adds a constant (iota). Twenty-four rounds make the permutation.
-/

namespace SpotCheck.Keccak

/-- The twenty-five lanes, row by row. -/
structure State where
  a00 : UInt64
  a10 : UInt64
  a20 : UInt64
  a30 : UInt64
  a40 : UInt64
  a01 : UInt64
  a11 : UInt64
  a21 : UInt64
  a31 : UInt64
  a41 : UInt64
  a02 : UInt64
  a12 : UInt64
  a22 : UInt64
  a32 : UInt64
  a42 : UInt64
  a03 : UInt64
  a13 : UInt64
  a23 : UInt64
  a33 : UInt64
  a43 : UInt64
  a04 : UInt64
  a14 : UInt64
  a24 : UInt64
  a34 : UInt64
  a44 : UInt64
  deriving DecidableEq

/-- All lanes zero. -/
def State.zero : State :=
  ⟨0, 0, 0, 0, 0, 0, 0, 0, 0, 0, 0, 0, 0, 0, 0, 0, 0, 0, 0, 0, 0, 0, 0, 0, 0⟩

/-- Rotates a lane to the left. -/
@[inline] def rotate (lane : UInt64) (shift : UInt64) : UInt64 :=
  (lane <<< shift) ||| (lane >>> (64 - shift))

/-- One round with its constant. -/
def round (s : State) (constant : UInt64) : State :=
  let c0 := s.a00 ^^^ s.a01 ^^^ s.a02 ^^^ s.a03 ^^^ s.a04
  let c1 := s.a10 ^^^ s.a11 ^^^ s.a12 ^^^ s.a13 ^^^ s.a14
  let c2 := s.a20 ^^^ s.a21 ^^^ s.a22 ^^^ s.a23 ^^^ s.a24
  let c3 := s.a30 ^^^ s.a31 ^^^ s.a32 ^^^ s.a33 ^^^ s.a34
  let c4 := s.a40 ^^^ s.a41 ^^^ s.a42 ^^^ s.a43 ^^^ s.a44
  let d0 := c4 ^^^ rotate c1 1
  let d1 := c0 ^^^ rotate c2 1
  let d2 := c1 ^^^ rotate c3 1
  let d3 := c2 ^^^ rotate c4 1
  let d4 := c3 ^^^ rotate c0 1
  let b00 := s.a00 ^^^ d0
  let b10 := rotate (s.a11 ^^^ d1) 44
  let b20 := rotate (s.a22 ^^^ d2) 43
  let b30 := rotate (s.a33 ^^^ d3) 21
  let b40 := rotate (s.a44 ^^^ d4) 14
  let b01 := rotate (s.a30 ^^^ d3) 28
  let b11 := rotate (s.a41 ^^^ d4) 20
  let b21 := rotate (s.a02 ^^^ d0) 3
  let b31 := rotate (s.a13 ^^^ d1) 45
  let b41 := rotate (s.a24 ^^^ d2) 61
  let b02 := rotate (s.a10 ^^^ d1) 1
  let b12 := rotate (s.a21 ^^^ d2) 6
  let b22 := rotate (s.a32 ^^^ d3) 25
  let b32 := rotate (s.a43 ^^^ d4) 8
  let b42 := rotate (s.a04 ^^^ d0) 18
  let b03 := rotate (s.a40 ^^^ d4) 27
  let b13 := rotate (s.a01 ^^^ d0) 36
  let b23 := rotate (s.a12 ^^^ d1) 10
  let b33 := rotate (s.a23 ^^^ d2) 15
  let b43 := rotate (s.a34 ^^^ d3) 56
  let b04 := rotate (s.a20 ^^^ d2) 62
  let b14 := rotate (s.a31 ^^^ d3) 55
  let b24 := rotate (s.a42 ^^^ d4) 39
  let b34 := rotate (s.a03 ^^^ d0) 41
  let b44 := rotate (s.a14 ^^^ d1) 2
  {
    a00 := b00 ^^^ (~~~b10 &&& b20) ^^^ constant,
    a10 := b10 ^^^ (~~~b20 &&& b30),
    a20 := b20 ^^^ (~~~b30 &&& b40),
    a30 := b30 ^^^ (~~~b40 &&& b00),
    a40 := b40 ^^^ (~~~b00 &&& b10),
    a01 := b01 ^^^ (~~~b11 &&& b21),
    a11 := b11 ^^^ (~~~b21 &&& b31),
    a21 := b21 ^^^ (~~~b31 &&& b41),
    a31 := b31 ^^^ (~~~b41 &&& b01),
    a41 := b41 ^^^ (~~~b01 &&& b11),
    a02 := b02 ^^^ (~~~b12 &&& b22),
    a12 := b12 ^^^ (~~~b22 &&& b32),
    a22 := b22 ^^^ (~~~b32 &&& b42),
    a32 := b32 ^^^ (~~~b42 &&& b02),
    a42 := b42 ^^^ (~~~b02 &&& b12),
    a03 := b03 ^^^ (~~~b13 &&& b23),
    a13 := b13 ^^^ (~~~b23 &&& b33),
    a23 := b23 ^^^ (~~~b33 &&& b43),
    a33 := b33 ^^^ (~~~b43 &&& b03),
    a43 := b43 ^^^ (~~~b03 &&& b13),
    a04 := b04 ^^^ (~~~b14 &&& b24),
    a14 := b14 ^^^ (~~~b24 &&& b34),
    a24 := b24 ^^^ (~~~b34 &&& b44),
    a34 := b34 ^^^ (~~~b44 &&& b04),
    a44 := b44 ^^^ (~~~b04 &&& b14)
  }

/-- The constants of the rounds, in order. -/
def roundConstants : List UInt64 := [
  0x0000000000000001, 0x0000000000008082, 0x800000000000808a,
  0x8000000080008000, 0x000000000000808b, 0x0000000080000001,
  0x8000000080008081, 0x8000000000008009, 0x000000000000008a,
  0x0000000000000088, 0x0000000080008009, 0x000000008000000a,
  0x000000008000808b, 0x800000000000008b, 0x8000000000008089,
  0x8000000000008003, 0x8000000000008002, 0x8000000000000080,
  0x000000000000800a, 0x800000008000000a, 0x8000000080008081,
  0x8000000000008080, 0x0000000080000001, 0x8000000080008008
]

/-- The permutation. -/
def permute (s : State) : State := roundConstants.foldl round s

end SpotCheck.Keccak
