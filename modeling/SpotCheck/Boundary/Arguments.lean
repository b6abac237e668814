import SpotCheck.Fibonacci.Session

/-!
# Arguments of foreign calls

A foreign caller passes pointers. A pointer to a place that the call writes is absent or leads to
a place with some contents; a pointer to data comes with a length, and with length zero it does
not matter whether it is absent. The length is what the caller states: when it is too large, it
is compared and reported as it is, but nothing is read that is not there.
-/

namespace SpotCheck.Boundary

/-- A place that a call writes, with its contents; none for a null pointer. -/
abbrev Place (α : Type) := Option α

/-- Writes a place, if there is one. -/
def Place.write {α : Type} (place : Place α) (value : α) : Place α := place.map fun _ => value

/-- A pointer to readable items, none for a null pointer, and the stated number of them. -/
structure Slice (α : Type) where
  items : Option (List α)
  length : Nat

/-- The items of a slice up to its length; a null pointer is refused unless that is zero. -/
def Slice.read {α : Type} (s : Slice α) (what : String) : Except String (List α) :=
  if s.length = 0 then .ok []
  else match s.items with
    | none => .error ("null " ++ what ++ " with non-zero length")
    | some items => .ok (items.take s.length)

/-- The places for a byte string made by a call: a pointer, none if it is null, and a length. -/
structure BufferPlaces where
  pointer : Place (Option Bytes)
  length : Place Nat

namespace BufferPlaces

/-- Whatever stood there is gone: a null pointer and length zero. -/
def clear (b : BufferPlaces) : BufferPlaces := ⟨b.pointer.write none, b.length.write 0⟩

def store (b : BufferPlaces) (bytes : Bytes) : Except String BufferPlaces :=
  if b.pointer.isSome && b.length.isSome then
    .ok ⟨b.pointer.write (some bytes), b.length.write bytes.length⟩
  else .error "null output buffer pointer"

end BufferPlaces

/-- A text handed in by a foreign caller ends before its first zero byte. -/
def foreignText (bytes : Bytes) : Bytes := bytes.takeWhile (· ≠ 0)

/-- The text of a diagnostic as a foreign caller gets it; a zero would end it. -/
def foreignMessage (text : String) : String := text.map fun c => if c = '\x00' then '?' else c

/-- Identifies a session that a foreign caller holds. -/
abbrev Handle := Nat

abbrev Thread := Nat

inductive Call where
  | createAndVerify (valid : Place Bool)
  | stringGenerated (points : Nat) (seed : Slice UInt8)
  | stringFromFile (path : Option Bytes)
  | composerNew (logRows : Nat) (out : Place (Option Handle))
  | createProof (composer : Option Handle) (out : BufferPlaces)
  | verificationKey (composer : Option Handle) (out : BufferPlaces)
  | verifyProof (composer : Option Handle) (proof : Slice UInt8) (valid : Place Bool)
  | verifyWithKey (key proof : Slice UInt8) (initial final : Slice UInt32) (valid : Place Bool)
  | circuitSizes (logRows : Nat) (exact total subgroup : Place Nat)
  | enableLogging (filter : Option Bytes)
  | composerDelete (composer : Option Handle)
  | freeBytes
  | lastDiagnostic
  | liveSessions

inductive Places where
  | none
  | valid (place : Place Bool)
  | handle (place : Place (Option Handle))
  | buffer (places : BufferPlaces)
  | sizes (exact total subgroup : Place Nat)

inductive Returned where
  /-- No diagnostic for a success, the diagnostic for a failure. -/
  | diagnostic (text : Option String)
  /-- The latest diagnostic, asked for. -/
  | latest (text : Option String)
  | count (sessions : Nat)
  | nothing

end SpotCheck.Boundary
