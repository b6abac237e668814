import SpotCheck.Fibonacci.Circuit
import SpotCheck.Json.Parser

/-!
# Records in JSON

A record is written as an object, in which unknown members are ignored and known ones may not be
repeated, or as an array of its fields in order. A field that is missing takes its default, where
there is one.
-/

namespace SpotCheck

namespace Json

/-- The value of a field, if it is there; none at all when the name is repeated. -/
def field? (members : List (Option String × Json)) (name : String) : Option (Option Json) :=
  match members.filter (·.1 = some name) with
  | [] => some none
  | [(_, value)] => some (some value)
  | _ => none

/-- The fields of a record by name, each if it is there. -/
def fields? (names : List String) : Json → Option (List (Option Json))
  | object members =>
    if members.all (·.1.isSome) then names.mapM (field? members) else none
  | array items =>
    if items.length ≤ names.length then
      some (items.map some ++ List.replicate (names.length - items.length) none)
    else none
  | _ => none

/-- A natural number below a limit. -/
def below? (limit : Nat) : Json → Option Nat
  | number (some n) => if n < limit then some n else none
  | _ => none

def word32? (v : Json) : Option UInt32 := (v.below? (1 <<< 32)).map UInt32.ofNat

/-- A value that may be null. -/
def nullable? {α : Type} (read : Json → Option α) : Json → Option (Option α)
  | null => some none
  | v => (read v).map some

def text? : Json → Option String
  | string text => text
  | _ => none

def list? {α : Type} (read : Json → Option α) : Json → Option (List α)
  | array items => items.mapM read
  | _ => none

/-- A field with a default. -/
def orDefault {α : Type} (read : Json → Option α) (default : α) : Option Json → Option α
  | none => some default
  | some v => read v

/-- A field without a default. -/
def required {α : Type} (read : Json → Option α) : Option Json → Option α
  | none => none
  | some v => read v

end Json

def ProverConfig.ofJson? (v : Json) : Option ProverConfig := do
  match ← v.fields? ["num_queries"] with
  | [numQueries] =>
    some ⟨← Json.orDefault (Json.below? (1 <<< 64)) ProverConfig.default.numQueries numQueries⟩
  | _ => none

def CircuitSizes.ofJson? (v : Json) : Option CircuitSizes := do
  match ← v.fields? ["exact", "total", "subgroup"] with
  | [exact, total, subgroup] =>
    let read := Json.required (Json.below? (1 <<< 32))
    some ⟨← read exact, ← read total, ← read subgroup⟩
  | _ => none

namespace Fibonacci.Config

def ofJson? (v : Json) : Option Config := do
  match ← v.fields? ["log_rows", "first", "second", "claimed_output"] with
  | [logRows, first, second, claimedOutput] =>
    some {
      logRows := ← Json.orDefault (Json.below? (1 <<< 32)) default.logRows logRows
      first := ← Json.orDefault Json.word32? default.first first
      second := ← Json.orDefault Json.word32? default.second second
      claimedOutput :=
        ← Json.orDefault (Json.nullable? Json.word32?) default.claimedOutput claimedOutput }
  | _ => none

def toJson (c : Config) : Json :=
  Json.record [
    ("log_rows", Json.ofNat c.logRows),
    ("first", Json.ofNat c.first.toNat),
    ("second", Json.ofNat c.second.toNat),
    ("claimed_output", match c.claimedOutput with
      | some claimed => Json.ofNat claimed.toNat
      | none => Json.null)]

end Fibonacci.Config

end SpotCheck
