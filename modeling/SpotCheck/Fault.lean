import SpotCheck.Text.Quoted

/-!
# Refusals and faults

An operation stops early in one of two ways. It *refuses* its input, with an error of the domain
that names the cause; or it *faults*: a word overflows, an index leaves its list, somebody's code
raises on purpose. A caller is expected to handle a refusal, while a fault travels up to the
nearest scope that captures faults.
-/

namespace SpotCheck

/-- What a fault raised on purpose carries: a fixed text, a text made at run time, or a value
that has no text. -/
inductive Payload where
  | literal (text : String)
  | made (text : String)
  | other
  deriving DecidableEq

/-- The text of a payload; one that has no text is described by a fixed phrase. -/
def Payload.message : Payload → String
  | .literal text => text
  | .made text => text
  | .other => "unknown panic payload"

/-- The two edges of a part that is cut out of a text. -/
inductive Edge where
  | start
  | stop
  deriving DecidableEq

def Edge.name : Edge → String
  | .start => "start"
  | .stop => "end"

inductive Fault where
  | addOverflow
  | subOverflow
  | mulOverflow
  /-- A shift by at least the width of the word. -/
  | shiftOverflow
  /-- An index that is not below the length. -/
  | outOfBounds (length index : Nat)
  /-- An edge of a part of a text inside a character, whose first byte is at `first`. -/
  | insideCharacter (edge : Edge) (position : Nat) (c : Char) (first : Nat)
  /-- A buffer larger than the address space is requested. -/
  | oversized
  /-- A search that provably never ends. -/
  | endless
  /-- More workers are started than there can be at a time. -/
  | noWorker
  | raised (payload : Payload)
  deriving DecidableEq

/-- The text under which a captured fault is reported. -/
def Fault.message : Fault → String
  | .addOverflow => "attempt to add with overflow"
  | .subOverflow => "attempt to subtract with overflow"
  | .mulOverflow => "attempt to multiply with overflow"
  | .shiftOverflow => "attempt to shift left with overflow"
  | .outOfBounds length index =>
    "index out of bounds: the len is " ++ toString length ++ " but the index is " ++ toString index
  | .insideCharacter edge position c first =>
    edge.name ++ " byte index " ++ toString position ++
      " is not a char boundary; it is inside " ++ Text.quotedCharacter c ++ " (bytes " ++
      toString first ++ ".." ++ toString (first + c.utf8Size) ++ " of string)"
  | .oversized => "capacity overflow"
  | .endless => "endless search"
  | .noWorker => "failed to spawn thread"
  | .raised payload => payload.message

/-- Why a computation stopped without a value. -/
inductive Stop (ε : Type) where
  | refused (error : ε)
  | fault (fault : Fault)
  deriving DecidableEq

/-- A value, a refusal or a fault. -/
abbrev Outcome (ε α : Type) := Except (Stop ε) α

namespace Outcome

variable {ε ε' α : Type}

def refuse (error : ε) : Outcome ε α := .error (.refused error)

/-- A computation that may refuse and never faults. -/
def ofResult : Except ε α → Outcome ε α
  | .ok a => .ok a
  | .error e => .error (.refused e)

/-- A computation that may fault and never refuses. -/
def ofFaulting : Except Fault α → Outcome ε α
  | .ok a => .ok a
  | .error f => .error (.fault f)

/-- Renames the cause of a refusal; values and faults pass. -/
def relabel (rename : ε → ε') : Outcome ε α → Outcome ε' α
  | .ok a => .ok a
  | .error (.refused e) => .error (.refused (rename e))
  | .error (.fault f) => .error (.fault f)

/-! ### Opening a sequence of steps -/

@[simp] theorem ofResult_ok (a : α) : ofResult (.ok a : Except ε α) = .ok a := rfl

@[simp] theorem ofResult_error (e : ε) :
    ofResult (.error e : Except ε α) = .error (.refused e) := rfl

@[simp] theorem ofFaulting_ok (a : α) : (ofFaulting (.ok a) : Outcome ε α) = .ok a := rfl

@[simp] theorem ofFaulting_error (f : Fault) :
    (ofFaulting (.error f) : Outcome ε α) = .error (.fault f) := rfl

@[simp] theorem relabel_ok (rename : ε → ε') (a : α) :
    relabel rename (.ok a : Outcome ε α) = .ok a := rfl

@[simp] theorem relabel_refused (rename : ε → ε') (e : ε) :
    relabel rename (.error (.refused e) : Outcome ε α) = .error (.refused (rename e)) := rfl

@[simp] theorem relabel_fault (rename : ε → ε') (f : Fault) :
    relabel rename (.error (.fault f) : Outcome ε α) = .error (.fault f) := rfl

@[simp] theorem ofResult_eq_ok_iff {x : Except ε α} {a : α} : ofResult x = .ok a ↔ x = .ok a := by
  cases x <;> simp

@[simp] theorem ofFaulting_eq_ok_iff {x : Except Fault α} {a : α} :
    (ofFaulting x : Outcome ε α) = .ok a ↔ x = .ok a := by
  cases x <;> simp

/-- Renaming causes neither makes nor loses a value. -/
@[simp] theorem relabel_eq_ok_iff {rename : ε → ε'} {x : Outcome ε α} {a : α} :
    relabel rename x = .ok a ↔ x = .ok a := by
  rcases x with (_ | _) | _ <;> simp

end Outcome

end SpotCheck
