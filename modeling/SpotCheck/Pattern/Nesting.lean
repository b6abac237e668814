import SpotCheck.Pattern.CharacterSet
import SpotCheck.Text.Class

/-!
# Patterns

A pattern is a sequence of parts between bars. A part is an element, a set, a group, or a change
of settings, which holds up to the end of the group around it; all but the last may be repeated.
A text is a pattern if it can be read so and its parts are not nested too deeply.
-/

namespace SpotCheck.Pattern

structure Part where
  nesting : Nat
  isRepeatable : Bool

/-- What has been read of a group: the nesting of each finished alternative, and the parts of the
last one, each with the latest first. -/
structure Alternatives where
  finished : List Nat
  parts : List Part

namespace Alternatives

def empty : Alternatives := ⟨[], []⟩

def push (a : Alternatives) (part : Part) : Alternatives := { a with parts := part :: a.parts }

/-- Adds an element or the like. -/
def add (a : Alternatives) (nesting : Nat) : Alternatives := a.push ⟨nesting, true⟩

/-- The nesting of the last alternative. -/
def last (a : Alternatives) : Nat := nestingOf (a.parts.map (·.nesting))

def bar (a : Alternatives) : Alternatives := ⟨a.last :: a.finished, []⟩

def nesting (a : Alternatives) : Nat := nestingOf (a.last :: a.finished)

/-- Repeats the last part, if there is one that may be repeated. -/
def repeatLast (a : Alternatives) : Option Alternatives :=
  match a.parts with
  | part :: parts =>
    if part.isRepeatable then some { a with parts := ⟨1 + part.nesting, true⟩ :: parts } else none
  | [] => none

end Alternatives

/-! ### Openings of groups -/

/-- Turns a setting on or off by its letter; some settings do not matter here. -/
def Settings.change (s : Settings) (letter : Char) (value : Bool) : Settings :=
  if letter = 'i' then { s with ignoreCase := value }
  else if letter = 'u' then { s with unicode := value }
  else if letter = 'x' then { s with spaced := value }
  else s

inductive Opening where
  | group (settings : Settings)
  | named (name : List Char)
  /-- No group: the settings change up to the end of the group around. -/
  | change (settings : Settings)

/-- Letters of settings up to a colon or a closing parenthesis, after those already seen (last
one first). Letters after a hyphen turn settings off; no sign is repeated, and a hyphen is not
the last one. -/
def settingLetters (s : Settings) (seen : List Char) : List Char → Option (Opening × List Char)
  | [] => none
  | c :: rest =>
    if c = ':' ∨ c = ')' then
      if seen.head? = some '-' then none
      else if c = ':' then some (.group s, rest)
      else if seen.isEmpty then none
      else some (.change s, rest)
    else if c ∈ seen ∨ c ∉ ['-', 'i', 'm', 's', 'U', 'u', 'R', 'x'] then none
    else settingLetters (s.change c ('-' ∉ seen)) (c :: seen) rest

/-- The name of a group up to an angle bracket. -/
def groupName (cs : List Char) : Option (Opening × List Char) :=
  let name := cs.takeWhile (· ≠ '>')
  match name, cs.dropWhile (· ≠ '>') with
  | first :: others, _ :: rest =>
    let inName (c : Char) : Bool := c ∈ ['_', '.', '[', ']'] || Text.isLetterOrNumber c
    if (first = '_' || Text.isLetter first) && others.all inName then some (.named name, rest)
    else none
  | _, _ => none

/-- What follows an opening parenthesis. Conditions on the text around are refused. -/
def opening (s : Settings) : List Char → Option (Opening × List Char)
  | '?' :: 'P' :: '<' :: rest => groupName rest
  | '?' :: '<' :: rest => if [some '=', some '!'].contains rest.head? then none else groupName rest
  | '?' :: rest => settingLetters s [] rest
  | cs => some (.group s, cs)

/-! ### Whole patterns -/

/-- An open group: the settings to return to, and what stands before it. -/
structure OpenGroup where
  settings : Settings
  before : Alternatives

/-- Where reading has got to: the settings in force, the names of groups so far, the innermost
group, and the groups around it. -/
structure Reader where
  settings : Settings
  names : List (List Char)
  current : Alternatives
  outer : List OpenGroup

namespace Reader

def initial : Reader := ⟨Settings.initial, [], Alternatives.empty, []⟩

def enter (r : Reader) (settings : Settings) : Reader :=
  { r with
    settings := settings
    current := Alternatives.empty
    outer := ⟨r.settings, r.current⟩ :: r.outer }

def start (r : Reader) : Opening → Option Reader
  | .group settings => some (r.enter settings)
  | .named name =>
    if name ∈ r.names then none
    else some { r.enter r.settings with names := name :: r.names }
  | .change settings => some { r with settings := settings, current := r.current.push ⟨0, false⟩ }

def leave (r : Reader) : Option Reader :=
  match r.outer with
  | [] => none
  | group :: outer =>
    some { r with
      settings := group.settings
      current := group.before.add (1 + r.current.nesting)
      outer := outer }

/-- Reads one part, bar or parenthesis from a text that is not empty. -/
def step (r : Reader) : List Char → Option (Reader × List Char)
  | '(' :: rest => do
    let (opening, rest) ← opening r.settings (r.settings.skip rest)
    some (← r.start opening, rest)
  | ')' :: rest => do some (← r.leave, rest)
  | '|' :: rest => some ({ r with current := r.current.bar }, rest)
  | '[' :: rest => do
    let (nesting, rest) ← characterSet r.settings rest
    some ({ r with current := r.current.add nesting }, rest)
  | '\x7b' :: _ => none
  | '.' :: rest =>
    if r.settings.unicode then some ({ r with current := r.current.add 0 }, rest) else none
  | c :: rest => do
    if c ∈ ['?', '*', '+'] then
      let current ← r.current.repeatLast
      some ({ r with current := current }, if rest.head? = some '?' then rest.drop 1 else rest)
    else if c ∈ ['^', '$'] then some ({ r with current := r.current.add 0 }, rest)
    else
      let (element, rest) ← element r.settings (c :: rest)
      if r.settings.allows element then some ({ r with current := r.current.add 0 }, rest)
      else none
  | [] => none

/-- Reads to the end and gives the nesting of the whole. Every step reads a character, so that
their number is enough as `budget`. -/
def finish : Nat → Reader → List Char → Option Nat
  | 0, _, _ => none
  | budget + 1, r, cs =>
    match r.settings.skip cs with
    | [] => if r.outer.isEmpty then some r.current.nesting else none
    | cs => do
      let (r, rest) ← r.step cs
      finish budget r rest

end Reader

def maxNesting : Nat := 250

/-- A text is a pattern that can be searched for. -/
def isValid (cs : List Char) : Bool :=
  match Reader.initial.finish (cs.length + 1) cs with
  | some nesting => nesting ≤ maxNesting
  | none => false

end SpotCheck.Pattern
