import SpotCheck.Pattern.Element

/-!
# Sets of characters in patterns

A set stands in brackets. Its members are characters, ranges, named classes, shorthands and
further sets; two signs in a row are an operator between the members on its left and on its
right. Negation may follow the opening bracket, and a closing bracket right after that is a
member.
-/

namespace SpotCheck.Pattern

/-- An open set: the nesting of all that is left of the last operator, if there is one, and that
of each member after it. -/
structure OpenSet where
  left : Option Nat
  members : List Nat

namespace OpenSet

def empty : OpenSet := ⟨none, []⟩

/-- Adds a member. -/
def push (set : OpenSet) (nesting : Nat) : OpenSet :=
  { set with members := nesting :: set.members }

/-- The nesting of what stands between the brackets. -/
def nesting (set : OpenSet) : Nat :=
  match set.left with
  | none => nestingOf set.members
  | some left => 1 + max left (nestingOf set.members)

/-- Goes on behind an operator. -/
def operator (set : OpenSet) : OpenSet := ⟨some set.nesting, []⟩

end OpenSet

/-- The names of classes. -/
def classNames : List String :=
  ["alnum", "alpha", "ascii", "blank", "cntrl", "digit", "graph", "lower", "print", "punct",
    "space", "upper", "word", "xdigit"]

/-- A named class after its opening bracket: whether it is negated, and the rest. -/
def namedClass? : List Char → Option (Bool × List Char)
  | ':' :: cs =>
    let (negated, cs) := match cs with
      | '^' :: rest => (true, rest)
      | cs => (false, cs)
    match cs.dropWhile (· ≠ ':') with
    | ':' :: ']' :: rest =>
      if String.ofList (cs.takeWhile (· ≠ ':')) ∈ classNames then some (negated, rest) else none
    | _ => none
  | _ => none

/-- A named class that may stand in a set. -/
def Settings.allowsNamed (s : Settings) (negated : Bool) : Bool :=
  if s.unicode then !s.ignoreCase else !negated

/-- An element that may be a member of a set. -/
def Settings.allowsElement (s : Settings) : Element → Bool
  | .literal l => s.allowsMember l
  | .shorthand negated => !s.unicode && !negated
  | .position _ => false

/-- Reads the hyphens at the start of a set, each of which is a member. -/
def leadingHyphens (s : Settings) (set : OpenSet) : List Char → OpenSet × List Char
  | '-' :: rest => leadingHyphens s (set.push 0) (s.skip rest)
  | cs => (set, cs)
termination_by cs => cs.length
decreasing_by
  have := length_skip_le s rest
  simp only [List.length_cons]
  omega

/-- The start of a set after its opening bracket: negation, hyphens, or a closing bracket that is
a member. -/
def openSet? (s : Settings) (cs : List Char) : Option (OpenSet × List Char) :=
  let start := s.skip cs
  let (negated, cs) := match start with
    | '^' :: rest => (true, s.skip rest)
    | cs => (false, cs)
  let (set, cs) := leadingHyphens s OpenSet.empty cs
  let (set, cs) := match set.members, cs with
    | [], ']' :: rest => (set.push 0, s.skip rest)
    | _, cs => (set, cs)
  if (negated && !s.unicode) || (!set.members.isEmpty && s.unicode && s.ignoreCase) then none
  else some (set, cs)

/-- The character that decides whether a hyphen before it is a member. Where space is skipped,
blanks and one mark of a comment are passed over, but not the text of the comment. -/
def afterHyphen (s : Settings) (marked : Bool) : List Char → Option Char
  | [] => none
  | c :: rest =>
    if s.spaced && Text.isBlank c then afterHyphen s marked rest
    else if s.spaced && !marked && c = '#' then afterHyphen s true rest
    else some c

/-- A member that starts with an element, which may be the first character of a range. -/
def member (s : Settings) (cs : List Char) : Option (List Char) := do
  let (first, cs) ← element s cs
  if !s.allowsElement first then none
  let cs := s.skip cs
  match cs with
  | '-' :: rest =>
    if afterHyphen s false rest ∈ [some ']', some '-'] then some cs
    else
      let (last, cs) ← element s (s.skip rest)
      if !s.allowsElement last then none
      match first, last with
      | .literal first, .literal last => if first.char ≤ last.char then some cs else none
      | _, _ => none
  | cs => some cs

/-- Reads the members of the innermost of several open sets until the outermost is closed; gives
its nesting and the rest. Every step reads a character, so that their number is enough as
`budget`. -/
def members (s : Settings) : Nat → OpenSet → List OpenSet → List Char → Option (Nat × List Char)
  | 0, _, _, _ => none
  | budget + 1, set, outer, cs =>
    match s.skip cs with
    | [] => none
    | '[' :: rest =>
      match namedClass? rest with
      | some (negated, rest) =>
        if s.allowsNamed negated then members s budget (set.push 0) outer rest else none
      | none => do
        let (inner, rest) ← openSet? s rest
        members s budget inner (set :: outer) rest
    | ']' :: rest =>
      match outer with
      | [] => some (1 + set.nesting, rest)
      | parent :: outer => members s budget (parent.push (1 + set.nesting)) outer rest
    | '&' :: '&' :: rest => members s budget set.operator outer rest
    | '-' :: '-' :: rest => members s budget set.operator outer rest
    | '~' :: '~' :: rest => members s budget set.operator outer rest
    | cs => do members s budget (set.push 0) outer (← member s cs)

/-- A set after its opening bracket: its nesting, and the rest. -/
def characterSet (s : Settings) (cs : List Char) : Option (Nat × List Char) := do
  let (set, rest) ← openSet? s cs
  members s (rest.length + 1) set [] rest

end SpotCheck.Pattern
