import SpotCheck.Hex
import SpotCheck.Text.Blank

/-!
# Elements of patterns

A pattern describes texts. Here it only matters whether a text is a pattern that can be searched
for, and how deeply its parts are nested. This module reads its elements: characters, escapes,
and what may stand between them.

A pattern may hold letters of any script, but nothing that needs a table of them: with Unicode in
force no class of digits, blanks or words, no edge of a word, and no character of which the case
is ignored. Without Unicode a character is a byte, and nothing may stand for a byte that is no
character on its own.

Patterns stand in braces and hold no closing brace. So a form in braces is never complete, and an
opening brace is wrong wherever it would start one.
-/

namespace SpotCheck.Pattern

/-- The settings in force at a place of a pattern. -/
structure Settings where
  ignoreCase : Bool
  unicode : Bool
  /-- Blanks and comments between elements are skipped. -/
  spaced : Bool

/-- The settings at the start of a pattern. -/
def Settings.initial : Settings := ⟨false, true, false⟩

/-! ### Blanks and comments -/

/-- What follows the blanks and comments at the front; a comment ends with its line. -/
def dropSpace (inComment : Bool) : List Char → List Char
  | [] => []
  | c :: rest =>
    if inComment then dropSpace (c ≠ '\n') rest
    else if Text.isBlank c then dropSpace false rest
    else if c = '#' then dropSpace true rest
    else c :: rest

/-- Skips blanks and comments where they are skipped. -/
def Settings.skip (s : Settings) (cs : List Char) : List Char :=
  if s.spaced then dropSpace false cs else cs

theorem length_dropSpace_le (inComment : Bool) (cs : List Char) :
    (dropSpace inComment cs).length ≤ cs.length := by
  induction cs generalizing inComment with
  | nil => simp [dropSpace]
  | cons c rest ih =>
    have h1 := ih (c ≠ '\n')
    have h2 := ih false
    have h3 := ih true
    simp only [dropSpace, List.length_cons]
    split
    · omega
    · split
      · omega
      · split
        · omega
        · simp

theorem length_skip_le (s : Settings) (cs : List Char) : (s.skip cs).length ≤ cs.length := by
  simp only [Settings.skip]
  split
  · exact length_dropSpace_le false cs
  · exact Nat.le_refl _

/-! ### Characters -/

/-- A character, and whether it is written as a byte of two digits. -/
structure Literal where
  char : Char
  isByte : Bool

/-- A single character that may stand in a pattern. -/
def Settings.allowsLiteral (s : Settings) (l : Literal) : Bool :=
  if s.unicode then !s.ignoreCase else !(l.isByte && 0x80 ≤ l.char.toNat)

/-- A character that may stand in a set, where all are bytes or none. -/
def Settings.allowsMember (s : Settings) (l : Literal) : Bool :=
  if s.unicode then !s.ignoreCase else l.char.toNat < 0x80

/-- What a character or an escape stands for. -/
inductive Element where
  | literal (literal : Literal)
  /-- Digits, blanks or characters of words, or all but those. -/
  | shorthand (negated : Bool)
  /-- A position in the text, maybe one at the edge of a word. -/
  | position (ofWord : Bool)

def Element.ofChar (c : Char) : Element := literal ⟨c, false⟩

def Settings.allows (s : Settings) : Element → Bool
  | .literal l => s.allowsLiteral l
  | .shorthand negated => !s.unicode && !negated
  | .position ofWord => !(s.unicode && ofWord)

/-! ### Escapes -/

/-- A number of hexadecimal digits, between which space may be skipped, and the rest. -/
def codePoint (s : Settings) : Nat → Nat → List Char → Option (Nat × List Char)
  | 0, n, cs => some (n, s.skip cs)
  | count + 1, n, cs =>
    match s.skip cs with
    | [] => none
    | c :: rest => do codePoint s count (16 * n + (← Hex.value? c)) rest

/-- A character given by its code point in so many digits. -/
def codedLiteral (s : Settings) (count : Nat) (cs : List Char) : Option (Element × List Char) := do
  let (n, rest) ← codePoint s count 0 cs
  if n.isValidChar then some (.literal ⟨Char.ofNat n, count = 2⟩, rest) else none

/-- A character that stands for itself after a backslash. -/
def isEscapable (c : Char) : Bool := c.toNat < 0x80 && !c.isAlphanum && c ∉ ['<', '>']

/-- What a letter or an angle bracket after a backslash stands for. -/
def escaped? (c : Char) : Option Element :=
  if c ∈ ['d', 's', 'w'] then some (.shorthand false)
  else if c ∈ ['D', 'S', 'W'] then some (.shorthand true)
  else if c ∈ ['A', 'z'] then some (.position false)
  else if c ∈ ['b', 'B', '<', '>'] then some (.position true)
  else if c = 'a' then some (.ofChar '\x07')
  else if c = 't' then some (.ofChar '\t')
  else if c = 'n' then some (.ofChar '\n')
  else if c = 'v' then some (.ofChar '\x0b')
  else if c = 'f' then some (.ofChar '\x0c')
  else if c = 'r' then some (.ofChar '\r')
  else none

/-- The element after a backslash, and the rest. -/
def escape (s : Settings) : List Char → Option (Element × List Char)
  | [] => none
  | c :: rest =>
    if c = 'x' then codedLiteral s 2 rest
    else if c = 'u' then codedLiteral s 4 rest
    else if c = 'U' then codedLiteral s 8 rest
    else if isEscapable c then some (.ofChar c, rest)
    else (escaped? c).map fun element => (element, rest)

/-- The element at the front of a text, which is a character or an escape, and the rest. -/
def element (s : Settings) : List Char → Option (Element × List Char)
  | [] => none
  | '\x5c' :: rest => escape s rest
  | c :: rest => some (.ofChar c, rest)

/-! ### Nesting -/

/-- How deep a sequence of parts is nested: a single part as it is, several one level deeper than
the deepest of them. -/
def nestingOf : List Nat → Nat
  | [] => 0
  | [part] => part
  | parts => 1 + parts.foldl max 0

end SpotCheck.Pattern
