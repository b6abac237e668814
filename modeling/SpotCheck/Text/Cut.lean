import SpotCheck.Fault

/-!
# Parts of a text by byte positions

Positions in a text count the bytes of its UTF-8 form. A part can only be cut out between two
characters; a position inside a character is a fault, that of the start before that of the end.
-/

namespace SpotCheck.Text

/-- Whether a position is between characters of a text that starts at `offset`. -/
def checkEdge (edge : Edge) (position offset : Nat) : List Char → Except Fault Unit
  | [] => .ok ()
  | c :: rest =>
    if position ≤ offset then .ok ()
    else if position < offset + c.utf8Size then .error (.insideCharacter edge position c offset)
    else checkEdge edge position (offset + c.utf8Size) rest

/-- The characters that start in a range of positions. -/
def between (start stop offset : Nat) : List Char → List Char
  | [] => []
  | c :: rest =>
    let others := between start stop (offset + c.utf8Size) rest
    if start ≤ offset ∧ offset < stop then c :: others else others

/-- The part of a text between two positions. -/
def cut (text : List Char) (start stop : Nat) : Except Fault (List Char) := do
  checkEdge .start start 0 text
  checkEdge .stop stop 0 text
  .ok (between start stop 0 text)

end SpotCheck.Text
