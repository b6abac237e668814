import SpotCheck.Text.GraphemeExtend
import SpotCheck.Text.Unprintable

/-!
# Quoted text

A text is shown between quotes in such a way that every character can be told: the quote and the
backslash are preceded by a backslash, four control characters have names, and all else that
cannot be seen on its own is written as its code point in braces.
-/

namespace SpotCheck.Text

/-- A code point in lower-case hexadecimal without leading zeros. -/
def hexadecimal (n : Nat) : String := String.ofList (Nat.toDigits 16 n)

/-- Letters that are not drawn: they fill the places of missing parts of a Hangul syllable. -/
def fillers : Ranges := [(0x115f, 0x1160), (0x3164, 0x3164), (0xffa0, 0xffa0)]

/-- Sound marks of half width, which extend the character before but are drawn next to it. -/
def halfWidthMarks : Ranges := [(0xff9e, 0xff9f)]

/-- A mark that would be drawn on the character before it. -/
def isDrawnOnto (c : Char) : Bool :=
  graphemeExtend.contains c.toNat && !halfWidthMarks.contains c.toNat

/-- Shown by its code point: a mark that would be drawn on the character before it, or a
character that is not drawn. -/
def isHidden (c : Char) : Bool :=
  if 0x20 ≤ c.toNat ∧ c.toNat ≤ 0x7e then false
  else isDrawnOnto c || unprintable.contains c.toNat || fillers.contains c.toNat

/-- A character as it stands between quotes of a kind. -/
def escape (quote c : Char) : String :=
  if c = '\x00' then "\\0"
  else if c = '\t' then "\\t"
  else if c = '\r' then "\\r"
  else if c = '\n' then "\\n"
  else if c = quote ∨ c = '\x5c' then "\\" ++ c.toString
  else if isHidden c then "\\u\x7b" ++ hexadecimal c.toNat ++ "\x7d"
  else c.toString

def quoted (text : String) : String :=
  "\"" ++ String.join (text.toList.map (escape '\x22')) ++ "\""

def quotedCharacter (c : Char) : String := "'" ++ escape '\x27' c ++ "'"

end SpotCheck.Text
