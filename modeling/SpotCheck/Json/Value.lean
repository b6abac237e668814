/-!
# JSON values and their text

A value as it is written: the members of an object keep their order and may repeat a name. Of
numbers only those are told apart that are written as plain natural numbers and fit a word. A
string may spell out half of a surrogate pair, and then it is no text.
-/

namespace SpotCheck

inductive Json where
  | null
  | bool (value : Bool)
  /-- A number; its value if it is a word, written without sign, fraction and exponent. -/
  | number (value : Option Nat)
  | string (text : Option String)
  | array (items : List Json)
  | object (members : List (Option String × Json))

namespace Json

def ofNat (n : Nat) : Json := number (some n)

def ofText (text : String) : Json := string (some text)

/-- An object with the given members. -/
def record (members : List (String × Json)) : Json :=
  object (members.map fun (name, value) => (some name, value))

/-! ### Strings -/

/-- Two hexadecimal digits. -/
def hexPair (n : Nat) : String :=
  String.ofList [Nat.digitChar (n / 16), Nat.digitChar (n % 16)]

/-- A character inside a string. -/
def escape (c : Char) : String :=
  if c = '\x22' then "\\\""
  else if c = '\x5c' then "\\\\"
  else if c = '\n' then "\\n"
  else if c = '\r' then "\\r"
  else if c = '\t' then "\\t"
  else if c.toNat = 8 then "\\b"
  else if c.toNat = 12 then "\\f"
  else if c.toNat < 32 then "\\u00" ++ hexPair c.toNat
  else c.toString

/-- A string with its quotes. -/
def quote (text : String) : String :=
  "\"" ++ text.foldl (fun done c => done ++ escape c) "" ++ "\""

/-! ### Indented text -/

/-- A line break and an indentation. -/
def newline (depth : Nat) : String := "\n" ++ String.ofList (List.replicate (2 * depth) ' ')

/-- Items between brackets, each on a line of its own; nothing between brackets when there are
none. -/
def block (opening closing : String) (depth : Nat) (items : List String) : String :=
  if items.isEmpty then opening ++ closing
  else
    opening ++ String.intercalate "," (items.map (newline (depth + 1) ++ ·)) ++ newline depth ++
      closing

mutual

/-- The text of a value, indented by two blanks for each level of nesting. -/
def pretty (depth : Nat) : Json → String
  | null => "null"
  | bool value => if value then "true" else "false"
  | number value => toString (value.getD 0)
  | string text => quote (text.getD "")
  | array items => block "[" "]" depth (prettyItems (depth + 1) items)
  | object members => block "\x7b" "\x7d" depth (prettyMembers (depth + 1) members)

def prettyItems (depth : Nat) : List Json → List String
  | [] => []
  | item :: items => pretty depth item :: prettyItems depth items

def prettyMembers (depth : Nat) : List (Option String × Json) → List String
  | [] => []
  | (name, value) :: members =>
    (quote (name.getD "") ++ ": " ++ pretty depth value) :: prettyMembers depth members

end

/-- The text of a value on several lines. -/
def render (value : Json) : String := pretty 0 value

end Json

end SpotCheck
