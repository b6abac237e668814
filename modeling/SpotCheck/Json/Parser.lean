import SpotCheck.Json.Value
import SpotCheck.Word

/-!
# Reading JSON

The grammar is the strict one: no comments, no trailing commas, no leading zeros, no control
characters inside strings, and nothing but blanks after the value.
-/

namespace SpotCheck.Json

def isBlank (c : Char) : Bool := c = ' ' || c = '\n' || c = '\t' || c = '\r'

def skipBlanks (cs : List Char) : List Char := cs.dropWhile isBlank

/-! ### Strings -/

/-- A character, or a unit of sixteen bits that is given by number. -/
inductive StringUnit where
  | char (c : Char)
  | code (n : Nat)

/-- The text that units spell; half a surrogate pair spells none. The last unit comes first in
`done`. -/
def assemble (done : List Char) : List StringUnit → Option String
  | [] => some (String.ofList done.reverse)
  | .char c :: units => assemble (c :: done) units
  | .code high :: .code low :: units =>
    if 0xd800 ≤ high ∧ high ≤ 0xdbff then
      if 0xdc00 ≤ low ∧ low ≤ 0xdfff then
        assemble (Char.ofNat (0x10000 + (high - 0xd800) * 0x400 + (low - 0xdc00)) :: done) units
      else none
    else if 0xdc00 ≤ high ∧ high ≤ 0xdfff then none
    else assemble (Char.ofNat high :: done) (.code low :: units)
  | .code n :: units =>
    if 0xd800 ≤ n ∧ n ≤ 0xdfff then none else assemble (Char.ofNat n :: done) units

def hexValue? (c : Char) : Option Nat :=
  if c.isDigit then some (c.toNat - 48)
  else if 'a' ≤ c ∧ c ≤ 'f' then some (c.toNat - 87)
  else if 'A' ≤ c ∧ c ≤ 'F' then some (c.toNat - 55)
  else none

/-- The character after a backslash, other than the one that announces a number. -/
def escaped? (c : Char) : Option Char :=
  if c = '\x22' ∨ c = '\x5c' ∨ c = '/' then some c
  else if c = 'b' then some '\x08'
  else if c = 'f' then some '\x0c'
  else if c = 'n' then some '\n'
  else if c = 'r' then some '\r'
  else if c = 't' then some '\t'
  else none

/-- Reads up to the closing quote. The last unit read comes first in `done`. -/
def stringUnits (done : List StringUnit) : List Char → Option (List StringUnit × List Char)
  | [] => none
  | '\x5c' :: 'u' :: a :: b :: c :: d :: rest =>
    match hexValue? a, hexValue? b, hexValue? c, hexValue? d with
    | some a, some b, some c, some d =>
      stringUnits (.code (((a * 16 + b) * 16 + c) * 16 + d) :: done) rest
    | _, _, _, _ => none
  | '\x5c' :: c :: rest =>
    match escaped? c with
    | some c => stringUnits (.char c :: done) rest
    | none => none
  | c :: rest =>
    if c = '\x22' then some (done.reverse, rest)
    else if c.toNat < 32 ∨ c = '\x5c' then none
    else stringUnits (.char c :: done) rest

/-- A string after its opening quote: its text, if it has one, and the rest. -/
def stringBody (cs : List Char) : Option (Option String × List Char) := do
  let (units, rest) ← stringUnits [] cs
  some (assemble [] units, rest)

/-! ### Numbers -/

/-- One digit or more. -/
def digits (cs : List Char) : Option (List Char × List Char) :=
  let (run, rest) := cs.span Char.isDigit
  if run.isEmpty then none else some (run, rest)

/-- The digits before the point: no zero in front of another digit. -/
def wholeDigits (cs : List Char) : Option (List Char × List Char) := do
  let (run, rest) ← digits cs
  if run.head? = some '0' ∧ run.length > 1 then none else some (run, rest)

/-- What follows a point, if there is one; the flag tells whether there is. -/
def fraction : List Char → Option (Bool × List Char)
  | '.' :: cs => (digits cs).map fun (_, rest) => (true, rest)
  | cs => some (false, cs)

/-- An exponent, if there is one. -/
def exponent : List Char → Option (Bool × List Char)
  | c :: cs =>
    if c = 'e' ∨ c = 'E' then
      let unsigned := match cs with
        | s :: rest => if s = '+' ∨ s = '-' then rest else cs
        | [] => cs
      (digits unsigned).map fun (_, rest) => (true, rest)
    else some (false, c :: cs)
  | [] => some (false, [])

def decimal (run : List Char) : Nat := run.foldl (fun n c => 10 * n + (c.toNat - 48)) 0

/-- The word that decimal digits stand for. Without a zero in front, no word takes more than
twenty digits. -/
def decimalWord? (run : List Char) : Option Nat :=
  if run.length > 20 then none
  else if decimal run < Word.limit then some (decimal run) else none

def numberBody (negative : Bool) (cs : List Char) : Option (Json × List Char) := do
  let (run, rest) ← wholeDigits cs
  let (hasFraction, rest) ← fraction rest
  let (hasExponent, rest) ← exponent rest
  let plain := !negative && !hasFraction && !hasExponent
  some (number (if plain then decimalWord? run else none), rest)

/-! ### Values -/

/-- Drops a word from the front. -/
def word (text : String) (value : Json) (cs : List Char) : Option (Json × List Char) :=
  if text.toList.isPrefixOf cs then some (value, cs.drop text.length) else none

mutual

/-- A value and the rest. Every nested value is shorter, so that the number of characters is
enough as `budget`. -/
def value : Nat → List Char → Option (Json × List Char)
  | 0, _ => none
  | budget + 1, cs =>
    match skipBlanks cs with
    | [] => none
    | c :: rest =>
      if c = 'n' then word "null" null (c :: rest)
      else if c = 't' then word "true" (bool true) (c :: rest)
      else if c = 'f' then word "false" (bool false) (c :: rest)
      else if c = '\x22' then (stringBody rest).map fun (text, rest) => (string text, rest)
      else if c = '-' then numberBody true rest
      else if c = '[' then
        match skipBlanks rest with
        | ']' :: rest => some (array [], rest)
        | _ => (items budget [] rest).map fun (items, rest) => (array items, rest)
      else if c = '\x7b' then
        match skipBlanks rest with
        | '\x7d' :: rest => some (object [], rest)
        | _ => (members budget [] rest).map fun (members, rest) => (object members, rest)
      else numberBody false (c :: rest)

/-- Items up to the closing bracket, after those read so far (last one first). -/
def items : Nat → List Json → List Char → Option (List Json × List Char)
  | 0, _, _ => none
  | budget + 1, done, cs => do
    let (item, rest) ← value budget cs
    match skipBlanks rest with
    | ',' :: rest => items budget (item :: done) rest
    | ']' :: rest => some ((item :: done).reverse, rest)
    | _ => none

/-- Members up to the closing brace, after those read so far (last one first). -/
def members : Nat → List (Option String × Json) → List Char →
    Option (List (Option String × Json) × List Char)
  | 0, _, _ => none
  | budget + 1, done, cs =>
    match skipBlanks cs with
    | '\x22' :: rest => do
      let (name, rest) ← stringBody rest
      match skipBlanks rest with
      | ':' :: rest => do
        let (item, rest) ← value budget rest
        match skipBlanks rest with
        | ',' :: rest => members budget ((name, item) :: done) rest
        | '\x7d' :: rest => some (((name, item) :: done).reverse, rest)
        | _ => none
      | _ => none
    | _ => none

end

/-- The value that a text stands for. -/
def parse? (text : String) : Option Json := do
  let cs := text.toList
  let (v, rest) ← value (cs.length + 1) cs
  if (skipBlanks rest).isEmpty then some v else none

end SpotCheck.Json
