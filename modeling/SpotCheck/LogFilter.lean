import SpotCheck.Pattern.Nesting
import SpotCheck.Text.Cut

/-!
# Log filters

A filter is a list of directives between commas. A directive is a level, a target, or a target or
span with a level after an equals sign; the level may be missing. A span may have fields in
braces, each with a value or a pattern for it. Only whether a text is a filter matters here.

A directive is read without the blanks around it, but its parts are cut out of the directive as it
stands, at the positions that they have without the blanks. So a part is not where it should be
when there are blanks in front, and a position may even be inside a character, which is a fault.
-/

namespace SpotCheck.LogFilter

/-- Six levels by name, in any case, or by number. -/
def isLevel (text : String) : Bool :=
  let name := text.map Char.toLower
  let digits := (text.toList.dropWhile (· = '+')).dropWhile (· = '0')
  name ∈ ["trace", "debug", "info", "warn", "error", "off"] ||
    (text.toList.any Char.isDigit && (text.toList.drop 1).all Char.isDigit &&
      (text.front = '+' || text.front.isDigit) &&
      (digits.isEmpty || [['1'], ['2'], ['3'], ['4'], ['5']].contains digits))

/-! ### Fields -/

/-- Digits, at least one of them on either side of a point. -/
def isDecimal (cs : List Char) : Bool :=
  match cs.dropWhile Char.isDigit with
  | [] => !cs.isEmpty
  | '.' :: rest => rest.all Char.isDigit && cs.length ≠ 1
  | _ => false

/-- A whole number, maybe with a sign. -/
def isInteger : List Char → Bool
  | '+' :: cs => !cs.isEmpty && cs.all Char.isDigit
  | '-' :: cs => !cs.isEmpty && cs.all Char.isDigit
  | cs => !cs.isEmpty && cs.all Char.isDigit

/-- A number, maybe with a sign and an exponent, or a name of what is none or has no end. -/
def isNumber (cs : List Char) : Bool :=
  let unsigned := match cs with
    | '+' :: rest => rest
    | '-' :: rest => rest
    | cs => cs
  let lower := unsigned.map Char.toLower
  String.ofList lower ∈ ["inf", "infinity", "nan"] ||
    (isDecimal (lower.takeWhile (· ≠ 'e')) &&
      match lower.dropWhile (· ≠ 'e') with
      | [] => true
      | _ :: exponent => isInteger exponent)

/-- A field: a name, maybe with a value up to a second equals sign. A value that is no number is a
pattern. -/
def isField (cs : List Char) : Bool :=
  match cs.dropWhile (· ≠ '=') with
  | [] => !cs.isEmpty
  | _ :: rest =>
    let value := rest.takeWhile (· ≠ '=')
    isNumber value || Pattern.isValid value

/-! ### Directives -/

/-- A character that a directive may start with. -/
def isStart (c : Char) : Bool := c ∈ ['-', ':', '_'] || Text.isLetterOrNumber c

/-- How far a directive has been read, and where the part that is being read starts. -/
inductive State where
  | start
  | word
  | span (since : Nat)
  | field (since : Nat)
  | fields
  | target
  | level (since : Nat)
  | wrong

/-- Reads one more character, which is at a position, of a directive that stands as `whole`. -/
def State.next (whole : List Char) (position : Nat) : State → Char → Except Fault State
  | start, c => .ok (if c = '[' then span (position + 1) else if isStart c then word else wrong)
  | word, c => do
    if c = '=' ∨ c = '[' then
      let _ ← Text.cut whole 0 position
      .ok (if c = '=' then level (position + 1) else span (position + 1))
    else .ok word
  | span since, c => do
    if c = ']' ∨ c = '\x7b' then
      let _ ← Text.cut whole since position
      .ok (if c = ']' then target else field (position + 1))
    else .ok (span since)
  | field since, c => do
    if c = '\x7d' then .ok (if isField (← Text.cut whole since position) then fields else wrong)
    else .ok (field since)
  | fields, c => .ok (if c = ']' then target else wrong)
  | target, c => .ok (if c = '=' then level (position + 1) else wrong)
  | level since, _ => .ok (level since)
  | wrong, _ => .ok wrong

/-- Reads the characters from a position on. -/
def State.read (whole : List Char) (position : Nat) (state : State) :
    List Char → Except Fault State
  | [] => .ok state
  | c :: rest => do (← state.next whole position c).read whole (position + c.utf8Size) rest

def isDirective (text : String) : Except Fault Bool := do
  let whole := text.toList
  match ← State.start.read whole 0 (Text.trim whole) with
  | .word | .target => .ok true
  | .level since =>
    let level ← Text.cut whole since text.utf8ByteSize
    .ok (level.isEmpty || isLevel (String.ofList level))
  | _ => .ok false

/-- A filter; the empty text is one. The first directive that is none decides. -/
def isValid (text : String) : Except Fault Bool :=
  ((text.splitOn ",").filter (· ≠ "")).allM isDirective

end SpotCheck.LogFilter
