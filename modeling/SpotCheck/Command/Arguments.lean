import SpotCheck.ReferenceString.Provider

/-!
# The command line

A subcommand with its options. Every option has a long name, most have a letter; a value follows
as the next argument, after an equals sign, or directly after the letter. Two hyphens may stand at
the very end. The filter for log output may stand on either side of the subcommand.
-/

namespace SpotCheck.Command

inductive Action where
  | srs (points : Nat) (seed : Option String) (output : String)
  | prove (logRows : Nat) (srs config : Option String) (output : String)
  | verify (bundle : String) (srs : Option String)
  | run (srs : Option String) (iterations threads : Nat)
  | sizes (logRows : Nat)
  deriving DecidableEq

/-- The names of the files that an action may read or write. -/
def Action.fileNames : Action → List String
  | srs _ _ output => [output]
  | prove _ path config output => path.toList ++ config.toList ++ [output]
  | verify bundle path => bundle :: path.toList
  | run path _ _ => path.toList
  | sizes _ => []

structure Invocation where
  log : String
  action : Action
  deriving DecidableEq

def digits? (digits : List Char) : Option Nat :=
  if digits.isEmpty || !digits.all Char.isDigit then none
  else some (digits.foldl (fun n c => 10 * n + (c.toNat - 48)) 0)

/-- A decimal number below a limit, with or without a plus sign. Where signs are allowed, zero may
also have a minus sign. -/
def readNumber? (limit : Nat) (signed : Bool) (text : String) : Option Nat :=
  match text.toList with
  | '+' :: digits => (digits? digits).filter (· < limit)
  | '-' :: digits => if signed then (digits? digits).filter (· = 0) else none
  | digits => (digits? digits).filter (· < limit)

/-- The options of a subcommand: long name and letter. -/
abbrev OptionNames := List (String × Option Char)

/-- An argument split into the name of an option and a value that is attached to it. -/
def splitOption (known : OptionNames) (argument : String) : Option (String × Option String) :=
  match argument.toList with
  | '-' :: '-' :: rest =>
    let name := String.ofList (rest.takeWhile (· ≠ '='))
    let value := match rest.dropWhile (· ≠ '=') with
      | [] => none
      | _ :: value => some (String.ofList value)
    if known.any (·.1 = name) then some (name, value) else none
  | '-' :: letter :: rest =>
    match known.find? (·.2 = some letter) with
    | none => none
    | some (name, _) =>
      match rest with
      | [] => some (name, none)
      | '=' :: value => some (name, some (String.ofList value))
      | value => some (name, some (String.ofList value))
  | _ => none

/-- A value that follows as an argument of its own does not look like an option. -/
def isValue (argument : String) : Bool := argument = "-" || argument.toList.head? ≠ some '-'

/-- Reads options with their values; no option may be given twice, and nothing may follow after two
hyphens. -/
def readOptions (known : OptionNames) (done : List (String × String)) :
    List String → Option (List (String × String))
  | [] => some done
  | ["--"] => some done
  | argument :: rest =>
    match splitOption known argument with
    | none => none
    | some (name, attached) =>
      if done.any (·.1 = name) then none
      else match attached, rest with
        | some value, rest => readOptions known ((name, value) :: done) rest
        | none, value :: rest =>
          if isValue value then readOptions known ((name, value) :: done) rest else none
        | none, [] => none

def globalOptions : OptionNames := [("log", none)]

def optionsOf : String → Option OptionNames
  | "srs" => some [("points", some 'p'), ("seed", some 's'), ("output", some 'o')]
  | "prove" =>
    some [("log-rows", some 'l'), ("srs", some 's'), ("config", some 'c'), ("output", some 'o')]
  | "verify" => some [("bundle", some 'b'), ("srs", some 's')]
  | "run" => some [("srs", some 's'), ("iterations", some 'i'), ("threads", some 't')]
  | "sizes" => some [("log-rows", some 'l')]
  | _ => none

/-- A number of things among the options, or its default. -/
def count? (options : List (String × String)) (name : String) (default : Nat) : Option Nat :=
  match options.lookup name with
  | none => some default
  | some text => readNumber? (1 <<< 64) false text

/-- The binary logarithm of a number of rows among the options, or its default. -/
def logRows? (options : List (String × String)) : Option Nat :=
  match options.lookup "log-rows" with
  | none => some 6
  | some text => readNumber? (1 <<< 32) true text

/-- The name of a file among the options, if it is there; it is not empty. -/
def file? (options : List (String × String)) (name : String) : Option (Option String) :=
  match options.lookup name with
  | none => some none
  | some text => if text.isEmpty then none else some (some text)

def action? (options : List (String × String)) : String → Option Action
  | "srs" => do
    let points ← count? options "points" Provider.defaultPoints
    let output ← file? options "output"
    some (.srs points (options.lookup "seed") (output.getD "srs.bin"))
  | "prove" => do
    let logRows ← logRows? options
    let path ← file? options "srs"
    let config ← file? options "config"
    let output ← file? options "output"
    some (.prove logRows path config (output.getD "proof.json"))
  | "verify" => do
    let bundle ← file? options "bundle"
    let path ← file? options "srs"
    some (.verify (bundle.getD "proof.json") path)
  | "run" => do
    let path ← file? options "srs"
    let iterations ← count? options "iterations" 1
    let threads ← count? options "threads" 1
    some (.run path iterations threads)
  | "sizes" => do
    let logRows ← logRows? options
    some (.sizes logRows)
  | _ => none

/-- The arguments before the subcommand, the subcommand, and those after it. -/
def splitSubcommand (before : List String) : List String →
    Option (List String × String × List String)
  | [] => none
  | "--" :: _ => none
  | "--log" :: value :: rest => splitSubcommand (before ++ ["--log", value]) rest
  | argument :: rest =>
    if argument.startsWith "-" then splitSubcommand (before ++ [argument]) rest
    else some (before, argument, rest)

/-- What the arguments ask for, if they can be understood. -/
def Invocation.parse? (arguments : List String) : Option Invocation := do
  let (before, subcommand, after) ← splitSubcommand [] arguments
  let early ← readOptions globalOptions [] before
  let own ← optionsOf subcommand
  let options ← readOptions (globalOptions ++ own) [] after
  let action ← action? options subcommand
  let log := ((options.lookup "log").orElse fun _ => early.lookup "log").getD "warn"
  some ⟨log, action⟩

end SpotCheck.Command
