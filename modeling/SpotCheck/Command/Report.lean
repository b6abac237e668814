import SpotCheck.Fault
import SpotCheck.Files

/-!
# What a command leaves behind

A command prints text, between which measured times stand, may change files, and ends well, with
an error that is shown together with the chain of its causes, or not of its own accord.
-/

namespace SpotCheck.Command

inductive Piece where
  | text (text : String)
  | elapsed
  deriving DecidableEq

/-- A number in a unit that is a power of ten, in decimal without trailing zeros. -/
def shortDecimal (number unit : Nat) : String :=
  let rest := toString (unit + number % unit)
  let fraction := ((rest.toList.drop 1).reverse.dropWhile (· = '0')).reverse
  toString (number / unit) ++
    if fraction.isEmpty then "" else "." ++ String.ofList fraction

/-- A duration in nanoseconds, in the largest unit that it reaches. -/
def duration (nanoseconds : Nat) : String :=
  if nanoseconds < 1000 then toString nanoseconds ++ "ns"
  else if nanoseconds < 1000000 then shortDecimal nanoseconds 1000 ++ "µs"
  else if nanoseconds < 1000000000 then shortDecimal nanoseconds 1000000 ++ "ms"
  else shortDecimal nanoseconds 1000000000 ++ "s"

/-- The text of a piece when every measurement has given the same time. -/
def Piece.show (nanoseconds : Nat) : Piece → String
  | .text words => words
  | .elapsed => duration nanoseconds

inductive Ending where
  | success
  /-- An error with its causes, outermost first. -/
  | failure (chain : List String)
  | fault (fault : Fault)
  /-- The system refused so many bytes, which ends the process on the spot. -/
  | aborted (bytes : Nat)

structure Report where
  printed : List Piece
  files : Files
  ending : Ending

def indent (first others : String) (text : String) : String :=
  first ++ String.intercalate ("\n" ++ others) (text.splitOn "\n")

/-- A number and its cause; the number stands in five places. -/
def numbered (number : Nat) (cause : String) : String :=
  let digits := toString number
  let blanks := String.ofList (List.replicate (5 - digits.length) ' ')
  indent (blanks ++ digits ++ ": ") "       " cause

/-- The causes of an error; they are numbered when there are several. -/
def showCauses : List String → String
  | [] => ""
  | [cause] => "\nCaused by:\n" ++ indent "    " "    " cause ++ "\n"
  | causes =>
    "\nCaused by:\n" ++
      String.join (causes.zipIdx.map fun (cause, number) => numbered number cause ++ "\n")

def Ending.errorText : Ending → String
  | success => ""
  | failure [] => ""
  | failure (error :: causes) => "Error: " ++ error ++ "\n" ++ showCauses causes
  | fault f => "fault: " ++ f.message ++ "\n"
  | aborted bytes => "memory allocation of " ++ toString bytes ++ " bytes failed\n"

/-- The exit code, unless the process has not come to its end. -/
def Ending.exitCode? : Ending → Option Nat
  | success => some 0
  | failure _ => some 1
  | fault _ => some 101
  | aborted _ => none

end SpotCheck.Command
