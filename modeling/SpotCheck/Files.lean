import SpotCheck.Bytes

/-!
# Files

Operations that read or write files are functions of the files as they stand: a tree of named
directories below a working directory. Names are relative, and nothing is known above the working
directory but the way up; an access fails for one of a few reasons, each with its own text.
-/

namespace SpotCheck

inductive Node where
  | file (contents : Bytes)
  | directory
  deriving DecidableEq

inductive FileError where
  | missing
  | notDirectory
  | isDirectory
  | nameTooLong
  | zeroInName
  | notText
  /-- A cause outside this list, with its text. -/
  | other (text : String)
  deriving DecidableEq

def FileError.message : FileError → String
  | .missing => "No such file or directory (os error 2)"
  | .notDirectory => "Not a directory (os error 20)"
  | .isDirectory => "Is a directory (os error 21)"
  | .nameTooLong => "File name too long (os error 36)"
  | .zeroInName => "file name contained an unexpected NUL byte"
  | .notText => "stream did not contain valid UTF-8"
  | .other text => text

/-- The names that are known, each with the path that leads to it from the working directory. -/
structure Files where
  nodes : List (List String × Node)

namespace Files

def empty : Files := ⟨[]⟩

/-- A path that only leads up; the empty one is the working directory itself. -/
def leadsUp (path : List String) : Bool := path.all (· = "..")

def node? (files : Files) (path : List String) : Option Node :=
  if leadsUp path then some .directory else files.nodes.lookup path

/-- The directory around what a path leads to. -/
def parent (path : List String) : List String :=
  if leadsUp path then ".." :: path else path.dropLast

/-- Follows the parts of a name from a path on. Whatever is left behind on the way has to be a
directory; an empty part and a single dot stay there, two dots lead one directory up. -/
def walk (files : Files) (path : List String) : List String → Except FileError (List String)
  | [] => .ok path
  | part :: rest =>
    match files.node? path with
    | none => .error .missing
    | some (.file _) => .error .notDirectory
    | some .directory =>
      if part.utf8ByteSize > 255 then .error .nameTooLong
      else if part = "" ∨ part = "." then walk files path rest
      else if part = ".." then walk files (parent path) rest
      else walk files (path ++ [part]) rest

/-- The parts of a name that may be one. -/
def parts (name : String) : Except FileError (List String) :=
  if name.contains '\x00' then .error .zeroInName
  else if name = "" then .error .missing
  else if name.utf8ByteSize > 4095 then .error .nameTooLong
  else .ok (name.splitOn "/")

def locate (files : Files) (name : String) : Except FileError (List String) := do
  walk files [] (← parts name)

/-- The parts of a name without the slashes at its end. -/
def partsOfNew (name : String) : Except FileError (List String) := do
  .ok ((← parts name).reverse.dropWhile (· = "")).reverse

def read (files : Files) (name : String) : Except FileError Bytes := do
  match files.node? (← files.locate name) with
  | some (.file contents) => .ok contents
  | some .directory => .error .isDirectory
  | none => .error .missing

def readText (files : Files) (name : String) : Except FileError String := do
  match Bytes.toText? (← files.read name) with
  | some text => .ok text
  | none => .error .notText

def put (files : Files) (path : List String) (node : Node) : Files :=
  ⟨(path, node) :: files.nodes.filter (·.1 ≠ path)⟩

/-- Creates a file or replaces its contents. A name that ends in a slash is that of a directory,
whether there is one or not; then only what stands before its last part has to be a directory. -/
def write (files : Files) (name : String) (contents : Bytes) : Except FileError Files := do
  let new ← partsOfNew name
  if name.endsWith "/" then
    let _ ← walk files [] (new.dropLast ++ ["."])
    .error .isDirectory
  else
    let path ← walk files [] new
    match files.node? path with
    | some .directory => .error .isDirectory
    | _ => .ok (files.put path (.file contents))

/-- Creates a directory under a name that is free; the name may end in slashes. -/
def makeDirectory (files : Files) (name : String) : Option Files := do
  let path ← (partsOfNew name >>= walk files []).toOption
  if (files.node? path).isSome then none else some (files.put path .directory)

def remove (files : Files) (name : String) : Option Files := do
  let path ← (files.locate name).toOption
  match files.node? path with
  | some (.file _) => some ⟨files.nodes.filter (·.1 ≠ path)⟩
  | _ => none

end Files

end SpotCheck
