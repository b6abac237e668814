import SpotCheck.Command.Run

/-!
# The program

Reads the files that a command names, runs the command on them as a function, writes the files
that it has changed, prints what it says and ends with its exit code.
-/

namespace SpotCheck

open Command

/-- Adds what stands on the way that the parts of a name lead, from a path that has been reached
under the name `reached` on. -/
def probe (files : Files) (reached : String) (path : List String) : List String → IO Files
  | [] => pure files
  | part :: rest => do
    let name := reached ++ part
    let path :=
      if part = "" ∨ part = "." then path
      else if part = ".." then Files.parent path
      else path ++ [part]
    try
      let contents ← IO.FS.readBinFile (if name = "" then "/" else name)
      pure (files.put path (.file contents.data.toList))
    catch
      | .inappropriateType .. => probe (files.put path .directory) (name ++ "/") path rest
      | _ => pure files

/-- What stands under the names that an action uses. -/
def gather (action : Action) : IO Files :=
  action.fileNames.foldlM (fun files name => probe files "" [] (name.splitOn "/")) Files.empty

/-- Writes the files that an action has changed. -/
def settle (action : Action) (before after : Files) : IO Unit :=
  action.fileNames.forM fun name =>
    match after.read name with
    | .ok contents =>
      if (before.read name).toOption = some contents then pure ()
      else IO.FS.writeBinFile name ⟨contents.toArray⟩
    | .error _ => pure ()

/-- Runs a command and measures the time that it takes. -/
def perform (invocation : Invocation) (files : Files) (limits : Limits) : IO (Report × Nat) := do
  let start ← IO.monoNanosNow
  let report ← IO.lazyPure fun _ => invocation.report files limits
  let stop ← IO.monoNanosNow
  pure (report, stop - start)

/-- The exit code under which a shell reports a process that was aborted. -/
def abortCode : Nat := 134

end SpotCheck

open SpotCheck Command in
def main (arguments : List String) : IO UInt32 := do
  match Invocation.parse? arguments with
  | none =>
    IO.eprintln "Usage: zkbind [--log <LOG>] <srs|prove|verify|run|sizes> [OPTIONS]"
    pure 2
  | some invocation =>
    let files ← gather invocation.action
    let (report, time) ← perform invocation files Limits.usual
    settle invocation.action files report.files
    IO.print (String.join (report.printed.map (Piece.show time)))
    IO.eprint report.ending.errorText
    pure (UInt32.ofNat (report.ending.exitCode?.getD abortCode))
