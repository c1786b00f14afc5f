import LinkQuality.Replay.Basic

/-!
# The replay command

Reads the files that the arguments name, replays, and writes the lines to standard output. A fault
is reported on standard error, and by the exit code: 2 for arguments that make no sense, 101 for
settings beyond what can be represented, and 1 for everything else.
-/

namespace LinkQuality.Replay

/-- The code of the fault that arises when a folder is read like a file. -/
def readsFolder : UInt32 := 21

/-- What is found at a path. -/
def readFile (path : String) : IO Found := do
  try
    let content ← IO.FS.readFile path
    pure (.text content)
  catch
    | .inappropriateType _ code _ => pure (if code = readsFolder then .folder else .nothing)
    | _ => pure .nothing

/-- The files that arguments name. -/
def readFiles (arguments : Arguments) : IO Files := do
  let paths := [arguments.settingsPath, arguments.bundlePath, arguments.tracePath].filterMap id
  let found ← paths.mapM fun path => do
    let file ← readFile path
    pure (path, file)
  pure fun path => (found.lookup path).getD .nothing

/-- The exit code for a fault. -/
def exitCode : Fault → UInt32
  | .arguments => 2
  | .horizonOverflow => 101
  | _ => 1

/-- What is reported about a fault. -/
def report : Fault → String
  | .arguments => "the arguments are not understood"
  | .horizonOverflow => "the horizon is too long"
  | fault => fault.message?.getD ""

end LinkQuality.Replay

open LinkQuality in
def main (arguments : List String) : IO UInt32 := do
  let files ← match Replay.Arguments.ofList? arguments with
    | none => (pure fun _ => .nothing : IO Replay.Files)
    | some arguments => Replay.readFiles arguments
  match Replay.run files arguments with
  | .ok lines =>
    IO.print (Replay.output lines)
    pure 0
  | .error fault =>
    IO.eprintln s!"Error: {Replay.report fault}"
    pure (Replay.exitCode fault)
