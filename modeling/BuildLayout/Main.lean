import BuildLayout.Command.Line

/-! # The program

    Reads the files that a command may ask for, runs the command on them, and passes on what
    it prints and its exit code. -/

open BuildLayout

/-- The fault that a failed reading shows.  A directory opens like a file and only fails when it
    is read, with a code of its own; a path that leads through a file fails before. -/
def fileFault : IO.Error → FileFault
  | .noFileOrDirectory .. => .absent
  | .inappropriateType _ 21 _ => .directory
  | .inappropriateType .. => .throughFile
  | .invalidArgument _ 22 _ => .nullInName
  | .invalidArgument .. => .nameTooLong
  | .permissionDenied .. => .other "Permission denied (os error 13)"
  | e => .other (toString e)

/-- What stands at a location on disk. -/
def found (l : Location) : IO Found := do
  try
    return .file (← IO.FS.readBinFile l.text)
  catch e =>
    match fileFault e with
    | .directory => return .directory
    | fault => return .nothing fault

/-- The locations that a command may look at. -/
def asked : CommandLine.Reading → List Location
  | .run request => [request.project, request.project.join projectFileName]
  | _ => []

def main (arguments : List String) : IO UInt32 := do
  let seen ← (asked (CommandLine.read arguments)).mapM fun l => return (l, ← found l)
  let files : Files := fun l => (seen.lookup l).getD (.nothing .absent)
  let outcome := CommandLine.run files arguments
  IO.print outcome.stdout
  IO.eprint outcome.stderr
  return outcome.code.toUInt32
