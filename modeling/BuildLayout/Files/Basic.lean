import BuildLayout.Project.Error

/-! # Files

    What programs see of a file system: for each location a file, a directory, or the reason
    why there is nothing. -/

namespace BuildLayout

/-- What stands at a location. -/
inductive Found where
  | file (bytes : ByteArray)
  | directory
  | nothing (reason : FileFault)

/-- A file system, as far as reading goes. -/
abbrev Files := Location → Found

/-- The text of the file at a location. -/
def Files.text (files : Files) (l : Location) : Except FileFault String :=
  match files l with
  | .nothing reason => .error reason
  | .directory => .error .directory
  | .file bytes =>
    match String.fromUTF8? bytes with
    | some text => .ok text
    | none => .error .notText

end BuildLayout
