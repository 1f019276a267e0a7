import BuildLayout.Files.Basic

/-! # File trees

    A file tree is a small file system held in memory: the files and directories below one
    starting point.  Paths are walked from there, component by component; `..` leads back only
    out of directories that exist, and nothing is to be found above the starting point or
    under the root.  Of two files with one name the later one counts, and a path is limited in
    its length and in that of each name. -/

namespace BuildLayout

/-- The files and the empty directories of a tree, each with the names that lead to it. -/
structure FileTree where
  files : List (List String × ByteArray)
  directories : List (List String)

namespace FileTree

/-- The names in a path that lead somewhere. -/
def names (path : String) : List String :=
  (Location.pieces path).filter fun piece => piece != "" && piece != "."

/-- Whether the names lead to a directory: one of its own, or one that something lies in. -/
def isDirectory (t : FileTree) (names : List String) : Bool :=
  names.isEmpty || t.directories.any (names.isPrefixOf ·) ||
    t.files.any fun (file, _) => names.isPrefixOf file && names != file

/-- The greatest length of a name in a path, in bytes. -/
def longestName : Nat := 255

/-- The greatest length of a path, in bytes. -/
def longestPath : Nat := 4095

/-- What the names lead to. -/
def look (t : FileTree) (names : List String) : Found :=
  match t.files.reverse.find? (·.1 == names) with
  | some (_, bytes) => .file bytes
  | none => if t.isDirectory names then .directory else .nothing .absent

/-- What the pieces of a path lead to from a directory, whose names are given last first. -/
def walk (t : FileTree) (here : List String) : List String → Found
  | [] => t.look here.reverse
  | piece :: rest =>
    match t.look here.reverse with
    | .file _ => .nothing .throughFile
    | .nothing reason => .nothing reason
    | .directory =>
      if piece = "" ∨ piece = "." then t.walk here rest
      else if piece = ".." then
        match here with
        | [] => .nothing .absent
        | _ :: above => t.walk above rest
      else if longestName < piece.utf8ByteSize then .nothing .nameTooLong
      else t.walk (piece :: here) rest

/-- The tree as a file system whose current directory is the starting point. -/
def toFiles (t : FileTree) : Files := fun l =>
  if l.text = "" then .nothing .absent
  else if l.text.toList.any (·.toNat == 0) then .nothing .nullInName
  else if longestPath < l.text.utf8ByteSize then .nothing .nameTooLong
  else if l.isAbsolute then .nothing .absent
  else t.walk [] (Location.pieces l.text)

end FileTree

end BuildLayout
