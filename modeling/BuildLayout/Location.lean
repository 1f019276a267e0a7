/-! # Locations

    A location is the text of a path whose components are separated by `/`.  Nothing is looked
    up and nothing is normalised: two different texts are two locations.

    A file system may also hold names that are no text at all, their bytes being no UTF-8.  Paths
    with such names are left out, and with them the failure of reports in JSON, which can name
    only paths that are text. -/

namespace BuildLayout

/-- The text of a path. -/
structure Location where
  text : String
  deriving DecidableEq, Repr

namespace Location

/-- Whether the path starts at the root. -/
def isAbsoluteText (path : String) : Bool := path.toList.head? == some '/'

/-- Whether the location starts at the root. -/
def isAbsolute (l : Location) : Bool := isAbsoluteText l.text

/-- Whether a further component can follow without a separator of its own. -/
def isOpen (l : Location) : Bool := l.text == "" || l.text.toList.getLast? == some '/'

/-- The location of `child` as seen from `base`: an absolute path stands for itself, any other
    follows the base after a separator. -/
def join (base : Location) (child : String) : Location :=
  if isAbsoluteText child then ⟨child⟩
  else if base.isOpen then ⟨base.text ++ child⟩
  else ⟨base.text ++ "/" ++ child⟩

/-- The location reached by joining one component after the other. -/
def joinAll (base : Location) (components : List String) : Location := components.foldl join base

/-- The pieces between the separators of a path, the empty ones included. -/
def pieces (path : String) : List String := (path.toList.splitOn '/').map String.ofList

/-- Drops the pieces at the end that name nothing: empty ones and single dots.  The first
    piece is kept as long as it is a dot, or the empty one in front of the root. -/
def trimPieces (absolute : Bool) (reversed : List String) : List String :=
  match reversed with
  | [] => []
  | [first] => if first = "" && !absolute then [] else [first]
  | last :: rest => if last = "" || last = "." then trimPieces absolute rest else last :: rest

/-- The location of the directory that holds the last component. -/
def parent (l : Location) : Location :=
  let absolute := l.isAbsolute
  match trimPieces absolute (pieces l.text).reverse with
  | [] => ⟨""⟩
  | _ :: rest =>
    match (trimPieces absolute rest).reverse with
    | [""] => ⟨"/"⟩
    | kept => ⟨"/".intercalate kept⟩

end Location

end BuildLayout
