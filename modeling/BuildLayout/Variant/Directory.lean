import BuildLayout.Location

/-! # Directories under a build root

    Everything that a build writes lies under its root, in one of four categories.  A
    directory is named by the segments that lead to it from its category; naming one touches
    nothing on disk.

    A segment with a dot in it is refused: it is most likely a file name that was passed where
    a directory was meant.  Empty segments name nothing and are dropped. -/

namespace BuildLayout

/-- A directory under a build root. -/
structure Directory where
  root : Location
  /-- The path from the root, its components separated by `/`. -/
  relative : String
  deriving DecidableEq, Repr

namespace Directory

/-- The full location of the directory. -/
def location (d : Directory) : Location :=
  if d.relative = "" then d.root else d.root.joinAll (Location.pieces d.relative)

/-- The location of a file or directory inside the directory. -/
def file (d : Directory) (name : String) : Location := d.location.join name

end Directory

/-- What a part of the build output is for. -/
inductive Category where
  | intermediates
  | outputs
  | generated
  | reports
  deriving DecidableEq, Repr

/-- The directory of a category, under the build root. -/
def Category.folder : Category → String
  | .intermediates => "intermediates"
  | .outputs => "outputs"
  | .generated => "generated"
  | .reports => "reports"

/-- The directory with a fixed name in a category. -/
def Category.directory (category : Category) (root : Location) (name : String) : Directory :=
  ⟨root, category.folder ++ "/" ++ name⟩

/-- Why a question about a variant has no answer. -/
inductive VariantError where
  /-- A segment of a directory has a dot in it. -/
  | dottedSegment (segment path : String)
  /-- The component has no manifest. -/
  | noManifest (component : String)
  | invalidIdentity (reason : String)
  deriving DecidableEq, Repr

/-- The reason in words. -/
def VariantError.message : VariantError → String
  | .dottedSegment segment path =>
    s!"Directory should not contain '.': segment '{segment}' in '{path}'"
  | .noManifest component =>
    s!"Manifest output directory requested for unexpected component '{component}'"
  | .invalidIdentity reason => s!"Invalid variant identity: {reason}"

/-- Whether there is a dot in the segment. -/
def hasDot (segment : String) : Bool := segment.toList.any (· == '.')

/-- The directory that the segments lead to from a category. -/
def Directory.under (root : Location) (category : Category) (segments : List String) :
    Except VariantError Directory :=
  match segments.find? hasDot with
  | some segment =>
    .error (.dottedSegment segment (category.folder ++ "/" ++ "/".intercalate segments))
  | none => .ok ⟨root, "/".intercalate (category.folder :: segments.filter (· != ""))⟩

end BuildLayout
