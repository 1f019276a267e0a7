import BuildLayout.Property.Snapshot
import BuildLayout.Variant.Resolver

/-! # Projects

    What is known about a project before its properties are read: where it is, how its
    packages are named, which properties it sets and which variants it declares. -/

namespace BuildLayout

/-- The description of a project. -/
structure Project where
  /-- The directory that relative paths start from. -/
  directory : Location := ⟨"."⟩
  /-- The start of package file names. -/
  archivesName : String := "app"
  /-- The build root, as seen from the project directory. -/
  buildDirectory : String := "build"
  naming : Naming := .dimensionAware
  signing : Signing := .alwaysUnsigned
  /-- Whether removed properties are refused. -/
  strict : Bool := false
  properties : List (String × RawValue) := []
  variants : List Identity := []
  deriving DecidableEq, Repr

namespace Project

/-- A path as seen from the project directory. -/
def resolve (p : Project) (path : String) : Location := p.directory.join path

/-- The directory that everything is built in. -/
def buildRoot (p : Project) : Location := p.resolve p.buildDirectory

/-- The layers of property values: the project's own, then those given for one run. -/
def layers (p : Project) (given : List (String × RawValue)) : List Layer :=
  [⟨"project file", p.properties⟩, ⟨"command line", given⟩]

end Project

/-- The wishes about the place of packages that the properties express: an explicit place, and
    whether the build is made for a device of a given density, instruction set or API level. -/
def Snapshot.overrides (s : Snapshot) (projectDirectory : Location) : LocationOverrides :=
  { explicit := (s.text? .apkLocation).map projectDirectory.join
    forDevice :=
      (s.text? .targetDensity).isSome || (s.text? .targetAbi).isSome ||
        (s.number? .targetDeviceApi).isSome }

/-- A resolver for each declared variant, in declared order. -/
def Project.resolvers (p : Project) (s : Snapshot) : List Resolver :=
  p.variants.map fun i =>
    { identity := i
      root := p.buildRoot
      naming := p.naming
      overrides := s.overrides p.directory
      signing := p.signing }

end BuildLayout
