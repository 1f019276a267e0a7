import BuildLayout.Location

/-! # Packages

    A package's file name tells whether it is known to be signed, and the place it goes to can
    be overridden from outside the build. -/

namespace BuildLayout

/-- What is known about the signing of packages. -/
inductive Signing where
  /-- Nothing: every package counts as unsigned. -/
  | alwaysUnsigned
  /-- Whether the package is signed, as far as the base module can tell; other modules never
      mark a package as unsigned. -/
  | readiness (signed baseModule : Bool)
  deriving DecidableEq, Repr

/-- The end of a package's file name. -/
def Signing.suffix : Signing → String
  | .readiness signed baseModule => if signed || !baseModule then ".apk" else "-unsigned.apk"
  | .alwaysUnsigned => "-unsigned.apk"

/-- Wishes about the place of packages; an explicit one wins over the place for builds that
    are made for one device. -/
structure LocationOverrides where
  explicit : Option Location := none
  /-- Whether the build is made for one device. -/
  forDevice : Bool := false
  deriving DecidableEq, Repr

end BuildLayout
