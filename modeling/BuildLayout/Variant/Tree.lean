import BuildLayout.Variant.Directory

/-! # The directories of one variant

    In every category a variant has its files below the same segments.  A tree is a build root
    with such segments, and each kind of file has its place in it. -/

namespace BuildLayout

/-- A build root and the segments that lead to one variant in each category. -/
structure Tree where
  root : Location
  segments : List String
  deriving DecidableEq, Repr

namespace Tree

/-- The segments as one path. -/
def dirName (t : Tree) : String := "/".intercalate t.segments

/-- Sources of build constants. -/
def buildConfigSources (t : Tree) : Except VariantError Directory :=
  Directory.under t.root .generated ["source", "buildConfig", t.dirName]

/-- Objects compiled from renderscript. -/
def renderscriptObjects (t : Tree) : Except VariantError Directory :=
  Directory.under t.root .intermediates ("rs" :: t.segments ++ ["obj"])

/-- Reports on test coverage. -/
def coverageReports (t : Tree) : Except VariantError Directory :=
  Directory.under t.root .reports ["coverage", t.dirName]

/-- Resources that a task generates. -/
def generatedResources (t : Tree) (task : String) : Except VariantError Directory :=
  Directory.under t.root .generated ("res" :: task :: t.segments)

/-- Manifests of test packages. -/
def testManifests (t : Tree) : Except VariantError Directory :=
  Directory.under t.root .intermediates ["manifest", t.dirName]

/-- Merged manifests of everything else. -/
def fullManifests (t : Tree) : Except VariantError Directory :=
  Directory.under t.root .intermediates ["manifests", "full", t.dirName]

/-- The variant's own place below a location. -/
def below (t : Tree) (base : Location) : Location := base.joinAll t.segments

end Tree

end BuildLayout
