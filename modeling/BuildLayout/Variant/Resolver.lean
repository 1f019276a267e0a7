import BuildLayout.Variant.Naming
import BuildLayout.Variant.Output
import BuildLayout.Variant.Tree

/-! # Names and places of one variant

    A resolver answers questions about one variant.  Most answers follow from the identity and
    the build root alone.  Three depend on policies that can still be changed: the directory
    segments and the base name on the naming policy, the place of packages on the overrides.
    The first question that needs one of these settles it: from then on the resolver keeps to
    it, whatever policy is set later, so that no two answers contradict each other.

    Everything that lies in the variant's own directories is answered from one `Tree`. -/

namespace BuildLayout

/-- How directories are named. -/
inductive Naming where
  /-- Flavors, build type and component all count, so that variants keep apart. -/
  | dimensionAware
  /-- Only the split counts: the layout of older builds, in which variants share their
      directories. -/
  | splitOnly
  deriving DecidableEq, Repr

/-- The policy as project files write it. -/
def Naming.tag : Naming → String
  | .dimensionAware => "dimension-aware"
  | .splitOnly => "split-only"

/-- The directory segments of the variant: component, flavors in camel case, build type. -/
def Identity.segments (i : Identity) : Naming → List String
  | .dimensionAware =>
    i.component.lead?.toList ++ i.flavorName?.toList ++ i.buildType.toList
  | .splitOnly => []

/-- The base name that the naming policy gives the variant. -/
def Identity.baseNameUnder (i : Identity) : Naming → String
  | .dimensionAware => i.baseName
  | .splitOnly => ""

/-- What earlier questions have settled. -/
structure Settled where
  segments : Option (List String) := none
  baseName : Option String := none
  packages : Option Location := none
  deriving DecidableEq, Repr

/-- A variant, the policies in force, and what is settled. -/
structure Resolver where
  identity : Identity
  root : Location
  naming : Naming := .dimensionAware
  overrides : LocationOverrides := {}
  signing : Signing := .alwaysUnsigned
  settled : Settled := {}
  deriving DecidableEq, Repr

namespace Resolver

/-! ## Names -/

/-- The directory segments of the variant. -/
def segments (r : Resolver) : List String := r.settled.segments.getD (r.identity.segments r.naming)

/-- The directories of the variant. -/
def tree (r : Resolver) : Tree := ⟨r.root, r.segments⟩

/-- The path that leads to the variant in every category. -/
def dirName (r : Resolver) : String := r.tree.dirName

/-- The name for files, without the split. -/
def baseName (r : Resolver) : String :=
  r.settled.baseName.getD (r.identity.baseNameUnder r.naming)

/-- The name for tasks, without the split. -/
def fullName (r : Resolver) : String := r.identity.fullName

/-- The name for tasks of a split. -/
def fullNameWithSplit (r : Resolver) (split : String) : String :=
  match r.naming with
  | .dimensionAware => r.identity.fullNameWithSplit split
  | .splitOnly => split

/-- The name for files of a split. -/
def baseNameWithSplit (r : Resolver) (split : String) : String :=
  match r.naming with
  | .dimensionAware => r.identity.baseNameWithSplit split
  | .splitOnly => split

/-- The name of the variant, with its split if it has one. -/
def variantName (r : Resolver) : String :=
  match r.identity.split with
  | some split => r.fullNameWithSplit split
  | none => r.fullName

/-- The name for files of the variant, with its split if it has one. -/
def variantBaseName (r : Resolver) : String :=
  match r.identity.split with
  | some split => r.baseNameWithSplit split
  | none => r.baseName

/-- The file name of a package. -/
def outputFileName (r : Resolver) (archives base : String) : String :=
  archives ++ "-" ++ base ++ r.signing.suffix

/-! ## Places -/

/-- A directory in a category of the build output. -/
def directory (r : Resolver) (category : Category) (segments : List String) :
    Except VariantError Directory :=
  Directory.under r.root category segments

/-- Where libraries go. -/
def libraries (r : Resolver) : Directory := Category.outputs.directory r.root "aar"

/-- The regular place of packages. -/
def regularPackages (r : Resolver) : Directory := Category.outputs.directory r.root "apk"

/-- The place of packages in a build for one device, away from the regular outputs. -/
def devicePackages (r : Resolver) : Directory := Category.intermediates.directory r.root "apk"

/-- Where packages go: the explicit place, else the one for builds that are made for one
    device, else the regular one. -/
def packageBase (r : Resolver) : Location :=
  match r.overrides.explicit with
  | some location => location
  | none =>
    if r.overrides.forDevice then r.devicePackages.location else r.regularPackages.location

/-- Where the packages of the variant go. -/
def packages (r : Resolver) : Location := r.settled.packages.getD (r.tree.below r.packageBase)

/-- Whether the component has no manifest: tests that are not packaged, where components have
    directories of their own. -/
def lacksManifest (r : Resolver) : Bool :=
  r.naming == .dimensionAware && r.identity.component.isTest && !r.identity.component.isPackaged

/-- Where manifests go. -/
def manifests (r : Resolver) : Except VariantError Directory :=
  if r.lacksManifest then .error (.noManifest r.identity.component.name)
  else if r.naming = .dimensionAware ∧ r.identity.component.isTest then r.tree.testManifests
  else r.tree.fullManifests

/-- Where a task keeps its state from one build to the next. -/
def incremental (r : Resolver) (task : String) : Except VariantError Location :=
  (r.directory .intermediates ["incremental", task]).map Directory.location

end Resolver

end BuildLayout
