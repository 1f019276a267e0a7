import BuildLayout.Variant.Query

/-! # Parts that are worked out once

    A build asks one resolver many questions, from many tasks.  Eleven of its parts are worked
    out by the first question that needs them and then kept, each in a cell of its own.  A
    cell is written once: a policy that is set later changes what an empty cell would get, and
    never what a written one holds.

    Working out one part may need others, which are written on the way.  They stay written if
    the part itself turns out not to exist, and its own cell stays empty then. -/

namespace BuildLayout

/-- The parts of a resolver that are kept. -/
inductive Part where
  | segments
  | dirName
  | baseName
  | fullName
  | buildConfigSources
  | renderscriptObjects
  | coverageReports
  | libraries
  | regularPackages
  | devicePackages
  | packages
  deriving DecidableEq, Repr

/-- The type of a part. -/
abbrev Part.Value : Part → Type
  | .segments => List String
  | .dirName | .baseName | .fullName => String
  | .buildConfigSources | .renderscriptObjects | .coverageReports => Directory
  | .libraries | .regularPackages | .devicePackages => Directory
  | .packages => Location

/-- The cells of a resolver; an empty one has yet to be worked out. -/
structure Cells where
  read : (p : Part) → Option p.Value := fun _ => none

/-- The cells with one more of them written. -/
def Cells.write (cells : Cells) (p : Part) (v : p.Value) : Cells where
  read q := if h : p = q then some (h ▸ v) else cells.read q

/-- Work on the cells.  What it has written stays, also if it fails in the end. -/
abbrev Work (α : Type) := ExceptT VariantError (StateM Cells) α

namespace Work

/-- Work that leaves the cells alone. -/
def ofExcept {α : Type} (outcome : Except VariantError α) : Work α := ExceptT.mk (pure outcome)

/-- A part from its cell, or worked out and written there. -/
def once (p : Part) (work : Work p.Value) : Work p.Value := do
  match (← get).read p with
  | some v => return v
  | none =>
    let v ← work
    modify (·.write p v)
    return v

end Work

/-- What a resolver is set up with: a variant, a build root, and the policies in force. -/
structure Setup where
  identity : Identity
  root : Location
  naming : Naming := .dimensionAware
  overrides : LocationOverrides := {}
  signing : Signing := .alwaysUnsigned
  deriving DecidableEq, Repr

namespace Setup

/-- The resolver with the given parts settled. -/
def resolver (u : Setup) (settled : Settled := {}) : Resolver where
  identity := u.identity
  root := u.root
  naming := u.naming
  overrides := u.overrides
  signing := u.signing
  settled := settled

/-! ## Names -/

def segments (u : Setup) : Work (List String) :=
  .once .segments (return u.identity.segments u.naming)

def dirName (u : Setup) : Work String :=
  .once .dirName do return "/".intercalate (← u.segments)

def baseName (u : Setup) : Work String :=
  .once .baseName (return u.identity.baseNameUnder u.naming)

def fullName (u : Setup) : Work String :=
  .once .fullName (return u.identity.fullName)

def variantName (u : Setup) : Work String :=
  match u.identity.split with
  | some split => return u.resolver.fullNameWithSplit split
  | none => u.fullName

def variantBaseName (u : Setup) : Work String :=
  match u.identity.split with
  | some split => return u.resolver.baseNameWithSplit split
  | none => u.baseName

/-! ## Places -/

/-- A directory in a category of the build output; it is not kept. -/
def directory (u : Setup) (category : Category) (segments : List String) : Work Directory :=
  .ofExcept (Directory.under u.root category segments)

def buildConfigSources (u : Setup) : Work Directory :=
  .once .buildConfigSources do
    let name ← u.dirName
    u.directory .generated ["source", "buildConfig", name]

def renderscriptObjects (u : Setup) : Work Directory :=
  .once .renderscriptObjects do
    let segments ← u.segments
    u.directory .intermediates ("rs" :: segments ++ ["obj"])

def coverageReports (u : Setup) : Work Directory :=
  .once .coverageReports do
    let name ← u.dirName
    u.directory .reports ["coverage", name]

def libraries (u : Setup) : Work Directory :=
  .once .libraries (u.directory .outputs ["aar"])

def regularPackages (u : Setup) : Work Directory :=
  .once .regularPackages (u.directory .outputs ["apk"])

def devicePackages (u : Setup) : Work Directory :=
  .once .devicePackages (u.directory .intermediates ["apk"])

/-- The place that packages of all variants start from. -/
def packageBase (u : Setup) : Work Location :=
  match u.overrides.explicit with
  | some location => return location
  | none =>
    if u.overrides.forDevice then do return (← u.devicePackages).location
    else do return (← u.regularPackages).location

def packages (u : Setup) : Work Location :=
  .once .packages do
    let base ← u.packageBase
    return base.joinAll (← u.segments)

/-- Where manifests go; the naming policy in force tells tests from other components. -/
def manifests (u : Setup) : Work Directory :=
  if u.naming = .dimensionAware ∧ u.identity.component.isTest then
    if u.identity.component.isPackaged then do
      let name ← u.dirName
      u.directory .intermediates ["manifest", name]
    else .ofExcept (.error (.noManifest u.identity.component.name))
  else do
    let name ← u.dirName
    u.directory .intermediates ["manifests", "full", name]

def incremental (u : Setup) (task : String) : Work Location := do
  return (← u.directory .intermediates ["incremental", task]).location

def generatedResources (u : Setup) (task : String) : Work Directory := do
  let segments ← u.segments
  u.directory .generated ("res" :: task :: segments)

/-! ## Runs -/

/-- The work on a question. -/
def ask (u : Setup) : Query → Work Answer
  | .identity => return .identity u.identity
  | .naming => return .naming u.naming
  | .segments => .names <$> u.segments
  | .dirName => .name <$> u.dirName
  | .baseName => .name <$> u.baseName
  | .fullName => .name <$> u.fullName
  | .variantName => .name <$> u.variantName
  | .variantBaseName => .name <$> u.variantBaseName
  | .fullNameWithSplit split => return .name (u.resolver.fullNameWithSplit split)
  | .baseNameWithSplit split => return .name (u.resolver.baseNameWithSplit split)
  | .outputFileName archives base => return .name (u.resolver.outputFileName archives base)
  | .directory category segments => .directory <$> u.directory category segments
  | .buildConfigSources => .directory <$> u.buildConfigSources
  | .renderscriptObjects => .directory <$> u.renderscriptObjects
  | .coverageReports => .directory <$> u.coverageReports
  | .libraries => .directory <$> u.libraries
  | .regularPackages => .directory <$> u.regularPackages
  | .devicePackages => .directory <$> u.devicePackages
  | .packages => .location <$> u.packages
  | .manifests => .directory <$> u.manifests
  | .incremental task => .location <$> u.incremental task
  | .generatedResources task => .directory <$> u.generatedResources task

/-- The setup with one policy changed. -/
def set (u : Setup) : Policy → Setup
  | .naming n => { u with naming := n }
  | .overrides o => { u with overrides := o }
  | .signing s => { u with signing := s }

/-- The answers to the questions of a run that starts with the given cells, `none` standing for
    a change of policy. -/
def runFrom (u : Setup) (cells : Cells) : List Step → List (Option (Except VariantError Answer))
  | [] => []
  | .ask q :: rest =>
    let (answer, kept) := (u.ask q).run cells
    some answer :: u.runFrom kept rest
  | .set p :: rest => none :: (u.set p).runFrom cells rest

/-- The answers to the questions of a run on a new resolver. -/
def run (u : Setup) (steps : List Step) : List (Option (Except VariantError Answer)) :=
  u.runFrom {} steps

end Setup

end BuildLayout
