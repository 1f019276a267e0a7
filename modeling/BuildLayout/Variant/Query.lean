import BuildLayout.Variant.Resolver

/-! # Questions to a resolver

    A run of a resolver is a sequence of steps: questions, and changes of policy in between.
    `Resolver.answer` says what a question is answered, `Resolver.after` what it settles; a
    question settles what it needs even if it fails in the end. -/

namespace BuildLayout

/-- A question to a resolver. -/
inductive Query where
  | identity
  | naming
  | segments
  | dirName
  | baseName
  | fullName
  | variantName
  | variantBaseName
  | fullNameWithSplit (split : String)
  | baseNameWithSplit (split : String)
  | outputFileName (archives base : String)
  | directory (category : Category) (segments : List String)
  | buildConfigSources
  | renderscriptObjects
  | coverageReports
  | libraries
  | regularPackages
  | devicePackages
  | packages
  | manifests
  | incremental (task : String)
  | generatedResources (task : String)
  deriving DecidableEq, Repr

/-- What a resolver answers. -/
inductive Answer where
  | identity (i : Identity)
  | naming (n : Naming)
  | names (parts : List String)
  | name (s : String)
  | directory (d : Directory)
  | location (l : Location)
  deriving DecidableEq, Repr

/-- A change of one policy. -/
inductive Policy where
  | naming (n : Naming)
  | overrides (o : LocationOverrides)
  | signing (s : Signing)
  deriving DecidableEq, Repr

/-- A step of a run. -/
inductive Step where
  | ask (q : Query)
  | set (p : Policy)
  deriving DecidableEq, Repr

namespace Resolver

/-- The answer to a question. -/
def answer (r : Resolver) : Query → Except VariantError Answer
  | .identity => .ok (.identity r.identity)
  | .naming => .ok (.naming r.naming)
  | .segments => .ok (.names r.segments)
  | .dirName => .ok (.name r.dirName)
  | .baseName => .ok (.name r.baseName)
  | .fullName => .ok (.name r.fullName)
  | .variantName => .ok (.name r.variantName)
  | .variantBaseName => .ok (.name r.variantBaseName)
  | .fullNameWithSplit split => .ok (.name (r.fullNameWithSplit split))
  | .baseNameWithSplit split => .ok (.name (r.baseNameWithSplit split))
  | .outputFileName archives base => .ok (.name (r.outputFileName archives base))
  | .directory category segments => (r.directory category segments).map .directory
  | .buildConfigSources => r.tree.buildConfigSources.map .directory
  | .renderscriptObjects => r.tree.renderscriptObjects.map .directory
  | .coverageReports => r.tree.coverageReports.map .directory
  | .libraries => .ok (.directory r.libraries)
  | .regularPackages => .ok (.directory r.regularPackages)
  | .devicePackages => .ok (.directory r.devicePackages)
  | .packages => .ok (.location r.packages)
  | .manifests => r.manifests.map .directory
  | .incremental task => (r.incremental task).map .location
  | .generatedResources task => (r.tree.generatedResources task).map .directory

/-- Whether the question needs the directory segments. -/
def needsSegments (r : Resolver) : Query → Bool
  | .segments | .dirName | .buildConfigSources | .renderscriptObjects | .coverageReports
  | .packages | .generatedResources _ => true
  | .manifests => !r.lacksManifest
  | _ => false

/-- Whether the question needs the base name without the split. -/
def needsBaseName (r : Resolver) : Query → Bool
  | .baseName => true
  | .variantBaseName => r.identity.split.isNone
  | _ => false

/-- The resolver after a question: what the question needs is settled. -/
def after (r : Resolver) (q : Query) : Resolver :=
  { r with
    settled :=
      { segments := if r.needsSegments q then some r.segments else r.settled.segments
        baseName := if r.needsBaseName q then some r.baseName else r.settled.baseName
        packages := if q = .packages then some r.packages else r.settled.packages } }

/-- The resolver with one policy changed; what is settled stays. -/
def set (r : Resolver) : Policy → Resolver
  | .naming n => { r with naming := n }
  | .overrides o => { r with overrides := o }
  | .signing s => { r with signing := s }

/-- The answers to the questions of a run, `none` standing for a change of policy. -/
def run (r : Resolver) : List Step → List (Option (Except VariantError Answer))
  | [] => []
  | .ask q :: rest => some (r.answer q) :: (r.after q).run rest
  | .set p :: rest => none :: (r.set p).run rest

end Resolver

end BuildLayout
