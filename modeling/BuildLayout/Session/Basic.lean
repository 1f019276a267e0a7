import BuildLayout.Project.Basic
import BuildLayout.Session.Register
import BuildLayout.Session.Report

/-! # Sessions

    A session is one configuration pass over a project: its properties are read once, and each
    declared variant gets a resolver.  A project is refused, for the first reason that applies,
    if a property has an unsuitable value, if it insists on supported properties and sets a
    removed one, if an identity is not well formed, or if two variants get in each other's way:
    equal identities always do, and where directories follow the identity so do two variants
    with one directory, unless they are splits of one variant. -/

namespace BuildLayout

/-! ## Opening a session -/

/-- One configuration pass: a project, its properties, and a resolver for each variant. -/
structure Session where
  project : Project
  snapshot : Snapshot
  resolvers : List Resolver
  deriving DecidableEq, Repr

/-- The refusal for a removed property, where the project insists on supported ones. -/
def Project.strictRefusal? (p : Project) (s : Snapshot) : Option ProjectError :=
  if p.strict then s.removed?.map .property else none

/-- The refusal for the first identity that is not well formed. -/
def Project.identityRefusal? (p : Project) : Option ProjectError :=
  (p.variants.findSome? Identity.fault?).map fun fault =>
    .variant (.invalidIdentity fault.message)

/-- The refusal for the first variant that gets in the way of an earlier one. -/
def Project.clashRefusal? (p : Project) (s : Snapshot) : Option ProjectError :=
  Register.refusal? p.naming {} (p.resolvers s)

/-- The first reason to refuse the project once its properties have been read. -/
def Project.refusal? (p : Project) (s : Snapshot) : Option ProjectError :=
  p.strictRefusal? s <|> p.identityRefusal? <|> p.clashRefusal? s

namespace Session

/-- The session over a project, with further property values that win over its own. -/
def configure (p : Project) (given : List (String × RawValue)) : Except ProjectError Session :=
  match Snapshot.ofLayers (p.layers given) with
  | .error e => .error (.property e)
  | .ok snapshot =>
    match p.refusal? snapshot with
    | some e => .error e
    | none => .ok ⟨p, snapshot, p.resolvers snapshot⟩

/-- The resolver of the first variant with the given name. -/
def resolver? (s : Session) (name : String) : Option Resolver :=
  s.resolvers.find? (·.variantName == name)

/-- The report on a variant. -/
def report (s : Session) (r : Resolver) : Except VariantError Report :=
  r.report s.project.archivesName

/-- The reports on all variants, in declared order. -/
def reports (s : Session) : Except VariantError (List Report) := s.resolvers.mapM s.report

end Session

end BuildLayout
