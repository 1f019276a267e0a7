import BuildLayout.Project.Error
import BuildLayout.Variant.Resolver

/-! # Register of variants

    The declared variants are registered one after the other.  The register knows the identities
    it has met, and for each directory its owner: the first variant that was met there.  An
    identity is registered once.  Where directories follow the identity, a variant is registered
    in a directory that has an owner only if the two are splits of one variant. -/

namespace BuildLayout

/-- What is known of the variants met so far. -/
structure Register where
  identities : List Identity := []
  /-- The owner of each directory that has one: its identity without the split, and its name. -/
  owner? : String → Option (Identity × String) := fun _ => none

namespace Register

/-- The register with one more identity met. -/
def meet (g : Register) (r : Resolver) : Register :=
  { g with identities := r.identity :: g.identities }

/-- The register with the variant as the owner of its directory. -/
def own (g : Register) (r : Resolver) : Register :=
  { g with
    owner? := fun name =>
      if name = r.dirName then some (r.identity.unsplit, r.variantName) else g.owner? name }

/-- Registers a variant, or refuses it for what is known already. -/
def add (naming : Naming) (g : Register) (r : Resolver) : Except ProjectError Register :=
  if r.identity ∈ g.identities then .error (.duplicateVariant r.variantName)
  else if naming = .splitOnly then .ok (g.meet r)
  else
    match g.owner? r.dirName with
    | none => .ok ((g.meet r).own r)
    | some (owner, first) =>
      if owner = r.identity.unsplit then .ok (g.meet r)
      else .error (.sharedDirectory r.dirName first r.variantName)

/-- The refusal of the first variant that cannot be registered. -/
def refusal? (naming : Naming) (g : Register) (rs : List Resolver) : Option ProjectError :=
  match rs.foldlM (add naming) g with
  | .ok _ => none
  | .error e => some e

end Register

end BuildLayout
