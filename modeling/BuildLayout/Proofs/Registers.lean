import BuildLayout.Session.Register

/-! # The register and the search

    The register remembers of each directory its owner only.  What it decides can be said without
    a register, as a search among the variants in front (`Resolver.firstClash?`): the owner of a
    directory is the first of them that uses it.

    A register that remembers the variants in front (`Register.Remembers`) refuses the next one
    exactly if the search finds a clash, for that clash, and otherwise remembers it too
    (`Remembers.add`, one step).  So registering all variants fails with the first clash that
    the search finds (`Remembers.refusal?_eq`, the run). -/

namespace BuildLayout

namespace Resolver

/-- Why the variant cannot be declared after the earlier ones.  The first of these that uses
    its directory is the one to agree with. -/
def clash? (r : Resolver) (earlier : List Resolver) : Option ProjectError :=
  if r.identity ∈ earlier.map identity then some (.duplicateVariant r.variantName)
  else if r.naming = .splitOnly then none
  else
    (earlier.find? (·.dirName == r.dirName)).bind fun owner =>
      if owner.identity.SameVariant r.identity then none
      else some (.sharedDirectory r.dirName owner.variantName r.variantName)

/-- The first clash among variants that are declared after the earlier ones. -/
def firstClash? (earlier : List Resolver) : List Resolver → Option ProjectError
  | [] => none
  | r :: rest => r.clash? earlier <|> firstClash? (earlier ++ [r]) rest

end Resolver

namespace Register

variable {naming : Naming} {g : Register} {earlier rest : List Resolver} {r : Resolver}

/-- The register knows of the variants what the search asks of them. -/
structure Remembers (naming : Naming) (g : Register) (earlier : List Resolver) : Prop where
  met : ∀ i, i ∈ g.identities ↔ i ∈ earlier.map Resolver.identity
  owner : naming = .dimensionAware → ∀ name,
    g.owner? name
      = (earlier.find? (·.dirName == name)).map fun o => (o.identity.unsplit, o.variantName)

theorem remembers_empty (naming : Naming) : Remembers naming {} [] :=
  ⟨fun _ => Iff.rfl, fun _ _ => rfl⟩

theorem mem_identities_meet_iff
    (h : ∀ i, i ∈ g.identities ↔ i ∈ earlier.map Resolver.identity) (r : Resolver) (i : Identity) :
    i ∈ (g.meet r).identities ↔ i ∈ (earlier ++ [r]).map Resolver.identity := by
  rw [List.map_append, List.mem_append, ← h i, List.map_singleton, List.mem_singleton]
  show i ∈ r.identity :: g.identities ↔ _
  rw [List.mem_cons]
  exact or_comm

/-- With one variant more, a directory without owner may have that one. -/
theorem find?_dirName_append (earlier : List Resolver) (r : Resolver) (name : String) :
    (earlier ++ [r]).find? (·.dirName == name)
      = (earlier.find? (·.dirName == name)).or (if name = r.dirName then some r else none) := by
  rw [List.find?_append]
  congr 1
  by_cases h : name = r.dirName
  · have hkey : (r.dirName == name) = true := beq_iff_eq.mpr h.symm
    rw [if_pos h, List.find?_cons, hkey]
  · have hkey : (r.dirName == name) = false := beq_eq_false_iff_ne.mpr (Ne.symm h)
    rw [if_neg h, List.find?_cons, hkey]
    rfl

/-- A variant that is met in a directory with an owner, or where directories have none, changes
    no owner. -/
theorem Remembers.meet (h : g.Remembers naming earlier)
    (howned : naming = .dimensionAware → ∃ o, earlier.find? (·.dirName == r.dirName) = some o) :
    (g.meet r).Remembers naming (earlier ++ [r]) where
  met := mem_identities_meet_iff h.met r
  owner := by
    intro haware name
    obtain ⟨o, hfound⟩ := howned haware
    show g.owner? name = _
    rw [find?_dirName_append, h.owner haware]
    by_cases hname : name = r.dirName
    · rw [hname, hfound]
      rfl
    · rw [if_neg hname, Option.or_none]

/-- A variant in a directory without owner becomes the owner. -/
theorem Remembers.own (h : g.Remembers naming earlier)
    (hfree : earlier.find? (·.dirName == r.dirName) = none) :
    ((g.meet r).own r).Remembers naming (earlier ++ [r]) where
  met := mem_identities_meet_iff h.met r
  owner := by
    intro haware name
    show (if name = r.dirName then _ else g.owner? name) = _
    rw [find?_dirName_append, h.owner haware]
    by_cases hname : name = r.dirName
    · rw [if_pos hname, if_pos hname, hname, hfree]
      rfl
    · rw [if_neg hname, if_neg hname, Option.or_none]

/-- **STEP**: the register refuses what clashes, for the clash, and remembers everything else. -/
theorem Remembers.add (h : g.Remembers naming earlier) (hr : r.naming = naming) :
    (∃ e, r.clash? earlier = some e ∧ g.add naming r = .error e)
      ∨ r.clash? earlier = none
        ∧ ∃ g', g.add naming r = .ok g' ∧ g'.Remembers naming (earlier ++ [r]) := by
  by_cases hdup : r.identity ∈ earlier.map Resolver.identity
  · exact Or.inl ⟨_, if_pos hdup, if_pos ((h.met _).mpr hdup)⟩
  · have hnew : r.identity ∉ g.identities := fun hmem => hdup ((h.met _).mp hmem)
    rw [Resolver.clash?, if_neg hdup, hr, Register.add, if_neg hnew]
    cases naming with
    | splitOnly =>
        refine Or.inr ⟨if_pos rfl, g.meet r, if_pos rfl, h.meet ?_⟩
        intro haware
        cases haware
    | dimensionAware =>
        have hother : Naming.dimensionAware ≠ .splitOnly := by decide
        rw [if_neg hother, if_neg hother, h.owner rfl]
        cases hfound : earlier.find? (·.dirName == r.dirName) with
        | none => exact Or.inr ⟨rfl, _, rfl, h.own hfound⟩
        | some o =>
            by_cases hsame : o.identity.SameVariant r.identity
            · exact Or.inr ⟨if_pos hsame, g.meet r, if_pos hsame, h.meet fun _ => ⟨o, hfound⟩⟩
            · exact Or.inl ⟨_, if_neg hsame, if_neg hsame⟩

/-- **RUN**: registering the variants fails with the first clash among them. -/
theorem Remembers.refusal?_eq (h : g.Remembers naming earlier)
    (hrest : ∀ r ∈ rest, r.naming = naming) :
    g.refusal? naming rest = Resolver.firstClash? earlier rest := by
  induction rest generalizing g earlier with
  | nil => rfl
  | cons r rest ih =>
      obtain ⟨hr, hothers⟩ := List.forall_mem_cons.mp hrest
      have hsearch : Resolver.firstClash? earlier (r :: rest)
          = (r.clash? earlier <|> Resolver.firstClash? (earlier ++ [r]) rest) := rfl
      rw [refusal?, List.foldlM_cons, hsearch]
      rcases h.add hr with ⟨e, hclash, hadd⟩ | ⟨hclash, g', hadd, hg'⟩
      · rw [hclash, hadd]
        rfl
      · rw [hclash, hadd]
        exact ih hg' hothers

end Register

end BuildLayout
