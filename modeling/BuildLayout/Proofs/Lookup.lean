import BuildLayout.Proofs.Acceptance
import BuildLayout.Proofs.Names

/-! # Finding a variant by its name

    A session looks a variant up by its full name and takes the first of that name.  The full
    name is what the identity spells, and words that are run together can be spelled in more
    than one way; the checks on a project do not look at names.  So a variant is found under
    its own name exactly if no earlier one spells the same, and all variants are exactly if
    the spellings differ (`resolver?_own_name_iff`). -/

namespace BuildLayout

/-! ## Names in a session -/

namespace Session

variable {p : Project} {given : List (String × RawValue)} {s : Session}

/-- No two resolvers of a session are the same. -/
theorem nodup_resolvers (h : configure p given = .ok s) : s.resolvers.Nodup := by
  refine List.Nodup.of_map Resolver.identity ?_
  rw [map_identity h]
  exact (configure_eq_ok_iff.mp h).1.distinct

/-- The variants of a session go by what their identities spell. -/
theorem variantName_of_mem (h : configure p given = .ok s) (haware : p.naming = .dimensionAware) :
    ∀ r ∈ s.resolvers, r.variantName = r.identity.spelling := by
  intro r hr
  obtain ⟨i, -, hwell, rfl⟩ := exists_variant_of_mem h hr
  exact Resolver.variantName_eq_spelling hwell haware

theorem map_variantName (h : configure p given = .ok s) (haware : p.naming = .dimensionAware) :
    s.resolvers.map Resolver.variantName = p.variants.map Identity.spelling := by
  rw [List.map_congr_left (variantName_of_mem h haware), ← map_identity h, List.map_map]
  rfl

/-- **FOUND UNDER ITS OWN NAME**: in an open session whose names follow the identity, a
    variant is found under its own name exactly if none that is declared before it spells the
    same; every variant is exactly if no two spell the same. -/
theorem resolver?_own_name_iff (h : configure p given = .ok s)
    (haware : p.naming = .dimensionAware) :
    (∀ (n : Nat) (r : Resolver), s.resolvers[n]? = some r →
        (s.resolver? r.variantName = some r
          ↔ ∀ m < n, ∀ i, p.variants[m]? = some i → i.spelling ≠ r.identity.spelling))
      ∧ ((∀ r ∈ s.resolvers, s.resolver? r.variantName = some r)
          ↔ (p.variants.map Identity.spelling).Nodup) := by
  have hnodup := nodup_resolvers h
  refine ⟨?_, ?_⟩
  · intro n r hr
    have hname := variantName_of_mem h haware
    have hfirst := find?_key_eq_some_iff Resolver.variantName hnodup hr
    obtain ⟨-, -, -, hresolvers⟩ := configure_eq_ok_iff.mp h
    refine hfirst.trans ⟨?_, ?_⟩
    · intro hearlier m hm i hi
      have ht : s.resolvers[m]? = some (p.resolver s.snapshot i) := by
        rw [hresolvers, List.getElem?_map, hi]
        rfl
      have hother := hearlier m hm _ ht
      rw [hname _ (List.mem_of_getElem? ht), hname r (List.mem_of_getElem? hr)] at hother
      exact hother
    · intro hearlier m hm t ht
      rw [hname t (List.mem_of_getElem? ht), hname r (List.mem_of_getElem? hr)]
      rw [hresolvers, List.getElem?_map] at ht
      obtain ⟨i, hi, rfl⟩ := Option.map_eq_some_iff.mp ht
      exact hearlier m hm i hi
  · rw [← map_variantName h haware]
    exact find?_own_key_iff Resolver.variantName hnodup

/-- A project with one flavor, a build type of it and a split of that. -/
def freeProject : Project where
  variants :=
    [{ flavors := [⟨"tier", "free"⟩] },
     { flavors := [⟨"tier", "free"⟩], buildType := some "debug" },
     { flavors := [⟨"tier", "free"⟩], buildType := some "debug", split := some "hdpi" }]

theorem resolver?_own_name_freeProject :
    ∃ s, configure freeProject [] = .ok s ∧ freeProject.naming = .dimensionAware
      ∧ (freeProject.variants.map Identity.spelling).Nodup
      ∧ ∀ r ∈ s.resolvers, s.resolver? r.variantName = some r := by
  have hspellings : (freeProject.variants.map Identity.spelling).Nodup := by decide
  have hopen : configure freeProject []
      = .ok ⟨freeProject, ⟨[]⟩, freeProject.resolvers ⟨[]⟩⟩ := by rfl
  exact ⟨_, hopen, rfl, hspellings, (resolver?_own_name_iff hopen rfl).2.mpr hspellings⟩

/-- A project in which the second flavor spells what the first does with its build type. -/
def freeDebugProject : Project where
  variants :=
    [{ flavors := [⟨"tier", "free"⟩], buildType := some "debug" },
     { flavors := [⟨"tier", "freeDebug"⟩] }]

/-- The second variant cannot be found: its name leads to the first one. -/
theorem resolver?_other_freeDebugProject :
    ∃ s r t, configure freeDebugProject [] = .ok s
      ∧ freeDebugProject.naming = .dimensionAware ∧ s.resolvers = [r, t] ∧ r ≠ t
      ∧ s.resolver? t.variantName = some r := by
  have hopen : configure freeDebugProject []
      = .ok ⟨freeDebugProject, ⟨[]⟩, freeDebugProject.resolvers ⟨[]⟩⟩ := by rfl
  exact ⟨_, _, _, hopen, rfl, rfl, by decide, by rfl⟩

end Session

end BuildLayout
