import Mathlib.Data.Option.Basic
import BuildLayout.Proofs.Reports

/-! # Refusals

    A session that does not open names something in the project that stands in its way: a
    property that cannot be read or was removed, an identity that is not well formed, or two
    declared variants that clash (`Project.Refused`).  None of these is the program's own
    fault.

    Behind an open session nothing is refused any more.  Directories are still named with a
    check on their segments, and each check passes, since the segments of a well-formed
    identity are words (`report_eq_ok`); the one question that can go without an answer is the
    one for the manifests of unit tests (`summary_manifests_eq_none_iff`). -/

namespace BuildLayout

/-! ## Clashing variants -/

namespace Resolver

variable {o r : Resolver} {earlier rest : List Resolver} {e : ProjectError}

/-- Two variants in each other's way, the first declared earlier, and the refusal of the
    second on account of the first. -/
inductive Clash (o r : Resolver) : ProjectError → Prop where
  | identity (h : o.identity = r.identity) : Clash o r (.duplicateVariant r.variantName)
  | directory (haware : r.naming ≠ .splitOnly) (hdir : o.dirName = r.dirName)
      (h : ¬ o.identity.SameVariant r.identity) :
      Clash o r (.sharedDirectory r.dirName o.variantName r.variantName)

/-- **STEP OF THE SCAN**: a variant is refused on account of an earlier one. -/
theorem exists_clash_of_clash? (h : r.clash? earlier = some e) : ∃ o ∈ earlier, Clash o r e := by
  rcases clash?_eq_some_iff.mp h with ⟨hdup, rfl⟩ | ⟨-, haware, o, howner, hsame, rfl⟩
  · obtain ⟨o, ho, hsame⟩ := List.mem_map.mp hdup
    exact ⟨o, ho, .identity hsame⟩
  · exact ⟨o, List.mem_of_find?_eq_some howner, .directory haware (key_of_find? howner) hsame⟩

/-- **RUN OF THE SCAN**: the clash that it finds is one of two variants in their order. -/
theorem exists_clash_of_firstClash? (h : firstClash? earlier rest = some e) :
    ∃ o r, [o, r].Sublist (earlier ++ rest) ∧ Clash o r e := by
  obtain ⟨front, r, back, rfl, -, hclash⟩ := firstClash?_eq_some_iff.mp h
  obtain ⟨o, ho, hfound⟩ := exists_clash_of_clash? hclash
  refine ⟨o, r, ?_, hfound⟩
  -- The scan stands between the two, which keeps them in their order.
  rw [← List.append_assoc]
  have hfront : [o].Sublist (earlier ++ front) := List.singleton_sublist.mpr ho
  have hback : [r].Sublist (r :: back) := List.singleton_sublist.mpr (List.mem_cons_self ..)
  exact hfront.append hback

theorem Clash.isUserError (h : Clash o r e) : e.isUserError = true := by
  cases h with
  | identity => rfl
  | directory => rfl

end Resolver

/-! ## Refused projects -/

namespace Project

variable {p : Project} {given : List (String × RawValue)} {snapshot : Snapshot}
  {e : ProjectError}

/-- What a project, together with the values given for one run, is refused for. -/
inductive Refused (p : Project) (given : List (String × RawValue)) : ProjectError → Prop where
  | property {cause : PropertyError} (h : Snapshot.ofLayers (p.layers given) = .error cause) :
      Refused p given (.property cause)
  | removed {snapshot : Snapshot} {cause : PropertyError}
      (hlayers : Snapshot.ofLayers (p.layers given) = .ok snapshot) (hstrict : p.strict = true)
      (h : snapshot.removed? = some cause) : Refused p given (.property cause)
  | identity {i : Identity} {fault : IdentityFault} (hi : i ∈ p.variants)
      (h : i.fault? = some fault) : Refused p given (.variant (.invalidIdentity fault.message))
  | clash {snapshot : Snapshot} {i j : Identity} {e : ProjectError}
      (hlayers : Snapshot.ofLayers (p.layers given) = .ok snapshot)
      (hpair : [i, j].Sublist p.variants)
      (h : Resolver.Clash (p.resolver snapshot i) (p.resolver snapshot j) e) : Refused p given e

/-- Nothing that a project is refused for is the program's fault. -/
theorem Refused.isUserError (h : p.Refused given e) : e.isUserError = true := by
  cases h with
  | property => rfl
  | removed => rfl
  | identity => rfl
  | clash _ _ h => exact h.isUserError

/-- Once its properties are read, a project is refused for something in it. -/
theorem refused_of_refusal? (hlayers : Snapshot.ofLayers (p.layers given) = .ok snapshot)
    (h : p.refusal? snapshot = some e) : p.Refused given e := by
  have hchecks : (p.strictRefusal? snapshot <|> (p.identityRefusal?
      <|> p.clashRefusal? snapshot)) = some e := h
  rcases (Option.orElse_eq_some _ _ _).mp hchecks with hstrict | ⟨-, hvariants⟩
  · have hremoved : (if p.strict then snapshot.removed?.map ProjectError.property else none)
        = some e := hstrict
    by_cases hset : p.strict = true
    · rw [if_pos hset, Option.map_eq_some_iff] at hremoved
      obtain ⟨cause, hcause, rfl⟩ := hremoved
      exact .removed hlayers hset hcause
    · rw [if_neg hset] at hremoved
      exact nomatch hremoved
  · rcases (Option.orElse_eq_some _ _ _).mp hvariants with hidentity | ⟨-, hclash⟩
    · obtain ⟨fault, hfault, rfl⟩ := Option.map_eq_some_iff.mp hidentity
      obtain ⟨i, hi, hfound⟩ := List.exists_of_findSome?_eq_some hfault
      exact .identity hi hfound
    · rw [clashRefusal?_eq] at hclash
      obtain ⟨o, r, hpair, hfound⟩ := Resolver.exists_clash_of_firstClash? hclash
      -- Resolvers stand in the order of the identities, so a pair of them is one of these.
      rw [List.nil_append, resolvers_eq_map] at hpair
      obtain ⟨pair, hsub, hmap⟩ := List.sublist_map_iff.mp hpair
      match pair, hmap with
      | [i, j], hmap =>
          obtain ⟨ho, htail⟩ := List.cons.inj hmap
          obtain ⟨hr, -⟩ := List.cons.inj htail
          rw [ho, hr] at hfound
          exact .clash hlayers hsub hfound

end Project

/-! ## Reports without refusals -/

namespace Resolver

variable {r : Resolver}

/-- Unit tests go without manifest where directories follow the identity, and nothing else. -/
theorem lacksManifest_eq_true_iff :
    r.lacksManifest = true ↔ r.naming = .dimensionAware ∧ r.identity.component = .unitTest := by
  constructor
  · intro h
    have haware : r.naming = .dimensionAware := by
      have hfront := (Bool.and_eq_true_iff.mp (Bool.and_eq_true_iff.mp h).1).1
      exact beq_iff_eq.mp hfront
    exact ⟨haware, (lacksManifest_iff haware).mp h⟩
  · rintro ⟨haware, hcomponent⟩
    exact (lacksManifest_iff haware).mpr hcomponent

/-- **MANIFESTS IN REPORTS**: the only variants without are those that lack one. -/
theorem summary_manifests_eq_none_iff (hr : ∀ s ∈ r.segments, IsSegment s) (archives : String) :
    (r.summary archives).manifests = none
      ↔ r.naming = .dimensionAware ∧ r.identity.component = .unitTest := by
  rw [← lacksManifest_eq_true_iff]
  show r.manifests.toOption.map Directory.location = none ↔ _
  cases hlacks : r.lacksManifest with
  | true =>
      have hmanifests : r.manifests = .error (.noManifest r.identity.component.name) := by
        show (if r.lacksManifest then _ else _) = _
        rw [if_pos hlacks]
      rw [hmanifests]
      exact ⟨fun _ => rfl, fun _ => rfl⟩
  | false =>
      rw [manifests_eq_ok hr hlacks]
      exact ⟨fun h => (nomatch h), fun h => (nomatch h)⟩

end Resolver

namespace Session

variable {p : Project} {given : List (String × RawValue)} {e : ProjectError}

/-- **REFUSALS NAME THEIR CAUSE**: a session that does not open is refused for something in
    the project. -/
theorem refused_of_configure (h : configure p given = .error e) : p.Refused given e := by
  rcases configure_eq_error_iff.mp h with ⟨cause, hlayers, rfl⟩ | ⟨snapshot, hlayers, hrefusal⟩
  · exact .property hlayers
  · exact Project.refused_of_refusal? hlayers hrefusal

/-- **NO FAULT OF ITS OWN**: a session that does not open is refused for something that those
    who wrote the project can mend.  An open one reports on every declared variant, in declared
    order, and the report names a place for manifests unless the variant is a unit test and
    directories follow the identity. -/
theorem no_fault_of_its_own (p : Project) (given : List (String × RawValue)) :
    (∀ e, configure p given = .error e → e.isUserError = true)
      ∧ ∀ s, configure p given = .ok s →
          ∃ reports : List Report, s.reports = .ok reports
            ∧ reports.length = p.variants.length
            ∧ ∀ (n : Nat) (i : Identity), p.variants[n]? = some i →
                ∃ r report, s.resolvers[n]? = some r ∧ r.identity = i
                  ∧ reports[n]? = some report ∧ s.report r = .ok report
                  ∧ (report.manifests = none
                      ↔ p.naming = .dimensionAware ∧ i.component = .unitTest) := by
  refine ⟨?_, ?_⟩
  · intro e he
    exact (refused_of_configure he).isUserError
  · intro s hs
    obtain ⟨hp, -, hproject, hresolvers⟩ := configure_eq_ok_iff.mp hs
    refine ⟨_, reports_eq_ok hs, List.length_map _, ?_⟩
    intro n i hi
    have hsegments := p.isSegment_resolver s.snapshot (hp.wellFormed i (List.mem_of_getElem? hi))
    refine ⟨p.resolver s.snapshot i, (p.resolver s.snapshot i).summary p.archivesName,
      ?_, rfl, ?_, ?_, Resolver.summary_manifests_eq_none_iff hsegments p.archivesName⟩
    · rw [hresolvers, List.getElem?_map, hi]
      rfl
    · rw [List.getElem?_map, hi]
      rfl
    · show Resolver.report _ s.project.archivesName = _
      rw [hproject]
      exact Resolver.report_eq_ok hsegments p.archivesName

end Session

end BuildLayout
