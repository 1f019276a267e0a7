import BuildLayout.Proofs.Paths
import BuildLayout.Variant.Resolver

/-! # Well-formed identities

    What the checks on an identity are worth: every name in it, and the token in front of its
    component, is a word (`WellFormed.isWord_segment` and its companions), so the directory
    segments can be read off the path that they make (`dirName_eq_iff`).  Splits of one
    variant have the same segments; being splits of one variant is an equivalence, and with
    the splits equal as well it is equality. -/

namespace BuildLayout

/-- Where the first reason that applies is taken, there is none only if none applies. -/
theorem orElse_eq_none_iff {α : Type} {a b : Option α} :
    (a <|> b) = none ↔ a = none ∧ b = none := by
  cases a with
  | none => exact ⟨fun h => ⟨rfl, h⟩, fun h => h.2⟩
  | some x => exact ⟨fun h => (nomatch h), fun h => (nomatch h.1)⟩

/-- A name that passes its check is a word. -/
theorem NamePart.isWord_of_fault? {part : NamePart} {name : String}
    (h : part.fault? name = none) : IsWord name := by
  simp only [NamePart.fault?] at h
  split at h
  · exact nomatch h
  · rename_i hne
    split at h
    · exact nomatch h
    · rename_i hsep
      exact ⟨hne, Bool.eq_false_iff.mpr hsep⟩

/-- The token in front of a component that passes its check is a word. -/
theorem Component.isWord_of_fault? {c : Component} (h : c.fault? = none) :
    ∀ lead ∈ c.lead?, IsWord lead := by
  have fixed : ∀ token ∈ ["unitTest", "androidTest", "testFixtures"], IsWord token := by decide
  cases c with
  | main => exact fun _ hmem => nomatch hmem
  | unitTest =>
      rintro lead ⟨rfl⟩
      exact fixed _ (by simp)
  | androidTest =>
      rintro lead ⟨rfl⟩
      exact fixed _ (by simp)
  | testFixtures =>
      rintro lead ⟨rfl⟩
      exact fixed _ (by simp)
  | nested lead tail =>
      have hfault : (if lead = "" ∨ tail = "" then some IdentityFault.emptyToken
        else if (hasSeparator lead || hasSeparator tail) = true
          then some (IdentityFault.tokenSeparator lead) else none) = none := h
      by_cases hempty : lead = "" ∨ tail = ""
      · rw [if_pos hempty] at hfault
        exact nomatch hfault
      · rw [if_neg hempty] at hfault
        cases hsep : hasSeparator lead || hasSeparator tail with
        | true =>
            rw [hsep, if_pos rfl] at hfault
            exact nomatch hfault
        | false =>
            rintro token ⟨rfl⟩
            exact ⟨(not_or.mp hempty).1, (Bool.or_eq_false_iff.mp hsep).1⟩

namespace Identity

variable {i j k : Identity}

/-! ## What a well-formed identity guarantees -/

/-- The checks, one part of the identity at a time. -/
theorem wellFormed_iff (i : Identity) :
    i.WellFormed ↔ (∀ name ∈ i.flavorNames, NamePart.flavor.fault? name = none)
      ∧ (∀ name ∈ i.buildType, NamePart.buildType.fault? name = none)
      ∧ i.component.fault? = none ∧ i.split ≠ some "" := by
  simp only [WellFormed, fault?, orElse_eq_none_iff, List.findSome?_eq_none_iff,
    Option.bind_eq_none_iff, ite_eq_right_iff, reduceCtorEq, imp_false, ne_eq, Option.mem_def]

theorem WellFormed.isWord_flavorName (h : i.WellFormed) : ∀ name ∈ i.flavorNames, IsWord name :=
  fun name hname => NamePart.isWord_of_fault? (((wellFormed_iff i).mp h).1 name hname)

theorem WellFormed.isWord_buildType (h : i.WellFormed) : ∀ name ∈ i.buildType, IsWord name :=
  fun name hname => NamePart.isWord_of_fault? (((wellFormed_iff i).mp h).2.1 name hname)

theorem WellFormed.isWord_lead (h : i.WellFormed) : ∀ lead ∈ i.component.lead?, IsWord lead :=
  Component.isWord_of_fault? ((wellFormed_iff i).mp h).2.2.1

/-- Behind the flavors stand words. -/
theorem WellFormed.isWord_baseEnd (h : i.WellFormed) : ∀ t ∈ i.baseEnd, IsWord t := by
  intro t ht
  rcases List.mem_append.mp ht with hbuild | hlead
  · exact h.isWord_buildType t (Option.mem_toList.mp hbuild)
  · exact h.isWord_lead t (Option.mem_toList.mp hlead)

theorem WellFormed.split_ne_empty (h : i.WellFormed) : ∀ split ∈ i.split, split ≠ "" := by
  rintro split hsplit rfl
  exact ((wellFormed_iff i).mp h).2.2.2 hsplit

/-! ## Directory segments -/

/-- The directory segments as one path. -/
def dirName (i : Identity) (naming : Naming) : String := "/".intercalate (i.segments naming)

/-- **SEGMENTS ARE WORDS**, also the flavors run together. -/
theorem WellFormed.isWord_segment (h : i.WellFormed) (naming : Naming) :
    ∀ s ∈ i.segments naming, IsWord s := by
  cases naming with
  | splitOnly => exact fun s hs => nomatch hs
  | dimensionAware =>
      intro s hs
      rcases List.mem_append.mp hs with hfront | hbuild
      · rcases List.mem_append.mp hfront with hlead | hflavor
        · exact h.isWord_lead s (Option.mem_toList.mp hlead)
        · -- The flavors run together are a word because each of them is one.
          have hname : i.flavorName? = some s := Option.mem_toList.mp hflavor
          simp only [flavorName?] at hname
          split at hname
          · exact nomatch hname
          · rename_i hne
            rw [← Option.some.inj hname]
            refine isWord_camelCase ?_ h.isWord_flavorName
            intro hnil
            exact hne (List.isEmpty_iff.mpr (List.map_eq_nil_iff.mp hnil))
      · exact h.isWord_buildType s (Option.mem_toList.mp hbuild)

theorem WellFormed.isSegment (h : i.WellFormed) (naming : Naming) :
    ∀ s ∈ i.segments naming, IsSegment s :=
  fun s hs => (h.isWord_segment naming s hs).isSegment

/-- Well-formed identities share a path exactly when they share the segments. -/
theorem dirName_eq_iff (hi : i.WellFormed) (hj : j.WellFormed) (naming : Naming) :
    i.dirName naming = j.dirName naming ↔ i.segments naming = j.segments naming := by
  constructor
  · intro h
    refine intercalate_injective (c := '/') ?_ ?_ h
    · exact fun s hs => ⟨(hi.isSegment naming s hs).1, (hi.isSegment naming s hs).2.1⟩
    · exact fun s hs => ⟨(hj.isSegment naming s hs).1, (hj.isSegment naming s hs).2.1⟩
  · intro h
    show "/".intercalate (i.segments naming) = "/".intercalate (j.segments naming)
    rw [h]

/-! ## Splits of one variant -/

theorem sameVariant_iff :
    i.SameVariant j ↔ i.buildType = j.buildType ∧ i.flavors = j.flavors
      ∧ i.component = j.component := by
  show Identity.mk i.buildType i.flavors i.component none
      = Identity.mk j.buildType j.flavors j.component none ↔ _
  rw [Identity.mk.injEq]
  constructor
  · rintro ⟨hbuild, hflavors, hcomponent, -⟩
    exact ⟨hbuild, hflavors, hcomponent⟩
  · rintro ⟨hbuild, hflavors, hcomponent⟩
    exact ⟨hbuild, hflavors, hcomponent, rfl⟩

theorem SameVariant.refl (i : Identity) : i.SameVariant i := rfl

theorem SameVariant.symm (h : i.SameVariant j) : j.SameVariant i := Eq.symm h

theorem SameVariant.trans (h : i.SameVariant j) (h' : j.SameVariant k) : i.SameVariant k :=
  Eq.trans h h'

/-- Splits of one variant differ in their splits. -/
theorem SameVariant.eq_of_split_eq (h : i.SameVariant j) (hs : i.split = j.split) : i = j := by
  obtain ⟨hbuild, hflavors, hcomponent⟩ := sameVariant_iff.mp h
  cases i
  cases j
  rw [Identity.mk.injEq]
  exact ⟨hbuild, hflavors, hcomponent, hs⟩

/-- The split plays no part in directories. -/
theorem SameVariant.segments_eq (h : i.SameVariant j) (naming : Naming) :
    i.segments naming = j.segments naming := by
  have hunsplit : ∀ i : Identity, i.segments naming = i.unsplit.segments naming := fun _ => rfl
  rw [hunsplit i, hunsplit j, h]

theorem SameVariant.dirName_eq (h : i.SameVariant j) (naming : Naming) :
    i.dirName naming = j.dirName naming :=
  congrArg "/".intercalate (h.segments_eq naming)

end Identity

end BuildLayout
