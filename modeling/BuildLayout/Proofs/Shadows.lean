import Mathlib.Data.List.Basic
import BuildLayout.Proofs.Identities

/-! # Directories that read like a component's

    The directory of a nested component starts with its token.  The names of a main variant may
    not start like the test components, but its directory starts with all flavors run together,
    so the question is which names can spell a token between them.

    No upper case holds an ASCII small letter (`isLower_upper`), so every capitalized word
    starts a new hump of a camel-case text, and a text of two humps is spelled by one word or by
    two (`camelCase_eq_humps_iff`).  Of the spellings of the tokens the checks leave three: the
    name `unitTest`, and `Test` behind `unit` or `android` (`camelCase_eq_lead_iff`).  With one
    of these in front, and the rest alike, a main variant has the directory of a test
    (`dirName_shadows_iff`). -/

namespace BuildLayout

open Text

/-! ## Small letters -/

theorem isLower_iff {c : Char} : c.isLower = true ↔ 0x61 ≤ c.toNat ∧ c.toNat ≤ 0x7A := by
  show (decide ('a'.val ≤ c.val) && decide (c.val ≤ 'z'.val)) = true ↔ _
  rw [Bool.and_eq_true, decide_eq_true_eq, decide_eq_true_eq, UInt32.le_iff_toNat_le,
    UInt32.le_iff_toNat_le]
  rfl

/-- The expansions have at least two characters, and none of these is a small letter. -/
theorem caseExpansions_capitals :
    ∀ e ∈ caseExpansions, e.tail ≠ [] ∧ ∀ n ∈ e.head :: e.tail, n < 0x61 ∨ 0x7A < n := by
  decide +kernel

/-- No run of capitals meets the small letters. -/
theorem caseRuns_capitals :
    ∀ r ∈ caseRuns, r.target + (r.last - r.first) < 0x61 ∨ 0x7A < r.target := by
  decide +kernel

/-- The one run of capitals that holds `T` maps `t` to it. -/
theorem caseRuns_T :
    ∀ r ∈ caseRuns, r.target ≤ 0x54 → 0x54 ≤ r.target + (r.last - r.first) →
      r.first + 0x54 = r.target + 0x74 := by
  decide +kernel

theorem isLower_ofNat_eq_false {n : Nat} (h : n < 0x61 ∨ 0x7A < n) :
    (Char.ofNat n).isLower = false := by
  refine Bool.eq_false_iff.mpr fun hlower => ?_
  have hne : Char.ofNat n ≠ Char.ofNat 0 := by
    intro hzero
    rw [hzero] at hlower
    exact absurd hlower (by decide)
  have hn : n = (Char.ofNat n).toNat := eq_toNat_of_ofNat_eq hne rfl
  have hcodes := isLower_iff.mp hlower
  omega

/-- **CAPITALS**: no upper case holds a small letter of ASCII. -/
theorem isLower_upper {c d : Char} (hd : d ∈ upper c) : d.isLower = false := by
  rcases upper_cases c with ⟨e, he, hupper⟩ | ⟨r, hr, hcovers, hupper⟩ | ⟨hfree, hupper⟩
  · rw [hupper] at hd
    obtain ⟨n, hn, rfl⟩ := List.mem_map.mp hd
    exact isLower_ofNat_eq_false ((caseExpansions_capitals e he).2 n hn)
  · rw [hupper] at hd
    rw [List.mem_singleton.mp hd]
    have hcodes := caseRuns_capitals r hr
    have himage := CaseRun.map_of_covers hcovers
    exact isLower_ofNat_eq_false (by omega)
  · -- The small letters have a run of their own, the first one, so this is none of them.
    rw [hupper] at hd
    rw [List.mem_singleton.mp hd]
    have hsmall : CaseRun.covers ⟨0x61, 0x7A, 1, 0x41⟩ c.toNat = false :=
      hfree _ (List.mem_cons_self ..)
    refine Bool.eq_false_iff.mpr fun hlower => ?_
    have hcodes := isLower_iff.mp hlower
    simp [CaseRun.covers, hcodes, Nat.mod_one] at hsmall

/-- Among small letters there is no other character. -/
theorem notMem_of_all_isLower {d : Char} {ds : List Char} (hd : d.isLower = false)
    (hds : ds.all Char.isLower) : d ∉ ds := by
  intro hmem
  exact Bool.false_ne_true (hd.symm.trans (List.all_eq_true.mp hds d hmem))

/-- Only two characters have `T` alone for their upper case. -/
theorem eq_of_upper_eq_T {c : Char} (h : upper c = ['T']) : c = 't' ∨ c = 'T' := by
  rcases upper_cases c with ⟨e, he, hupper⟩ | ⟨r, hr, hcovers, hupper⟩ | ⟨-, hupper⟩
  · rw [hupper] at h
    have htail := (List.cons.inj h).2
    exact absurd (List.map_eq_nil_iff.mp htail) (caseExpansions_capitals e he).1
  · rw [hupper] at h
    have hT : r.map c.toNat = 0x54 := eq_toNat_of_ofNat_eq (by decide) (List.cons.inj h).1
    obtain ⟨hlow, hhigh⟩ := CaseRun.map_of_covers hcovers
    rw [hT] at hlow hhigh
    have hshift := caseRuns_T r hr hlow hhigh
    simp only [CaseRun.covers, CaseRun.map, Bool.and_eq_true, decide_eq_true_eq] at hcovers hT
    refine Or.inl (Char.toNat_inj.mp ?_)
    show c.toNat = 0x74
    omega
  · rw [hupper] at h
    exact Or.inr (List.cons.inj h).1

/-! ## Humps -/

/-- A capitalized word starts with no small letter. -/
theorem exists_toList_capitalized {word : String} (h : word ≠ "") :
    ∃ e es, (capitalized word).toList = e :: es ∧ e.isLower = false := by
  cases hword : word.toList with
  | nil => exact absurd (String.toList_eq_nil_iff.mp hword) h
  | cons c rest =>
      obtain ⟨e, more, hupper⟩ := List.exists_cons_of_ne_nil (upper_ne_nil c)
      refine ⟨e, more ++ rest, ?_, ?_⟩
      · rw [toList_capitalized hword, hupper]
        rfl
      · exact isLower_upper (c := c) (by simp [hupper])

section Humps

variable {low high : String} {d : Char} {ds : List Char}

/-- Behind a word, another one starts the second hump, and there is no room for a third. -/
theorem append_join_eq_humps (hlow : low.toList.all Char.isLower)
    (hhigh : high.toList = d :: ds) (hds : ds.all Char.isLower) {w v : String}
    {rest : List String} (hwords : ∀ u ∈ v :: rest, u ≠ "")
    (h : w ++ String.join ((v :: rest).map capitalized) = low ++ high) :
    w = low ∧ rest = [] ∧ capitalized v = high := by
  obtain ⟨e, es, hv, he⟩ := exists_toList_capitalized (hwords v (List.mem_cons_self ..))
  have hsplit : low.toList ++ d :: ds
      = w.toList ++ e :: (es ++ (String.join (rest.map capitalized)).toList) := by
    have hchars := congrArg String.toList h.symm
    simpa only [String.toList_append, List.map_cons, String.join_cons, hhigh, hv,
      List.cons_append] using hchars
  -- The start of the second word is no small letter, so it is the one that starts the hump.
  obtain ⟨hw, rfl, hes⟩ := (List.append_cons_inj_of_notMem (notMem_of_all_isLower he hlow)
    (notMem_of_all_isLower he hds)).mp hsplit
  have hrest : rest = [] := by
    cases rest with
    | nil => rfl
    | cons u rest =>
        obtain ⟨e', es', hu, he'⟩ := exists_toList_capitalized (hwords u (by simp))
        have hmem : e' ∈ ds := by
          rw [hes, List.map_cons, String.join_cons, String.toList_append, hu]
          simp
        exact absurd hmem (notMem_of_all_isLower he' hds)
  refine ⟨(String.toList_injective hw).symm, hrest, String.toList_injective ?_⟩
  rw [hv, hhigh, hes, hrest, List.map_nil, String.join_nil, String.toList_empty, List.append_nil]

/-- **TWO HUMPS**: a text of small letters, another character and small letters again is spelled
    in camel case by itself, or by what stands before that character and a word for the rest. -/
theorem camelCase_eq_humps_iff (hlow : low.toList.all Char.isLower)
    (hhigh : high.toList = d :: ds) (hds : ds.all Char.isLower) {words : List String}
    (hwords : ∀ w ∈ words, w ≠ "") :
    camelCase words = low ++ high
      ↔ words = [low ++ high] ∨ ∃ v, words = [low, v] ∧ capitalized v = high := by
  cases words with
  | nil =>
      have hne : high ≠ "" := by
        rintro rfl
        exact nomatch hhigh
      constructor
      · intro h
        exact absurd (String.append_eq_empty_iff.mp h.symm).2 hne
      · rintro (h | ⟨v, h, -⟩) <;> exact nomatch h
  | cons w rest =>
      obtain ⟨hw, hrest⟩ := List.forall_mem_cons.mp hwords
      rw [camelCase_cons hw]
      cases rest with
      | nil =>
          rw [List.map_nil, String.join_nil, String.append_empty, List.singleton_inj]
          constructor
          · exact Or.inl
          · rintro (h | ⟨v, h, -⟩)
            · exact h
            · exact nomatch h
      | cons v rest =>
          constructor
          · intro h
            obtain ⟨rfl, rfl, hv⟩ := append_join_eq_humps hlow hhigh hds hrest h
            exact Or.inr ⟨v, rfl, hv⟩
          · rintro (h | ⟨v', h, hv'⟩)
            · exact nomatch h
            · rw [List.cons.injEq, List.cons.injEq] at h
              obtain ⟨hlow, rfl, rfl⟩ := h
              rw [hlow, List.map_singleton, String.join_cons, String.join_nil,
                String.append_empty, hv']

end Humps

/-- Where only small letters follow, the upper case is the one character in front of them. -/
theorem upper_append_eq_iff {c d : Char} {rest ds : List Char}
    (hds : ds.all Char.isLower) :
    upper c ++ rest = d :: ds ↔ upper c = [d] ∧ rest = ds := by
  constructor
  · intro h
    obtain ⟨e, more, hupper⟩ := List.exists_cons_of_ne_nil (upper_ne_nil c)
    rw [hupper, List.cons_append] at h
    obtain ⟨rfl, hrest⟩ := List.cons.inj h
    cases more with
    | nil => exact ⟨hupper, hrest⟩
    | cons e' more =>
        -- A second capital would stand among the small letters.
        have hcapital : e'.isLower = false := isLower_upper (c := c) (by simp [hupper])
        have hmem : e' ∈ ds := by simp [← hrest]
        exact absurd hmem (notMem_of_all_isLower hcapital hds)
  · rintro ⟨hupper, rfl⟩
    rw [hupper]
    rfl

/-- Only with a `t` in front is a word capitalized to `Test`, or if it is already. -/
theorem capitalized_eq_Test_iff {word : String} :
    capitalized word = "Test" ↔ word = "test" ∨ word = "Test" := by
  constructor
  · intro h
    cases hword : word.toList with
    | nil =>
        rw [String.toList_eq_nil_iff.mp hword] at h
        exact absurd h (by decide)
    | cons c rest =>
        have hchars : upper c ++ rest = ['T', 'e', 's', 't'] := by
          rw [← toList_capitalized hword, h]
          rfl
        obtain ⟨hupper, rfl⟩ := (upper_append_eq_iff (by decide)).mp hchars
        rcases eq_of_upper_eq_T hupper with rfl | rfl
        · exact Or.inl (String.toList_injective hword)
        · exact Or.inr (String.toList_injective hword)
  · rintro (rfl | rfl) <;> decide

/-! ## Names that spell a token -/

/-- A name that the checks let pass, as a flavor or as a build type. -/
def PassesChecks (name : String) : Prop := ∃ part : NamePart, part.fault? name = none

namespace PassesChecks

variable {name : String}

theorem isWord (h : PassesChecks name) : IsWord name := by
  obtain ⟨part, hpart⟩ := h
  exact NamePart.isWord_of_fault? hpart

theorem not_reserved (h : PassesChecks name) :
    ∀ start ∈ reservedStarts, ¬ start.toList <+: name.toList := by
  intro start hstart hname
  have hword := h.isWord
  obtain ⟨part, hpart⟩ := h
  simp only [NamePart.fault?, hword.1, hword.2] at hpart
  have hnone := List.find?_eq_none.mp (Option.map_eq_none_iff.mp hpart) start hstart
  exact hnone (List.isPrefixOf_iff_prefix.mpr hname)

end PassesChecks

/-- The spellings of a token that ends in `Test`, by names that the checks let pass. -/
theorem camelCase_eq_append_Test_iff {low : String} {words : List String}
    (hlow : low.toList.all Char.isLower) (hwords : ∀ w ∈ words, PassesChecks w) :
    camelCase words = low ++ "Test" ↔ words = [low ++ "Test"] ∨ words = [low, "Test"] := by
  have hhigh : "Test".toList = ['T', 'e', 's', 't'] := rfl
  rw [camelCase_eq_humps_iff hlow hhigh (by decide) fun w hw => (hwords w hw).isWord.1]
  refine or_congr_right ⟨?_, fun h => ⟨"Test", h, by decide⟩⟩
  rintro ⟨v, h, hv⟩
  rcases capitalized_eq_Test_iff.mp hv with rfl | rfl
  · have hpasses : PassesChecks "test" := hwords "test" (by simp [h])
    exact absurd (List.prefix_refl _) (hpasses.not_reserved "test" (by decide))
  · exact h

namespace Component

/-- The components that are nested in every main one. -/
def standard : List Component := [.unitTest, .androidTest, .testFixtures]

/-- The lists of names that pass the checks and spell the token of a standard component. -/
def spellings : Component → List (List String)
  | .unitTest => [["unitTest"], ["unit", "Test"]]
  | .androidTest => [["android", "Test"]]
  | _ => []

/-- **SPELLINGS OF A TOKEN**: the checks leave two for unit tests, one for tests on devices and
    none for fixtures. -/
theorem camelCase_eq_lead_iff {c : Component} (hc : c ∈ standard) {words : List String}
    (hwords : ∀ w ∈ words, PassesChecks w) :
    c.lead? = some (camelCase words) ↔ words ∈ c.spellings := by
  cases c with
  | main => exact absurd hc (by decide)
  | nested lead tail => simp [standard] at hc
  | unitTest =>
      have hlow : "unit".toList.all Char.isLower := by decide
      have hspelled := camelCase_eq_append_Test_iff hlow hwords
      show some ("unit" ++ "Test") = some (camelCase words) ↔ _
      rw [Option.some.injEq, eq_comm, hspelled]
      simp [spellings]
  | androidTest =>
      have hlow : "android".toList.all Char.isLower := by decide
      have hspelled := camelCase_eq_append_Test_iff hlow hwords
      show some ("android" ++ "Test") = some (camelCase words) ↔ words ∈ [["android", "Test"]]
      rw [Option.some.injEq, eq_comm, hspelled, List.mem_singleton]
      -- The token itself is a reserved start.
      refine or_iff_right ?_
      rintro rfl
      have hpasses : PassesChecks "androidTest" := hwords _ (List.mem_cons_self ..)
      exact hpasses.not_reserved "androidTest" (by decide) (by decide)
  | testFixtures =>
      have hhigh : "Fixtures".toList = ['F', 'i', 'x', 't', 'u', 'r', 'e', 's'] := rfl
      have hlow : "test".toList.all Char.isLower := by decide
      have hspelled := camelCase_eq_humps_iff hlow hhigh (by decide)
        fun w hw => (hwords w hw).isWord.1
      show some ("test" ++ "Fixtures") = some (camelCase words) ↔ words ∈ []
      rw [Option.some.injEq, eq_comm, hspelled]
      refine iff_of_false ?_ List.not_mem_nil
      -- Both spellings start with a name that has a reserved start.
      rintro (rfl | ⟨v, rfl, -⟩)
      · have hpasses : PassesChecks "testFixtures" := hwords _ (List.mem_cons_self ..)
        exact hpasses.not_reserved "test" (by decide) (by decide)
      · have hpasses : PassesChecks "test" := hwords _ (List.mem_cons_self ..)
        exact hpasses.not_reserved "test" (by decide) (by decide)

end Component

/-! ## Directories of main and nested variants -/

namespace Identity

variable {i : Identity}

/-- The names that a directory of a main variant starts with: all flavors, or the build type. -/
def frontNames (i : Identity) : List String :=
  if i.flavors.isEmpty then i.buildType.toList else i.flavorNames

/-- The segments behind these names. -/
def laterSegments (i : Identity) : List String :=
  if i.flavors.isEmpty then [] else i.buildType.toList

theorem segments_main (hmain : i.component = .main) :
    i.segments .dimensionAware
      = if i.frontNames = [] then [] else camelCase i.frontNames :: i.laterSegments := by
  obtain ⟨buildType, flavors, component, split⟩ := i
  subst hmain
  cases flavors with
  | cons f rest => rfl
  | nil =>
      cases buildType with
      | none => rfl
      | some name => rfl

theorem segments_of_lead {lead : String} (h : i.component.lead? = some lead) :
    i.segments .dimensionAware = lead :: (i.flavorName?.toList ++ i.buildType.toList) := by
  simp only [segments, h]
  rfl

theorem WellFormed.passesChecks_frontNames (h : i.WellFormed) :
    ∀ w ∈ i.frontNames, PassesChecks w := by
  obtain ⟨hflavors, hbuild, -, -⟩ := (wellFormed_iff i).mp h
  intro w hw
  simp only [frontNames] at hw
  split at hw
  · exact ⟨.buildType, hbuild w (Option.mem_toList.mp hw)⟩
  · exact ⟨.flavor, hflavors w hw⟩

end Identity

namespace Resolver

variable {a b : Identity}

/-- **WHERE A VARIANT SHADOWS A COMPONENT**: a main variant has the directory of a standard
    nested component exactly if its first names spell the token and the segments behind them
    are the component's. -/
theorem dirName_shadows_iff (ha : a.WellFormed) (hb : b.WellFormed) (hmain : a.component = .main)
    (hnested : b.component ∈ Component.standard) (root root' : Location) :
    ({ identity := a, root := root, naming := .dimensionAware } : Resolver).dirName
        = ({ identity := b, root := root', naming := .dimensionAware } : Resolver).dirName
      ↔ a.frontNames ∈ b.component.spellings
        ∧ a.laterSegments = b.flavorName?.toList ++ b.buildType.toList := by
  have hstandard : ∀ c ∈ Component.standard, c.lead?.isSome = true := by decide
  obtain ⟨lead, hlead⟩ := Option.isSome_iff_exists.mp (hstandard _ hnested)
  have hspelled := Component.camelCase_eq_lead_iff hnested ha.passesChecks_frontNames
  rw [hlead, Option.some.injEq, eq_comm] at hspelled
  show a.dirName .dimensionAware = b.dirName .dimensionAware ↔ _
  rw [Identity.dirName_eq_iff ha hb, Identity.segments_main hmain, Identity.segments_of_lead hlead,
    ← hspelled]
  by_cases hfront : a.frontNames = []
  · -- Without any names there is no segment, and nothing spells the token.
    have hempty : camelCase a.frontNames ≠ lead := by
      rw [hfront]
      exact (hb.isWord_lead lead hlead).1.symm
    rw [if_pos hfront]
    exact iff_of_false (List.cons_ne_nil _ _).symm fun h => hempty h.1
  · rw [if_neg hfront, List.cons.injEq]

/-- A debug variant of the flavors `unit` and `Test`. -/
def unitTestFlavors : Identity where
  buildType := some "debug"
  flavors := [⟨"level", "unit"⟩, ⟨"kind", "Test"⟩]

/-- The unit tests of a debug variant without flavors. -/
def debugUnitTest : Identity where
  buildType := some "debug"
  component := .unitTest

theorem dirName_shadows_iff_unitTestFlavors :
    unitTestFlavors.WellFormed ∧ debugUnitTest.WellFormed ∧ unitTestFlavors.component = .main
      ∧ debugUnitTest.component ∈ Component.standard
      ∧ ({ identity := unitTestFlavors, root := ⟨"/p"⟩, naming := .dimensionAware } :
          Resolver).dirName
        = ({ identity := debugUnitTest, root := ⟨"/p"⟩, naming := .dimensionAware } :
          Resolver).dirName := by
  have hflavors : unitTestFlavors.WellFormed := by decide
  have htest : debugUnitTest.WellFormed := by decide
  have hstandard : debugUnitTest.component ∈ Component.standard := by decide
  refine ⟨hflavors, htest, rfl, hstandard, ?_⟩
  exact (dirName_shadows_iff hflavors htest rfl hstandard ⟨"/p"⟩ ⟨"/p"⟩).mpr ⟨by decide, rfl⟩

/-- A build type with the name of the directory for unit tests. -/
def unitTestType : Identity where
  buildType := some "unitTest"

/-- Unit tests without any names. -/
def bareUnitTest : Identity where
  component := .unitTest

/-- The checks let both pass, and they have one directory. -/
theorem dirName_shadows_unitTestType :
    unitTestType.WellFormed ∧ bareUnitTest.WellFormed ∧ unitTestType.component = .main
      ∧ bareUnitTest.component = .unitTest
      ∧ ({ identity := unitTestType, root := ⟨"/p"⟩, naming := .dimensionAware } :
          Resolver).dirName
        = ({ identity := bareUnitTest, root := ⟨"/p"⟩, naming := .dimensionAware } :
          Resolver).dirName := by
  exact ⟨by decide, by decide, rfl, rfl, rfl⟩

end Resolver

end BuildLayout
