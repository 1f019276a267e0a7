import BuildLayout.Proofs.Identities

/-! # Names of variants

    The base name of a variant, its split included, tells splits of one variant apart but for
    one pair: the identity without any names goes by `main`, and so does its split of that
    name (`fileBase_eq_iff`).  A further piece always makes a joined name longer, so only a
    name that is not joined can meet it.

    What a base name is joined from is one list, the tokens of the identity or the fallback
    name alone (`baseName_eq_intercalate`).  A full name is camel case with the component's tail
    behind it, with or without a split in it (`fullName_of_fullStart_ne_empty`,
    `fullNameWithSplit_eq_camelCase`).

    The full name is the same text for every well-formed identity, whichever way it is put
    together: its words in camel case and the component's tail, or the component's own name
    where there are no words (`variantName_eq_spelling`). -/

namespace BuildLayout

open Text

/-! ## Joined pieces -/

/-- One more piece makes a joined text longer. -/
theorem length_intercalate_insert (glue s : String) {xs ys : List String} (hne : xs ++ ys ≠ []) :
    (glue.intercalate (xs ++ s :: ys)).length
      = (glue.intercalate (xs ++ ys)).length + glue.length + s.length := by
  induction xs with
  | nil =>
      rw [List.nil_append] at hne
      rw [List.nil_append, List.nil_append, String.intercalate_cons_of_ne_nil hne,
        String.length_append, String.length_append]
      omega
  | cons x xs ih =>
      have hmid : xs ++ s :: ys ≠ [] := List.append_ne_nil_of_right_ne_nil _ (List.cons_ne_nil _ _)
      rw [List.cons_append, List.cons_append, String.intercalate_cons_of_ne_nil hmid,
        String.length_append, String.length_append]
      -- A piece that stood alone gets its first glue here.
      by_cases hrest : xs ++ ys = []
      · obtain ⟨rfl, rfl⟩ := List.append_eq_nil_iff.mp hrest
        rw [List.nil_append, List.nil_append, String.intercalate_singleton,
          String.intercalate_singleton]
      · rw [ih hrest, String.intercalate_cons_of_ne_nil hrest, String.length_append,
          String.length_append]
        omega

namespace Identity

variable {i j : Identity}

/-! ## Base names -/

/-- The base name, with the split in its place if there is one. -/
def fileBase (i : Identity) : String :=
  match i.split with
  | some split => i.baseNameWithSplit split
  | none => i.baseName

/-- The identity without any names. -/
def bare : Identity := {}

/-- The split of the identity without any names that goes by the same name. -/
def bareMain : Identity := { split := some mainName }

/-- The tokens of an identity: its flavors, its build type and the token of its component. -/
def tokens (i : Identity) : List String :=
  i.flavorNames ++ i.buildType.toList ++ i.component.lead?.toList

/-- The tokens that the base name shows: the fallback name where there are none. -/
def shownTokens (i : Identity) : List String :=
  if i.tokens = [] then [mainName] else i.tokens

theorem baseTokens_eq_tokens (i : Identity) : i.baseTokens = i.tokens :=
  (List.append_assoc ..).symm

theorem shownTokens_of_nil (h : i.tokens = []) : i.shownTokens = [mainName] := if_pos h

theorem shownTokens_of_ne_nil (h : i.tokens ≠ []) : i.shownTokens = i.tokens := if_neg h

/-- Every base name is joined from what it shows. -/
theorem baseName_eq_intercalate (i : Identity) : i.baseName = "-".intercalate i.shownTokens := by
  show (if i.baseTokens.isEmpty then mainName else "-".intercalate i.baseTokens) = _
  rw [baseTokens_eq_tokens]
  by_cases hnil : i.tokens = []
  · rw [shownTokens_of_nil hnil, hnil, String.intercalate_singleton]
    rfl
  · rw [shownTokens_of_ne_nil hnil, List.isEmpty_eq_false_iff.mpr hnil]
    rfl

theorem WellFormed.isWord_shownToken (h : i.WellFormed) : ∀ t ∈ i.shownTokens, IsWord t := by
  by_cases hnil : i.tokens = []
  · rw [shownTokens_of_nil hnil]
    exact List.forall_mem_singleton.mpr (by decide)
  · rw [shownTokens_of_ne_nil hnil, ← baseTokens_eq_tokens]
    exact List.forall_mem_append.mpr ⟨h.isWord_flavorName, h.isWord_baseEnd⟩

/-- The base name of a split determines the split. -/
theorem baseNameWithSplit_injective {s t : String}
    (h : i.baseNameWithSplit s = i.baseNameWithSplit t) : s = t := by
  obtain ⟨front, rear, hmid⟩ := intercalate_middle "-" i.flavorNames i.baseEnd
  have hst : front ++ s ++ rear = front ++ t ++ rear := (hmid s).symm.trans (h.trans (hmid t))
  exact (String.append_right_inj front).mp ((String.append_left_inj rear).mp hst)

/-- No names, no tokens. -/
theorem baseTokens_eq_nil_iff : i.baseTokens = [] ↔ i.unsplit = bare := by
  show i.flavors.map Flavor.name ++ (i.buildType.toList ++ i.component.lead?.toList) = [] ↔ _
  rw [List.append_eq_nil_iff, List.append_eq_nil_iff, List.map_eq_nil_iff,
    Option.toList_eq_nil_iff, Option.toList_eq_nil_iff]
  constructor
  · rintro ⟨hflavors, hbuild, hlead⟩
    have hmain : i.component = .main := by
      cases hc : i.component with
      | main => rfl
      | unitTest => exact nomatch hc ▸ hlead
      | androidTest => exact nomatch hc ▸ hlead
      | testFixtures => exact nomatch hc ▸ hlead
      | nested lead tail => exact nomatch hc ▸ hlead
    exact Identity.mk.injEq .. ▸ ⟨hbuild, hflavors, hmain, rfl⟩
  · intro h
    obtain ⟨hbuild, hflavors, hmain, -⟩ := Identity.mk.injEq .. ▸ h
    exact ⟨hflavors, hbuild, by rw [hmain]; rfl⟩

/-- **THE FALLBACK NAME MEETS ONE SPLIT**: the base name of a variant is that of one of its
    splits only for the split `main` of the variant without names. -/
theorem baseName_eq_withSplit_iff {s : String} :
    i.baseName = i.baseNameWithSplit s ↔ i.unsplit = bare ∧ s = mainName := by
  by_cases hnil : i.baseTokens = []
  · obtain ⟨hflavors, hend⟩ := List.append_eq_nil_iff.mp hnil
    have hbase : i.baseName = mainName := by
      simp only [baseName, hnil]
      rfl
    have hsplit : i.baseNameWithSplit s = s := by
      simp only [baseNameWithSplit, baseTokensWithSplit, hflavors, hend]
      exact String.intercalate_singleton
    rw [hbase, hsplit]
    exact ⟨fun h => ⟨baseTokens_eq_nil_iff.mp hnil, h.symm⟩, fun h => h.2.symm⟩
  · have hbase : i.baseName = "-".intercalate i.baseTokens := by
      simp only [baseName, List.isEmpty_eq_false_iff.mpr hnil]
      rfl
    refine ⟨fun h => ?_, fun h => absurd (baseTokens_eq_nil_iff.mpr h.1) hnil⟩
    -- The same pieces stand in both names, and the split in one of them.
    have hlength := length_intercalate_insert "-" s hnil
    have heq : "-".intercalate i.baseTokens
        = "-".intercalate (i.flavorNames ++ s :: i.baseEnd) := hbase.symm.trans h
    have hglue : "-".length = 1 := rfl
    rw [← heq, hglue] at hlength
    have htokens : i.baseTokens = i.flavorNames ++ i.baseEnd := rfl
    rw [htokens] at hlength
    omega

/-- The name of a split depends on the variant and the split. -/
theorem SameVariant.baseNameWithSplit_eq (h : i.SameVariant j) (s : String) :
    i.baseNameWithSplit s = j.baseNameWithSplit s := by
  show i.unsplit.baseNameWithSplit s = j.unsplit.baseNameWithSplit s
  rw [h]

/-- An unsplit variant shares its base name with a split of it only if it has no names. -/
theorem fileBase_eq_split_iff (h : i.SameVariant j) (hi : i.split = none) {s : String}
    (hj : j.split = some s) : i.fileBase = j.fileBase ↔ i = bare ∧ j = bareMain := by
  have hbase : i.fileBase = i.baseName := by
    simp only [fileBase, hi]
  have hsplit : j.fileBase = i.baseNameWithSplit s := by
    simp only [fileBase, hj]
    exact (h.baseNameWithSplit_eq s).symm
  rw [hbase, hsplit, baseName_eq_withSplit_iff]
  constructor
  · rintro ⟨hbare, rfl⟩
    exact ⟨SameVariant.eq_of_split_eq hbare hi,
      SameVariant.eq_of_split_eq (h.symm.trans hbare) hj⟩
  · rintro ⟨rfl, rfl⟩
    exact ⟨rfl, (Option.some.inj hj).symm⟩

/-- **BASE NAMES OF SPLITS**: two splits of one variant share a base name only if they are
    the identity without names and its split `main`. -/
theorem fileBase_eq_iff (h : i.SameVariant j) (hne : i ≠ j) :
    i.fileBase = j.fileBase ↔ (i = bare ∧ j = bareMain) ∨ (i = bareMain ∧ j = bare) := by
  cases hi : i.split with
  | none =>
      cases hj : j.split with
      | none => exact absurd (h.eq_of_split_eq (hi.trans hj.symm)) hne
      | some t =>
          rw [fileBase_eq_split_iff h hi hj]
          refine ⟨Or.inl, fun hpair => hpair.elim id ?_⟩
          rintro ⟨rfl, -⟩
          exact nomatch hi
  | some s =>
      cases hj : j.split with
      | none =>
          rw [eq_comm, fileBase_eq_split_iff h.symm hj hi]
          refine ⟨fun hpair => Or.inr hpair.symm, fun hpair => hpair.elim ?_ And.symm⟩
          rintro ⟨rfl, -⟩
          exact nomatch hi
      | some t =>
          have hsplits : i.fileBase = j.fileBase ↔ s = t := by
            simp only [fileBase, hi, hj]
            show i.baseNameWithSplit s = j.baseNameWithSplit t ↔ s = t
            rw [← h.baseNameWithSplit_eq t]
            exact ⟨baseNameWithSplit_injective, fun hst => by rw [hst]⟩
          rw [hsplits]
          constructor
          · rintro rfl
            exact absurd (h.eq_of_split_eq (hi.trans hj.symm)) hne
          · rintro (⟨rfl, -⟩ | ⟨-, rfl⟩)
            · exact nomatch hi
            · exact nomatch hj

/-! ## Full names -/

/-- The words of the full name: flavors, split and build type. -/
def words (i : Identity) : List String := i.flavorNames ++ i.split.toList ++ i.buildType.toList

/-- The text that the words of an identity and its component spell. -/
def spelling (i : Identity) : String :=
  if i.words = [] then i.component.name else camelCase i.words ++ i.component.tail?.getD ""

theorem spelling_of_nil (h : i.words = []) : i.spelling = i.component.name := if_pos h

theorem spelling_of_ne_nil (h : i.words ≠ []) :
    i.spelling = camelCase i.words ++ i.component.tail?.getD "" :=
  if_neg h

/-- No flavors spell nothing. -/
theorem flavorName?_getD (i : Identity) : i.flavorName?.getD "" = camelCase i.flavorNames := by
  show (if i.flavors.isEmpty then none else some (camelCase (i.flavors.map Flavor.name))).getD ""
    = camelCase (i.flavors.map Flavor.name)
  cases i.flavors with
  | nil => rfl
  | cons f rest => rfl

theorem WellFormed.word_ne_empty (h : i.WellFormed) : ∀ w ∈ i.words, w ≠ "" := by
  intro w hw
  rcases List.mem_append.mp hw with hfront | hbuild
  · rcases List.mem_append.mp hfront with hflavor | hsplit
    · exact (h.isWord_flavorName w hflavor).1
    · exact h.split_ne_empty w (Option.mem_toList.mp hsplit)
  · exact (h.isWord_buildType w (Option.mem_toList.mp hbuild)).1

theorem WellFormed.camelCase_words_ne_empty (h : i.WellFormed) (hne : i.words ≠ []) :
    camelCase i.words ≠ "" := by
  intro hempty
  obtain ⟨w, hw⟩ := List.exists_mem_of_ne_nil _ hne
  exact h.word_ne_empty w hw ((camelCaseFrom_eq_empty_iff.mp hempty).2 w hw)

/-- The front of a full name is camel case throughout. -/
theorem fullStart_eq_camelCase (i : Identity) :
    i.fullStart = camelCase (i.flavorNames ++ i.buildType.toList) := by
  show camelCaseFrom (i.flavorName?.getD "") i.buildType.toList = _
  rw [flavorName?_getD, camelCaseFrom_camelCase]

/-- Where nothing stands in front of it, the component gives the full name. -/
theorem fullName_of_fullStart_eq_empty (h : i.fullStart = "") :
    i.fullName
      = if i.component.lead?.getD "" = "" then mainName else i.component.lead?.getD "" := by
  simp only [fullName, h]
  rfl

/-- Behind a front that is there, the component's tail stands as it is. -/
theorem fullName_of_fullStart_ne_empty (h : i.fullStart ≠ "") :
    i.fullName = i.fullStart ++ i.component.tail?.getD "" := by
  have hname : i.fullStart ++ i.component.tail?.getD "" ≠ "" :=
    fun h0 => h (String.append_eq_empty_iff.mp h0).1
  simp only [fullName, h, if_false, hname]

/-- The full name of a split has camel case in front too, with the split in its place. -/
theorem fullNameWithSplit_eq_camelCase {s : String} (hs : s ≠ "") :
    i.fullNameWithSplit s
      = camelCase (i.flavorNames ++ s :: i.buildType.toList) ++ i.component.tail?.getD "" := by
  have hfront : (if camelCase i.flavorNames = "" then s
      else camelCase i.flavorNames ++ capitalized s) = camelCase (i.flavorNames ++ [s]) :=
    camelCaseFrom_camelCase i.flavorNames [s]
  have hne : camelCase (i.flavorNames ++ [s]) ≠ "" := by
    intro h0
    have hall := (camelCaseFrom_eq_empty_iff.mp h0).2
    exact hs (hall s (List.mem_append_right _ (List.mem_cons_self ..)))
  show (if i.flavorName?.getD "" = "" then s else i.flavorName?.getD "" ++ capitalized s)
    ++ (i.buildType.map capitalized).getD "" ++ i.component.tail?.getD "" = _
  -- The split is there, so a build type behind it is capitalized in camel case as well.
  have hfull : camelCase (i.flavorNames ++ [s]) ++ (i.buildType.map capitalized).getD ""
      = camelCase (i.flavorNames ++ s :: i.buildType.toList) := by
    rw [← camelCaseFrom_toList_of_ne_empty hne, camelCaseFrom_camelCase, List.append_assoc,
      List.singleton_append]
  rw [flavorName?_getD, hfront, hfull]

/-- The full name of an identity without split is what it spells. -/
theorem fullName_eq_spelling (h : i.WellFormed) (hi : i.split = none) :
    i.fullName = i.spelling := by
  have hwords : i.words = i.flavorNames ++ i.buildType.toList := by
    simp only [words, hi, Option.toList_none, List.append_nil]
  have hstart : i.fullStart = camelCase i.words := by
    rw [fullStart_eq_camelCase, hwords]
  by_cases hnil : i.words = []
  · have hempty : i.fullStart = "" := by
      rw [hstart, hnil]
      rfl
    rw [fullName_of_fullStart_eq_empty hempty, spelling_of_nil hnil]
    -- The component leads the name; its token is a word, so `main` stands for no other.
    show _ = i.component.lead?.getD "main"
    cases hlead : i.component.lead? with
    | none => rfl
    | some lead => exact if_neg (h.isWord_lead lead hlead).1
  · have hne : i.fullStart ≠ "" := by
      rw [hstart]
      exact h.camelCase_words_ne_empty hnil
    rw [fullName_of_fullStart_ne_empty hne, spelling_of_ne_nil hnil, hstart]

/-- The full name of a split is what it spells. -/
theorem fullNameWithSplit_eq_spelling (h : i.WellFormed) {s : String} (hi : i.split = some s) :
    i.fullNameWithSplit s = i.spelling := by
  have hwords : i.words = i.flavorNames ++ s :: i.buildType.toList := by
    simp only [words, hi, Option.toList_some, List.append_assoc, List.singleton_append]
  have hnil : i.words ≠ [] := by
    rw [hwords]
    exact List.append_ne_nil_of_right_ne_nil _ (List.cons_ne_nil _ _)
  rw [spelling_of_ne_nil hnil, hwords]
  exact fullNameWithSplit_eq_camelCase (h.split_ne_empty s hi)

end Identity

/-! ## Names that a resolver gives -/

namespace Resolver

variable {r : Resolver}

/-- Where names follow the identity, the variant goes by what its identity spells. -/
theorem variantName_eq_spelling (h : r.identity.WellFormed) (haware : r.naming = .dimensionAware) :
    r.variantName = r.identity.spelling := by
  cases hsplit : r.identity.split with
  | none =>
      simp only [variantName, hsplit]
      exact Identity.fullName_eq_spelling h hsplit
  | some s =>
      simp only [variantName, fullNameWithSplit, hsplit, haware]
      exact Identity.fullNameWithSplit_eq_spelling h hsplit

/-- Where names follow the identity, files go by its base name. -/
theorem variantBaseName_eq_fileBase (haware : r.naming = .dimensionAware)
    (hfresh : r.settled = {}) : r.variantBaseName = r.identity.fileBase := by
  simp only [variantBaseName, baseNameWithSplit, baseName, Identity.fileBase, haware, hfresh]
  rfl

end Resolver

end BuildLayout
