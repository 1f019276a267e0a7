import BuildLayout.Proofs.ReadBack

/-! # Two renderings of one list of tokens

    The base name and the full name are put together by themselves, each with a form of its own
    for splits.  Two laws say how the four belong together.

    A split is one more flavor: it stands behind the flavors and is joined to them as another
    one would be (`split_reads_as_flavor`).  So what holds of all names holds of the names of
    splits.

    The full name is the base name in camel case: the same tokens, run together where the base
    name has its dashes (`fullName_renders_baseName`).  The one place where the two take
    different texts is the end, where the base name has a component's lead and the full name its
    tail, so they agree as long as the tail is the lead capitalized. -/

namespace BuildLayout

open Text

namespace Identity

variable {i : Identity} {s : String}

/-! ## Splits and flavors -/

/-- The identity with one more flavor behind the others. -/
def withFlavor (i : Identity) (dimension name : String) : Identity :=
  { i with flavors := i.flavors ++ [⟨dimension, name⟩] }

@[simp] theorem flavorNames_withFlavor (i : Identity) (d s : String) :
    (i.withFlavor d s).flavorNames = i.flavorNames ++ [s] := by
  show (i.flavors ++ [Flavor.mk d s]).map Flavor.name = i.flavors.map Flavor.name ++ [s]
  rw [List.map_append, List.map_singleton]

/-- The tokens with a split are those with one more flavor. -/
theorem tokens_withFlavor (i : Identity) (d s : String) :
    (i.withFlavor d s).tokens = i.baseTokensWithSplit s := by
  show (i.withFlavor d s).flavorNames ++ i.buildType.toList ++ i.component.lead?.toList
    = i.flavorNames ++ s :: (i.buildType.toList ++ i.component.lead?.toList)
  rw [flavorNames_withFlavor, List.append_assoc, List.append_assoc, List.singleton_append]

/-- A flavor that is there leaves no empty front. -/
theorem fullStart_withFlavor_ne_empty (i : Identity) (d : String) (hs : s ≠ "") :
    (i.withFlavor d s).fullStart ≠ "" := by
  rw [fullStart_eq_camelCase, flavorNames_withFlavor]
  intro h
  have hall := (camelCaseFrom_eq_empty_iff.mp h).2
  exact hs (hall s (by simp))

/-- The full name of a split that is there has it where another flavor would stand. -/
theorem fullNameWithSplit_eq_fullName (i : Identity) (d : String) (hs : s ≠ "") :
    i.fullNameWithSplit s = (i.withFlavor d s).fullName := by
  have hstart : (i.withFlavor d s).fullStart
      = camelCase (i.flavorNames ++ s :: i.buildType.toList) := by
    rw [fullStart_eq_camelCase, flavorNames_withFlavor, List.append_assoc, List.singleton_append]
    rfl
  have hname := fullName_of_fullStart_ne_empty (fullStart_withFlavor_ne_empty i d hs)
  calc i.fullNameWithSplit s
      = camelCase (i.flavorNames ++ s :: i.buildType.toList) ++ i.component.tail?.getD "" :=
        fullNameWithSplit_eq_camelCase hs
    _ = (i.withFlavor d s).fullStart ++ i.component.tail?.getD "" := by rw [hstart]
    _ = (i.withFlavor d s).fullName := hname.symm

/-- So has the base name, even of an empty split. -/
theorem baseNameWithSplit_eq_baseName (i : Identity) (d s : String) :
    i.baseNameWithSplit s = (i.withFlavor d s).baseName := by
  have hne : (i.withFlavor d s).tokens ≠ [] := by
    rw [tokens_withFlavor]
    exact List.append_ne_nil_of_right_ne_nil _ (List.cons_ne_nil _ _)
  calc i.baseNameWithSplit s
      = "-".intercalate (i.withFlavor d s).tokens := by rw [tokens_withFlavor]; rfl
    _ = "-".intercalate (i.withFlavor d s).shownTokens := by rw [shownTokens_of_ne_nil hne]
    _ = (i.withFlavor d s).baseName := (baseName_eq_intercalate _).symm

/-- **A SPLIT READS AS A FLAVOR**: in every identity, well formed or not, the base name of a
    split is that with one more flavor of this name, and so is the full name if the split is
    there. -/
theorem split_reads_as_flavor (i : Identity) (dimension split : String) :
    (split ≠ "" → i.fullNameWithSplit split = (i.withFlavor dimension split).fullName)
      ∧ i.baseNameWithSplit split = (i.withFlavor dimension split).baseName := by
  refine ⟨?_, baseNameWithSplit_eq_baseName i dimension split⟩
  intro hsplit
  exact fullNameWithSplit_eq_fullName i dimension hsplit

/-- An identity whose names are all there and empty, but for a component of dashes. -/
def emptyNames : Identity where
  buildType := some ""
  flavors := [⟨"tier", ""⟩, ⟨"env", ""⟩]
  component := .nested "-" "-Bench"

theorem split_reads_as_flavor_emptyNames :
    ¬ emptyNames.WellFormed ∧ "en-US" ≠ ""
      ∧ (emptyNames.withFlavor "language" "en-US").fullName = "en-US-Bench"
      ∧ emptyNames.fullNameWithSplit "en-US" = "en-US-Bench"
      ∧ emptyNames.baseNameWithSplit "" = (emptyNames.withFlavor "language" "").baseName := by
  have hsplit : "en-US" ≠ "" := by decide
  have hname : (emptyNames.withFlavor "language" "en-US").fullName = "en-US-Bench" := by decide
  obtain ⟨hfull, -⟩ := split_reads_as_flavor emptyNames "language" "en-US"
  obtain ⟨-, hbase⟩ := split_reads_as_flavor emptyNames "language" ""
  exact ⟨by decide, hsplit, hname, (hfull hsplit).trans hname, hbase⟩

-- An empty split still puts the build type behind something, an empty flavor does not.
example :
    ({ buildType := some "debug" } : Identity).fullNameWithSplit "" = "Debug"
      ∧ (({ buildType := some "debug" } : Identity).withFlavor "abi" "").fullName = "debug" := by
  decide

end Identity

/-! ## Tokens in camel case -/

/-- A component that goes by one token: its tail is its lead, capitalized.  The standard ones
    are such. -/
def Component.IsUniform : Component → Prop
  | .nested lead tail => tail = capitalized lead
  | .main | .unitTest | .androidTest | .testFixtures => True

instance (c : Component) : Decidable c.IsUniform :=
  match c with
  | .nested lead tail => inferInstanceAs (Decidable (tail = capitalized lead))
  | .main | .unitTest | .androidTest | .testFixtures => inferInstanceAs (Decidable True)

/-- What a name ends in is then the lead, capitalized, if there is one. -/
theorem Component.isUniform_iff (c : Component) :
    c.IsUniform ↔ c.tail?.getD "" = (c.lead?.map capitalized).getD "" := by
  cases c with
  | main => exact iff_of_true trivial rfl
  | unitTest => exact iff_of_true trivial (by decide)
  | androidTest => exact iff_of_true trivial (by decide)
  | testFixtures => exact iff_of_true trivial (by decide)
  | nested lead tail => exact Iff.rfl

namespace Identity

variable {i : Identity}

/-- Behind a front, camel case capitalizes the component's lead. -/
theorem camelCase_tokens (h : i.fullStart ≠ "") :
    camelCase i.tokens = i.fullStart ++ (i.component.lead?.map capitalized).getD "" := by
  rw [← camelCaseFrom_toList_of_ne_empty h, fullStart_eq_camelCase, camelCaseFrom_camelCase]
  rfl

/-- A front is spelled by tokens. -/
theorem tokens_ne_nil (h : i.fullStart ≠ "") : i.tokens ≠ [] := by
  intro hnil
  obtain ⟨hfront, -⟩ := List.append_eq_nil_iff.mp hnil
  rw [fullStart_eq_camelCase, hfront] at h
  exact h rfl

/-- **ONE END FOR ANOTHER**: where there is a front, the full name is the tokens in camel case
    exactly if the component goes by one token. -/
theorem fullName_eq_camelCase_tokens_iff (h : i.fullStart ≠ "") :
    i.fullName = camelCase i.tokens ↔ i.component.IsUniform := by
  rw [fullName_of_fullStart_ne_empty h, camelCase_tokens h, String.append_right_inj,
    Component.isUniform_iff]

/-- Only with neither flavors nor a build type is there no front. -/
theorem WellFormed.fullStart_eq_empty_iff (h : i.WellFormed) :
    i.fullStart = "" ↔ i.flavors = [] ∧ i.buildType = none := by
  have hwords : ∀ w ∈ i.flavorNames ++ i.buildType.toList, IsWord w := by
    refine List.forall_mem_append.mpr ⟨h.isWord_flavorName, ?_⟩
    intro w hw
    exact h.isWord_buildType w (Option.mem_toList.mp hw)
  have hnil : i.flavorNames ++ i.buildType.toList = [] ↔ i.flavors = [] ∧ i.buildType = none := by
    rw [List.append_eq_nil_iff, Option.toList_eq_nil_iff]
    exact and_congr_left' List.map_eq_nil_iff
  rw [fullStart_eq_camelCase, ← hnil]
  by_cases hnames : i.flavorNames ++ i.buildType.toList = []
  · rw [hnames]
    exact iff_of_true rfl rfl
  · exact iff_of_false (isWord_camelCase hnames hwords).1 hnames

/-- Without a front, the full name is the one token that the base name shows. -/
theorem WellFormed.fullName_eq_camelCase_shownTokens (h : i.WellFormed)
    (hstart : i.fullStart = "") : i.fullName = camelCase i.shownTokens := by
  obtain ⟨hflavors, hbuild⟩ := h.fullStart_eq_empty_iff.mp hstart
  have htokens : i.tokens = i.component.lead?.toList := by
    simp only [tokens, flavorNames, hflavors, hbuild]
    rfl
  rw [fullName_of_fullStart_eq_empty hstart, shownTokens, htokens]
  cases hlead : i.component.lead? with
  | none => rfl
  | some lead => exact if_neg (h.isWord_lead lead hlead).1

/-- The pieces of the base name of a split are the tokens with the split in its place. -/
theorem WellFormed.piecesAt_baseNameWithSplit (h : i.WellFormed) {split : String}
    (hdash : '-' ∉ split.toList) :
    piecesAt '-' (i.baseNameWithSplit split) = i.baseTokensWithSplit split := by
  have hne : i.baseTokensWithSplit split ≠ [] :=
    List.append_ne_nil_of_right_ne_nil _ (List.cons_ne_nil _ _)
  refine piecesAt_intercalate (c := '-') hne ?_
  have hword : ∀ {t : String}, IsWord t → '-' ∉ t.toList := fun ht => ht.notMem (by decide)
  intro t ht
  rcases List.mem_append.mp ht with hflavor | hrest
  · exact hword (h.isWord_flavorName t hflavor)
  · rcases List.mem_cons.mp hrest with rfl | hend
    · exact hdash
    · exact hword (h.isWord_baseEnd t hend)

/-- **TWO RENDERINGS OF ONE LIST**: the full name of a well-formed identity is its base name in
    camel case, piece by piece, exactly if its component goes by one token or leads the name;
    that of a split without dashes in it exactly if the component goes by one token. -/
theorem fullName_renders_baseName (h : i.WellFormed) :
    (i.fullName = camelCase (piecesAt '-' i.baseName)
        ↔ i.component.IsUniform ∨ (i.flavors = [] ∧ i.buildType = none))
      ∧ ∀ split : String, split ≠ "" → '-' ∉ split.toList →
          (i.fullNameWithSplit split = camelCase (piecesAt '-' (i.baseNameWithSplit split))
            ↔ i.component.IsUniform) := by
  refine ⟨?_, ?_⟩
  · rw [h.piecesAt_baseName, ← h.fullStart_eq_empty_iff]
    by_cases hstart : i.fullStart = ""
    · exact iff_of_true (h.fullName_eq_camelCase_shownTokens hstart) (Or.inr hstart)
    · rw [shownTokens_of_ne_nil (tokens_ne_nil hstart), fullName_eq_camelCase_tokens_iff hstart,
        or_iff_left hstart]
  · intro split hsplit hdash
    -- A split is one more flavor, so there is a front, and the law for all names applies.
    rw [h.piecesAt_baseNameWithSplit hdash, fullNameWithSplit_eq_fullName i "" hsplit,
      ← tokens_withFlavor i ""]
    exact fullName_eq_camelCase_tokens_iff (fullStart_withFlavor_ne_empty i "" hsplit)

/-- A benchmark with a token that is longer in upper case. -/
def demoBenchmark : Identity where
  buildType := some "debug"
  flavors := [⟨"tier", "free"⟩, ⟨"env", "demo"⟩]
  component := .nested "ßmark" "SSmark"

theorem fullName_renders_baseName_demoBenchmark :
    demoBenchmark.WellFormed ∧ demoBenchmark.component.IsUniform
      ∧ "x86_64" ≠ "" ∧ '-' ∉ "x86_64".toList
      ∧ demoBenchmark.fullName = camelCase (piecesAt '-' demoBenchmark.baseName)
      ∧ demoBenchmark.fullNameWithSplit "x86_64"
          = camelCase (piecesAt '-' (demoBenchmark.baseNameWithSplit "x86_64")) := by
  have hwell : demoBenchmark.WellFormed := by decide
  have huniform : demoBenchmark.component.IsUniform := by decide
  have hsplit : "x86_64" ≠ "" := by decide
  have hdash : '-' ∉ "x86_64".toList := by decide
  obtain ⟨hname, hsplits⟩ := fullName_renders_baseName hwell
  exact ⟨hwell, huniform, hsplit, hdash, hname.mpr (Or.inl huniform),
    (hsplits "x86_64" hsplit hdash).mpr huniform⟩

end Identity

end BuildLayout
