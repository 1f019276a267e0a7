import BuildLayout.Proofs.Reports

/-! # File names of packages

    A file name is put together from the start that the project gives, the pieces of the base
    name and a fixed end.  The pieces are words, checked when the session opens, all but one:
    of a split it is only asked that it is there.  So a slash, or a backslash, in a file name
    was given as such, in the start of the name or in the split (`mem_outputFileName_iff`).

    A package lies directly in its place as long as its file name is one component; slashes
    in the split put directories in between (`file_names_of_packages`). -/

namespace BuildLayout

/-- A location directly in another one: one component behind it. -/
def Location.IsDirectlyIn (l base : Location) : Prop :=
  ∃ name : String, name ≠ "" ∧ '/' ∉ name.toList ∧ l = base.join name

/-- A path that is not absolute leads directly into the base exactly if it is one component. -/
theorem Location.join_isDirectlyIn_iff (base : Location) {path : String} (hne : path ≠ "")
    (hpath : isAbsoluteText path = false) :
    (base.join path).IsDirectlyIn base ↔ '/' ∉ path.toList := by
  constructor
  · rintro ⟨name, -, hname, heq⟩
    rw [join_of_relative base hpath, join_eq_append base hname, Location.mk.injEq,
      String.append_right_inj] at heq
    rw [heq]
    exact hname
  · intro h
    exact ⟨path, hne, h, rfl⟩

theorem isSeparator_of_slash {c : Char} (hc : c = '/' ∨ c = '\\') : isSeparator c = true := by
  rcases hc with rfl | rfl <;> decide

/-! ## Base names -/

namespace Identity

variable {i : Identity} {c : Char}

/-- The base name of an identity without split is one component. -/
theorem WellFormed.notMem_baseName (h : i.WellFormed) (hc : c = '/' ∨ c = '\\') :
    c ∉ i.baseName.toList := by
  rw [baseName_eq_intercalate]
  intro hmem
  rcases mem_toList_intercalate hmem with hglue | ⟨t, ht, hct⟩
  · rcases hc with rfl | rfl <;> exact absurd hglue (by decide)
  · exact (h.isWord_shownToken t ht).notMem (isSeparator_of_slash hc) hct

/-- In the base name of a split, slashes come from the split. -/
theorem WellFormed.mem_baseNameWithSplit_iff (h : i.WellFormed) (hc : c = '/' ∨ c = '\\')
    (split : String) : c ∈ (i.baseNameWithSplit split).toList ↔ c ∈ split.toList := by
  constructor
  · intro hmem
    rcases mem_toList_intercalate hmem with hglue | ⟨t, ht, hct⟩
    · rcases hc with rfl | rfl <;> exact absurd hglue (by decide)
    · rcases List.mem_append.mp ht with hflavor | hrest
      · exact absurd hct ((h.isWord_flavorName t hflavor).notMem (isSeparator_of_slash hc))
      · rcases List.mem_cons.mp hrest with rfl | hend
        · exact hct
        · exact absurd hct ((h.isWord_baseEnd t hend).notMem (isSeparator_of_slash hc))
  · intro hmem
    have hpiece : split ∈ i.baseTokensWithSplit split :=
      List.mem_append_right _ (List.mem_cons_self ..)
    exact mem_toList_intercalate_of_mem hpiece hmem

end Identity

/-! ## File names -/

theorem Signing.notMem_suffix (s : Signing) {c : Char} (hc : c = '/' ∨ c = '\\') :
    c ∉ s.suffix.toList := by
  have hplain : c ∉ ".apk".toList := by
    rcases hc with rfl | rfl <;> decide
  have hunsigned : c ∉ "-unsigned.apk".toList := by
    rcases hc with rfl | rfl <;> decide
  cases s with
  | alwaysUnsigned => exact hunsigned
  | readiness signed baseModule =>
      show c ∉ (if signed || !baseModule then ".apk" else "-unsigned.apk").toList
      split
      · exact hplain
      · exact hunsigned

namespace Resolver

variable {r : Resolver} {c : Char}

/-- Under either naming, slashes in the base name come from the split. -/
theorem mem_variantBaseName_iff (h : r.identity.WellFormed) (hfresh : r.settled = {})
    (hc : c = '/' ∨ c = '\\') :
    c ∈ r.variantBaseName.toList ↔ ∃ split ∈ r.identity.split, c ∈ split.toList := by
  cases hsplit : r.identity.split with
  | none =>
      have hbase : c ∉ r.baseName.toList := by
        simp only [baseName, hfresh]
        cases r.naming with
        | dimensionAware => exact h.notMem_baseName hc
        | splitOnly => exact List.not_mem_nil
      simp only [variantBaseName, hsplit]
      refine ⟨fun hmem => absurd hmem hbase, ?_⟩
      rintro ⟨_, hnone, -⟩
      cases hnone
  | some split =>
      have hbase : c ∈ (r.baseNameWithSplit split).toList ↔ c ∈ split.toList := by
        simp only [baseNameWithSplit]
        cases r.naming with
        | dimensionAware => exact h.mem_baseNameWithSplit_iff hc split
        | splitOnly => exact Iff.rfl
      simp only [variantBaseName, hsplit]
      rw [hbase]
      constructor
      · exact fun hmem => ⟨split, rfl, hmem⟩
      · rintro ⟨_, ⟨rfl⟩, hmem⟩
        exact hmem

/-- **SLASHES IN FILE NAMES** come from the start of the name or the split. -/
theorem mem_outputFileName_iff (h : r.identity.WellFormed) (hfresh : r.settled = {})
    (hc : c = '/' ∨ c = '\\') (archives : String) :
    c ∈ (r.outputFileName archives r.variantBaseName).toList
      ↔ c ∈ archives.toList ∨ ∃ split ∈ r.identity.split, c ∈ split.toList := by
  have hglue : c ∉ "-".toList := by
    rcases hc with rfl | rfl <;> decide
  have hend : c ∉ r.signing.suffix.toList := r.signing.notMem_suffix hc
  rw [← mem_variantBaseName_iff h hfresh hc]
  show c ∈ (archives ++ "-" ++ r.variantBaseName ++ r.signing.suffix).toList ↔ _
  simp only [String.toList_append, List.mem_append, hglue, hend, or_false]

/-- A package lies directly in its place exactly if the split has no slash in it. -/
theorem join_outputFileName_isDirectlyIn_iff (h : r.identity.WellFormed)
    (hfresh : r.settled = {}) {archives : String} (harchives : '/' ∉ archives.toList)
    (place : Location) :
    (place.join (r.outputFileName archives r.variantBaseName)).IsDirectlyIn place
      ↔ ∀ split ∈ r.identity.split, '/' ∉ split.toList := by
  have hname : (r.outputFileName archives r.variantBaseName).toList
      = archives.toList ++ '-' :: (r.variantBaseName ++ r.signing.suffix).toList := by
    show (archives ++ "-" ++ r.variantBaseName ++ r.signing.suffix).toList = _
    simp only [String.toList_append, List.append_assoc]
    rfl
  have hne : r.outputFileName archives r.variantBaseName ≠ "" := by
    intro hempty
    rw [hempty] at hname
    exact List.append_ne_nil_of_right_ne_nil _ (List.cons_ne_nil _ _) hname.symm
  have hrelative : Location.isAbsoluteText (r.outputFileName archives r.variantBaseName)
      = false := by
    show ((r.outputFileName archives r.variantBaseName).toList.head? == some '/') = false
    rw [hname, beq_eq_false_iff_ne]
    cases hstart : archives.toList with
    | nil => exact fun hhead => absurd (Option.some.inj hhead) (by decide)
    | cons c rest =>
        rintro ⟨rfl⟩
        exact harchives (hstart ▸ List.mem_cons_self ..)
  rw [place.join_isDirectlyIn_iff hne hrelative, mem_outputFileName_iff h hfresh (Or.inl rfl)]
  constructor
  · intro hnone split hsplit hslash
    exact hnone (Or.inr ⟨split, hsplit, hslash⟩)
  · rintro hnone (hslash | ⟨split, hsplit, hslash⟩)
    · exact harchives hslash
    · exact hnone split hsplit hslash

end Resolver

namespace Session

variable {p : Project} {given : List (String × RawValue)} {s : Session}

/-- **FILE NAMES OF PACKAGES**: under either naming, a slash or backslash in the file name of a
    declared variant stands in the start that the project gives or in the variant's split.  If
    there is none in the start, the package lies directly in its place exactly if there is no
    slash in the split. -/
theorem file_names_of_packages (h : configure p given = .ok s) :
    ∃ reports : List Report, s.reports = .ok reports ∧ reports.length = p.variants.length
      ∧ ∀ (n : Nat) (i : Identity) (report : Report), p.variants[n]? = some i →
          reports[n]? = some report →
          (∀ c : Char, c = '/' ∨ c = '\\' →
              (c ∈ report.outputFileName.toList
                ↔ c ∈ p.archivesName.toList ∨ ∃ split ∈ i.split, c ∈ split.toList))
            ∧ ('/' ∉ p.archivesName.toList →
                ((report.packages.join report.outputFileName).IsDirectlyIn report.packages
                  ↔ ∀ split ∈ i.split, '/' ∉ split.toList)) := by
  have hp : p.Acceptable given := (configure_eq_ok_iff.mp h).1
  refine ⟨_, reports_eq_ok h, List.length_map _, ?_⟩
  intro n i report hi hreport
  rw [List.getElem?_map, hi] at hreport
  rw [← Option.some.inj hreport]
  have hwell : (p.resolver s.snapshot i).identity.WellFormed :=
    hp.wellFormed i (List.mem_of_getElem? hi)
  refine ⟨?_, ?_⟩
  · intro c hc
    exact Resolver.mem_outputFileName_iff hwell rfl hc p.archivesName
  · intro harchives
    exact Resolver.join_outputFileName_isDirectlyIn_iff hwell rfl harchives _

/-- A project with a variant, a split of it and a test under another layout. -/
def densityProject : Project where
  naming := .splitOnly
  variants :=
    [{ buildType := some "debug" },
     { buildType := some "debug", split := some "hdpi" },
     { buildType := some "debug", component := .unitTest }]

theorem file_names_of_packages_densityProject :
    ∃ s, configure densityProject [] = .ok s ∧ '/' ∉ densityProject.archivesName.toList
      ∧ ∃ reports : List Report, s.reports = .ok reports
        ∧ ∃ report, reports[1]? = some report ∧ '/' ∉ report.outputFileName.toList
          ∧ (report.packages.join report.outputFileName).IsDirectlyIn report.packages := by
  have hopen : configure densityProject []
      = .ok ⟨densityProject, ⟨[]⟩, densityProject.resolvers ⟨[]⟩⟩ := by rfl
  have harchives : '/' ∉ densityProject.archivesName.toList := by decide
  obtain ⟨reports, hreports, hlength, hnames⟩ := file_names_of_packages hopen
  have hbound : 1 < reports.length := by
    rw [hlength]
    decide
  have hsecond : reports[1]? = some reports[1] := List.getElem?_eq_getElem hbound
  obtain ⟨hslashes, hplace⟩ := hnames 1 _ _ rfl hsecond
  have hsplit : ∀ split ∈ some "hdpi", '/' ∉ split.toList := by
    rintro _ ⟨rfl⟩
    decide
  refine ⟨_, hopen, harchives, reports, hreports, reports[1], hsecond, ?_,
    (hplace harchives).mpr hsplit⟩
  rw [hslashes '/' (Or.inl rfl)]
  rintro (hstart | ⟨split, hmem, hslash⟩)
  · exact harchives hstart
  · exact hsplit split hmem hslash

/-- A project with a split of two components. -/
def nestedSplitProject : Project where
  directory := ⟨"/p"⟩
  variants := [{ buildType := some "debug", split := some "xx/hdpi" }]

/-- Its package does not lie in its place. -/
theorem file_names_of_packages_nestedSplitProject :
    ∃ s, configure nestedSplitProject [] = .ok s
      ∧ '/' ∉ nestedSplitProject.archivesName.toList
      ∧ '\\' ∉ nestedSplitProject.archivesName.toList
      ∧ ∃ report, s.reports = .ok [report] ∧ '/' ∈ report.outputFileName.toList
        ∧ ¬ (report.packages.join report.outputFileName).IsDirectlyIn report.packages := by
  have hopen : configure nestedSplitProject []
      = .ok ⟨nestedSplitProject, ⟨[]⟩, nestedSplitProject.resolvers ⟨[]⟩⟩ := by rfl
  refine ⟨_, hopen, by decide, by decide, _, reports_eq_ok hopen, by decide, ?_⟩
  intro hplace
  have hsplit :=
    (Resolver.join_outputFileName_isDirectlyIn_iff (by decide) rfl (by decide) _).mp hplace
  exact hsplit "xx/hdpi" rfl (by decide)

end Session

end BuildLayout
