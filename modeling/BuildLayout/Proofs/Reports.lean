import BuildLayout.Proofs.Names
import BuildLayout.Proofs.Places

/-! # Reports of a session

    A variant of an open session always has its report, since its segments can be walked down
    (`report_eq_ok`), and so the session has one report for each declared variant
    (`reports_eq_ok`).

    Two variants write the same package exactly if they share the place of packages and the
    file name.  The place determines the variant up to its split, and the file name the split,
    but for the identity without any names: it goes by `main`, as its split of that name does
    (`packages_meet_iff`). -/

namespace BuildLayout

/-- Where every part has its outcome, the whole has them all. -/
theorem mapM_eq_ok {α β ε : Type} {f : α → Except ε β} {g : α → β} {xs : List α}
    (h : ∀ x ∈ xs, f x = .ok (g x)) : xs.mapM f = .ok (xs.map g) := by
  induction xs with
  | nil => rfl
  | cons x rest ih =>
      rw [List.mapM_cons, h x (List.mem_cons_self ..),
        ih fun y hy => h y (List.mem_cons_of_mem _ hy)]
      rfl

/-! ## The report on one variant -/

namespace Resolver

variable {r t : Resolver}

/-- What is reported on a variant whose segments can be walked down. -/
def summary (r : Resolver) (archives : String) : Report where
  fullName := r.variantName
  baseName := r.variantBaseName
  dirName := r.dirName
  outputFileName := r.outputFileName archives r.variantBaseName
  packages := r.packages
  manifests := r.manifests.toOption.map Directory.location
  buildConfigSources := r.root.joinAll (r.route .buildConfigSources)
  coverageReports := r.root.joinAll (r.route .coverageReports)

/-- **A REPORT ON EVERY VARIANT** whose segments can be walked down. -/
theorem report_eq_ok (hr : ∀ s ∈ r.segments, IsSegment s) (archives : String) :
    r.report archives = .ok (r.summary archives) := by
  have hsources : r.tree.buildConfigSources = .ok (.ofPath r.root (r.route .buildConfigSources)) :=
    Directory.under_front_path r.root .generated ["source", "buildConfig"] (by decide) hr
  have hcoverage : r.tree.coverageReports = .ok (.ofPath r.root (r.route .coverageReports)) :=
    Directory.under_front_path r.root .reports ["coverage"] (by decide) hr
  simp only [report, summary]
  rw [hsources, hcoverage, ← location_route hr .buildConfigSources,
    ← location_route hr .coverageReports]
  rfl

/-- Below one place, packages go to one location exactly if the segments are the same. -/
theorem packages_eq_iff (hr : ∀ s ∈ r.segments, IsSegment s) (ht : ∀ s ∈ t.segments, IsSegment s)
    (hrfresh : r.settled = {}) (htfresh : t.settled = {}) (hbase : r.packageBase = t.packageBase) :
    r.packages = t.packages ↔ r.segments = t.segments := by
  rw [packages_eq hrfresh, packages_eq htfresh, hbase]
  constructor
  · exact Location.joinAll_injective t.packageBase hr ht
  · intro h
    rw [h]

/-- The file name of a package determines the base name. -/
theorem outputFileName_eq_iff (hsigning : r.signing = t.signing) {archives base base' : String} :
    r.outputFileName archives base = t.outputFileName archives base' ↔ base = base' := by
  show archives ++ "-" ++ base ++ r.signing.suffix
    = archives ++ "-" ++ base' ++ t.signing.suffix ↔ _
  rw [hsigning, String.append_left_inj, String.append_right_inj]

end Resolver

namespace Project

variable {i j : Identity}

/-- Two variants of a project share the place of packages exactly if they share the segments. -/
theorem packages_resolver_eq_iff (p : Project) (s : Snapshot) (hi : i.WellFormed)
    (hj : j.WellFormed) :
    (p.resolver s i).packages = (p.resolver s j).packages
      ↔ i.segments p.naming = j.segments p.naming :=
  Resolver.packages_eq_iff (p.isSegment_resolver s hi) (p.isSegment_resolver s hj) rfl rfl rfl

/-- Where names follow the identity, two variants of a project share the file name of the
    package exactly if they share the base name, the split in it. -/
theorem outputFileName_summary_eq_iff (p : Project) (s : Snapshot) (i j : Identity)
    (haware : p.naming = .dimensionAware) :
    ((p.resolver s i).summary p.archivesName).outputFileName
        = ((p.resolver s j).summary p.archivesName).outputFileName
      ↔ i.fileBase = j.fileBase := by
  simp only [Resolver.summary]
  rw [Resolver.variantBaseName_eq_fileBase haware rfl,
    Resolver.variantBaseName_eq_fileBase haware rfl]
  exact Resolver.outputFileName_eq_iff rfl

end Project

/-! ## The reports of a session -/

namespace Session

variable {p : Project} {given : List (String × RawValue)} {s : Session}

/-- Every variant of an open session has its report. -/
theorem report_of_mem (h : configure p given = .ok s) {r : Resolver} (hr : r ∈ s.resolvers) :
    s.report r = .ok (r.summary p.archivesName) := by
  obtain ⟨-, -, hproject, -⟩ := configure_eq_ok_iff.mp h
  obtain ⟨i, -, hwell, rfl⟩ := exists_variant_of_mem h hr
  show Resolver.report _ s.project.archivesName = _
  rw [hproject]
  exact Resolver.report_eq_ok (p.isSegment_resolver s.snapshot hwell) p.archivesName

/-- **A REPORT ON EVERY DECLARED VARIANT**, in declared order. -/
theorem reports_eq_ok (h : configure p given = .ok s) :
    s.reports
      = .ok (p.variants.map fun i => (p.resolver s.snapshot i).summary p.archivesName) := by
  obtain ⟨-, -, -, hresolvers⟩ := configure_eq_ok_iff.mp h
  show s.resolvers.mapM s.report = _
  rw [mapM_eq_ok fun r hr => report_of_mem h hr, hresolvers, List.map_map]
  rfl

/-- **PACKAGES MEET IN ONE PAIR ONLY**: in an open session whose directories follow the
    identity, the packages of two declared variants have one place and one file name exactly
    if one of them is the identity without any names and the other its split `main`. -/
theorem packages_meet_iff (h : configure p given = .ok s) (haware : p.naming = .dimensionAware) :
    ∃ reports : List Report, s.reports = .ok reports ∧ reports.length = p.variants.length
      ∧ ∀ (m n : Nat) (i j : Identity) (a b : Report), m ≠ n →
          p.variants[m]? = some i → p.variants[n]? = some j →
          reports[m]? = some a → reports[n]? = some b →
          ((a.packages = b.packages ∧ a.outputFileName = b.outputFileName)
            ↔ (i = .bare ∧ j = .bareMain) ∨ (i = .bareMain ∧ j = .bare)) := by
  have hp : p.Acceptable given := (configure_eq_ok_iff.mp h).1
  refine ⟨_, reports_eq_ok h, List.length_map _, ?_⟩
  intro m n i j a b hmn hi hj ha hb
  rw [List.getElem?_map, hi] at ha
  rw [List.getElem?_map, hj] at hb
  rw [← Option.some.inj ha, ← Option.some.inj hb]
  have himem : i ∈ p.variants := List.mem_of_getElem? hi
  have hjmem : j ∈ p.variants := List.mem_of_getElem? hj
  have hne : i ≠ j := by
    rintro rfl
    obtain ⟨hbound, -⟩ := List.getElem?_eq_some_iff.mp hi
    exact hmn ((List.getElem?_inj hbound hp.distinct).mp (hi.trans hj.symm))
  have hplace := p.packages_resolver_eq_iff s.snapshot (hp.wellFormed i himem)
    (hp.wellFormed j hjmem)
  have hname := p.outputFileName_summary_eq_iff s.snapshot i j haware
  rw [hname]
  show (p.resolver s.snapshot i).packages = (p.resolver s.snapshot j).packages ∧ _ ↔ _
  rw [hplace]
  constructor
  · rintro ⟨hsegments, hbase⟩
    have hdir : i.dirName p.naming = j.dirName p.naming :=
      congrArg "/".intercalate hsegments
    exact (Identity.fileBase_eq_iff (hp.apart haware i himem j hjmem hdir) hne).mp hbase
  · intro hpair
    have hsame : i.SameVariant j := by
      rcases hpair with ⟨rfl, rfl⟩ | ⟨rfl, rfl⟩
      · rfl
      · rfl
    exact ⟨hsame.segments_eq p.naming, (Identity.fileBase_eq_iff hsame hne).mpr hpair⟩

/-- A project with an unsplit variant, one of its splits and another build type. -/
def splitProject : Project where
  variants :=
    [{ buildType := some "debug" },
     { buildType := some "debug", split := some "hdpi" },
     { buildType := some "release" }]

theorem packages_meet_iff_splitProject :
    ∃ s, configure splitProject [] = .ok s ∧ splitProject.naming = .dimensionAware
      ∧ ∃ reports : List Report, s.reports = .ok reports ∧ reports.length = 3
        ∧ ∀ (m n : Nat) (i j : Identity) (a b : Report), m ≠ n →
            splitProject.variants[m]? = some i → splitProject.variants[n]? = some j →
            reports[m]? = some a → reports[n]? = some b →
            ((a.packages = b.packages ∧ a.outputFileName = b.outputFileName)
              ↔ (i = .bare ∧ j = .bareMain) ∨ (i = .bareMain ∧ j = .bare)) := by
  have hopen : configure splitProject []
      = .ok ⟨splitProject, ⟨[]⟩, splitProject.resolvers ⟨[]⟩⟩ := by rfl
  exact ⟨_, hopen, rfl, packages_meet_iff hopen rfl⟩

/-- A project that declares the identity without any names and its split `main`. -/
def bareProject : Project where
  variants := [.bare, .bareMain]

/-- Its two variants overwrite each other's package. -/
theorem packages_meet_bareProject :
    ∃ s, configure bareProject [] = .ok s ∧ bareProject.naming = .dimensionAware
      ∧ ∃ a b, s.reports = .ok [a, b] ∧ a.packages = b.packages
        ∧ a.outputFileName = b.outputFileName := by
  have hopen : configure bareProject []
      = .ok ⟨bareProject, ⟨[]⟩, bareProject.resolvers ⟨[]⟩⟩ := by rfl
  exact ⟨_, hopen, rfl, _, _, reports_eq_ok hopen, by rfl, by rfl⟩

end Session

end BuildLayout
