import BuildLayout.Proofs.Acceptance
import BuildLayout.Variant.Query

/-! # Places of a variant

    Every place of a variant of its own is reached from the build root by a route of segments:
    a category, a segment for the kind of place, and what leads on from there, which holds the
    variant's own segments (`place?_eq_route`).  The kinds all differ and the way on gives the
    variant's segments back, so a route determines the question that it answers and these
    segments (`route_injective`).  Locations determine the routes that lead to them; hence
    places of two kinds never meet, and places of one kind meet for splits of one variant only
    (`own_places_apart`). -/

namespace BuildLayout

/-- The questions about a place that a variant has of its own.  A task's name is taken to be
    one segment. -/
inductive Query.AsksOwnPlace : Query → Prop where
  | buildConfigSources : AsksOwnPlace .buildConfigSources
  | renderscriptObjects : AsksOwnPlace .renderscriptObjects
  | coverageReports : AsksOwnPlace .coverageReports
  | manifests : AsksOwnPlace .manifests
  | packages : AsksOwnPlace .packages
  | generatedResources {task : String} (h : IsSegment task) :
      AsksOwnPlace (.generatedResources task)

/-- The full location in an answer about a place. -/
def Answer.location? : Answer → Option Location
  | .directory d => some d.location
  | .location l => some l
  | _ => none

namespace Resolver

variable {r t : Resolver} {q q' : Query}

/-- Where a question sends the asker, if it has an answer. -/
def place? (r : Resolver) (q : Query) : Option Location :=
  (r.answer q).toOption.bind Answer.location?

/-! ## Routes -/

/-- Whether the variant has its manifest among those of tests. -/
def hasTestManifest (r : Resolver) : Bool :=
  r.naming == .dimensionAware && r.identity.component.isTest

/-- The category that a place belongs to. -/
def category (r : Resolver) : Query → Category
  | .buildConfigSources | .generatedResources _ => .generated
  | .coverageReports => .reports
  | .packages => if r.overrides.forDevice then .intermediates else .outputs
  | _ => .intermediates

/-- The segment for the kind of a place. -/
def kind (r : Resolver) : Query → String
  | .buildConfigSources => "source"
  | .renderscriptObjects => "rs"
  | .coverageReports => "coverage"
  | .manifests => if r.hasTestManifest then "manifest" else "manifests"
  | .packages => "apk"
  | .generatedResources _ => "res"
  | _ => ""

/-- The segments behind the kind of a place. -/
def wayOn (r : Resolver) : Query → List String
  | .buildConfigSources => "buildConfig" :: r.segments
  | .renderscriptObjects => r.segments ++ ["obj"]
  | .manifests => if r.hasTestManifest then r.segments else "full" :: r.segments
  | .generatedResources task => task :: r.segments
  | _ => r.segments

/-- The segments from the build root to a place. -/
def route (r : Resolver) (q : Query) : List String :=
  (r.category q).folder :: r.kind q :: r.wayOn q

/-- Routes are made of segments if the variant's own are. -/
theorem isSegment_route (hr : ∀ s ∈ r.segments, IsSegment s) (hq : q.AsksOwnPlace) :
    ∀ s ∈ r.route q, IsSegment s := by
  have fixed : ∀ s ∈ ["source", "buildConfig", "rs", "obj", "coverage", "manifest", "manifests",
      "full", "apk", "res"], IsSegment s := by decide
  have hkind : IsSegment (r.kind q) := by
    cases hq with
    | manifests =>
        show IsSegment (if r.hasTestManifest then "manifest" else "manifests")
        split
        · exact fixed _ (by simp)
        · exact fixed _ (by simp)
    | _ => exact fixed _ (by simp [kind])
  have hway : ∀ s ∈ r.wayOn q, IsSegment s := by
    cases hq with
    | buildConfigSources => exact List.forall_mem_cons.mpr ⟨fixed _ (by simp), hr⟩
    | renderscriptObjects =>
        refine List.forall_mem_append.mpr ⟨hr, ?_⟩
        exact List.forall_mem_singleton.mpr (fixed _ (by simp))
    | coverageReports => exact hr
    | manifests =>
        show ∀ s ∈ (if r.hasTestManifest then r.segments else "full" :: r.segments), _
        split
        · exact hr
        · exact List.forall_mem_cons.mpr ⟨fixed _ (by simp), hr⟩
    | packages => exact hr
    | generatedResources htask => exact List.forall_mem_cons.mpr ⟨htask, hr⟩
  refine List.forall_mem_cons.mpr ⟨(r.category q).isSegment_folder, ?_⟩
  exact List.forall_mem_cons.mpr ⟨hkind, hway⟩

/-- **ONE ROUTE, ONE QUESTION**: a route determines the question that it answers and the
    segments of the variant. -/
theorem route_injective (hq : q.AsksOwnPlace) (hq' : q'.AsksOwnPlace)
    (h : r.route q = t.route q') : q = q' ∧ r.segments = t.segments := by
  obtain ⟨-, h⟩ := List.cons.inj h
  obtain ⟨hkind, hway⟩ := List.cons.inj h
  cases hq <;> cases hq'
  case buildConfigSources.buildConfigSources => exact ⟨rfl, (List.cons.inj hway).2⟩
  case renderscriptObjects.renderscriptObjects => exact ⟨rfl, List.append_cancel_right hway⟩
  case coverageReports.coverageReports => exact ⟨rfl, hway⟩
  case manifests.manifests =>
    -- The kind tells whether it is a test's manifest, and that decides what stands behind it.
    have htests : r.hasTestManifest = t.hasTestManifest := by
      simp only [kind] at hkind
      cases hrt : r.hasTestManifest <;> cases htt : t.hasTestManifest <;> simp_all
    refine ⟨rfl, ?_⟩
    simp only [wayOn, htests] at hway
    split at hway
    · exact hway
    · exact (List.cons.inj hway).2
  case packages.packages => exact ⟨rfl, hway⟩
  case generatedResources.generatedResources =>
    obtain ⟨htask, hsegments⟩ := List.cons.inj hway
    exact ⟨congrArg Query.generatedResources htask, hsegments⟩
  -- Places of two kinds: the segments for the kinds differ.
  all_goals
    simp only [kind, String.reduceEq] at hkind
  all_goals
    split at hkind <;> exact absurd hkind (by decide)

/-! ## Places lie at the end of their routes -/

/-- The directory that a route names lies at its end. -/
theorem location_route (hr : ∀ s ∈ r.segments, IsSegment s) (hq : q.AsksOwnPlace) :
    (Directory.ofPath r.root (r.route q)).location = r.root.joinAll (r.route q) :=
  Directory.location_ofPath r.root (List.cons_ne_nil _ _) (isSegment_route hr hq)

/-- An answer that names the directory at the end of the route. -/
theorem place?_of_directory (hr : ∀ s ∈ r.segments, IsSegment s) (hq : q.AsksOwnPlace)
    {found : Except VariantError Directory} (hanswer : r.answer q = found.map Answer.directory)
    (hfound : found = .ok (.ofPath r.root (r.route q))) :
    r.place? q = some (r.root.joinAll (r.route q)) := by
  show (r.answer q).toOption.bind Answer.location? = _
  rw [hanswer, hfound]
  exact congrArg some (location_route hr hq)

/-- As long as nothing is settled, packages go below the place that the policies give them. -/
theorem packages_eq (hfresh : r.settled = {}) :
    r.packages = r.packageBase.joinAll r.segments := by
  show r.settled.packages.getD (r.packageBase.joinAll r.segments) = _
  rw [hfresh]
  rfl

/-- Without an explicit place, packages go to the regular one or to the one for one device. -/
theorem packageBase_eq (hexplicit : r.overrides.explicit = none) :
    r.packageBase = r.root.joinAll [(r.category .packages).folder, "apk"] := by
  have hapk : IsSegment "apk" := by decide
  simp only [packageBase, devicePackages, regularPackages, hexplicit, category,
    Directory.location_category _ _ hapk]
  split
  · rfl
  · rfl

/-- A variant that has a manifest has it at the end of the route: a test that is packaged has
    its own kind of place, every other variant the common one. -/
theorem manifests_eq_ok (hr : ∀ s ∈ r.segments, IsSegment s) (h : r.lacksManifest = false) :
    r.manifests = .ok (.ofPath r.root (r.route .manifests)) := by
  have htests : (r.naming = .dimensionAware ∧ r.identity.component.isTest = true)
      ↔ r.hasTestManifest = true := by
    simp only [hasTestManifest, Bool.and_eq_true, beq_iff_eq]
  simp only [manifests, h]
  rw [if_neg Bool.false_ne_true]
  simp only [route, kind, wayOn]
  by_cases htest : r.hasTestManifest = true
  · rw [if_pos (htests.mpr htest), if_pos htest, if_pos htest]
    exact Directory.under_front_path r.root .intermediates ["manifest"] (by decide) hr
  · rw [if_neg (fun h => htest (htests.mp h)), if_neg htest, if_neg htest]
    exact Directory.under_front_path r.root .intermediates ["manifests", "full"] (by decide) hr

/-- **PLACES AND ROUTES**: unless an explicit place is given for packages, a question about a
    place of the variant's own leads down its route, the question for manifests only if the
    variant has some. -/
theorem place?_eq_route (hr : ∀ s ∈ r.segments, IsSegment s) (hfresh : r.settled = {})
    (hexplicit : r.overrides.explicit = none) (hq : q.AsksOwnPlace)
    (hmanifests : q = .manifests → r.lacksManifest = false) :
    r.place? q = some (r.root.joinAll (r.route q)) := by
  cases hq with
  | buildConfigSources =>
      refine place?_of_directory hr .buildConfigSources rfl ?_
      exact Directory.under_front_path r.root .generated ["source", "buildConfig"] (by decide) hr
  | renderscriptObjects =>
      refine place?_of_directory hr .renderscriptObjects rfl ?_
      refine Directory.under_segments r.root .intermediates ?_
      exact (List.forall_mem_cons.mp (isSegment_route hr .renderscriptObjects)).2
  | coverageReports =>
      refine place?_of_directory hr .coverageReports rfl ?_
      exact Directory.under_front_path r.root .reports ["coverage"] (by decide) hr
  | manifests =>
      exact place?_of_directory hr .manifests rfl (manifests_eq_ok hr (hmanifests rfl))
  | packages =>
      have hpackages : r.packages = r.root.joinAll (r.route .packages) := by
        rw [packages_eq hfresh, packageBase_eq hexplicit, ← Location.joinAll_append]
        rfl
      exact congrArg some hpackages
  | generatedResources htask =>
      refine place?_of_directory hr (.generatedResources htask) rfl ?_
      refine Directory.under_segments r.root .generated ?_
      exact (List.forall_mem_cons.mp (isSegment_route hr (.generatedResources htask))).2

/-- A test that is not packaged has no manifest. -/
theorem place?_manifests_eq_none (h : r.lacksManifest = true) : r.place? .manifests = none := by
  show (r.manifests.map Answer.directory).toOption.bind Answer.location? = none
  simp only [manifests, h]
  rfl

/-- Where directories follow the identity, unit tests are the variants without manifest. -/
theorem lacksManifest_iff (haware : r.naming = .dimensionAware) :
    r.lacksManifest = true ↔ r.identity.component = .unitTest := by
  show (r.naming == .dimensionAware && r.identity.component.isTest
    && !r.identity.component.isPackaged) = true ↔ _
  rw [haware]
  cases r.identity.component with
  | unitTest => exact ⟨fun _ => rfl, fun _ => rfl⟩
  | main => exact ⟨fun h => (nomatch h), fun h => (nomatch h)⟩
  | androidTest => exact ⟨fun h => (nomatch h), fun h => (nomatch h)⟩
  | testFixtures => exact ⟨fun h => (nomatch h), fun h => (nomatch h)⟩
  | nested lead tail => exact ⟨fun h => (nomatch h), fun h => (nomatch h)⟩

/-- The place for the manifests of a unit test is the only one that is missing. -/
theorem place?_eq_none_iff (hr : ∀ s ∈ r.segments, IsSegment s) (hfresh : r.settled = {})
    (hexplicit : r.overrides.explicit = none) (haware : r.naming = .dimensionAware)
    (hq : q.AsksOwnPlace) :
    r.place? q = none ↔ q = .manifests ∧ r.identity.component = .unitTest := by
  rw [← lacksManifest_iff haware]
  constructor
  · intro hnone
    by_contra hfound
    have hmanifests : q = .manifests → r.lacksManifest = false :=
      fun hq => Bool.eq_false_iff.mpr fun hlacks => hfound ⟨hq, hlacks⟩
    rw [place?_eq_route hr hfresh hexplicit hq hmanifests] at hnone
    exact nomatch hnone
  · rintro ⟨rfl, hlacks⟩
    exact place?_manifests_eq_none hlacks

/-- A place of the variant's own, where there is one, lies at the end of its route. -/
theorem eq_route_of_place? (hr : ∀ s ∈ r.segments, IsSegment s) (hfresh : r.settled = {})
    (hexplicit : r.overrides.explicit = none) (hq : q.AsksOwnPlace) {l : Location}
    (h : r.place? q = some l) : l = r.root.joinAll (r.route q) := by
  have hmanifests : q = .manifests → r.lacksManifest = false := by
    rintro rfl
    refine Bool.eq_false_iff.mpr fun hlacks => ?_
    rw [place?_manifests_eq_none hlacks] at h
    exact nomatch h
  rw [place?_eq_route hr hfresh hexplicit hq hmanifests] at h
  exact (Option.some.inj h).symm

end Resolver

/-! ## Variants of one session -/

namespace Session

variable {p : Project} {given : List (String × RawValue)} {s : Session}

/-- **PLACES APART**: in an open session whose directories follow the identity, and without an
    explicit place for packages, every variant has each of its own places, a unit test all but
    the one for manifests, and two places are the same location only if they answer one
    question about splits of one variant. -/
theorem own_places_apart (h : configure p given = .ok s) (haware : p.naming = .dimensionAware)
    (hexplicit : s.snapshot.text? .apkLocation = none) :
    (∀ r ∈ s.resolvers, ∀ q : Query, q.AsksOwnPlace →
        (r.place? q = none ↔ q = .manifests ∧ r.identity.component = .unitTest))
      ∧ ∀ r ∈ s.resolvers, ∀ t ∈ s.resolvers, ∀ q q' : Query,
          q.AsksOwnPlace → q'.AsksOwnPlace → ∀ l, r.place? q = some l → t.place? q' = some l →
            q = q' ∧ r.identity.SameVariant t.identity := by
  have hp : p.Acceptable given := (configure_eq_ok_iff.mp h).1
  have hbase : (s.snapshot.overrides p.directory).explicit = none :=
    Option.map_eq_none_iff.mpr hexplicit
  refine ⟨?_, ?_⟩
  · intro r hr q hq
    obtain ⟨i, -, hwell, rfl⟩ := exists_variant_of_mem h hr
    have hsegments := p.isSegment_resolver s.snapshot hwell
    exact Resolver.place?_eq_none_iff hsegments rfl hbase haware hq
  · intro r hr t ht q q' hq hq' l hl hl'
    obtain ⟨i, hi, hiwell, rfl⟩ := exists_variant_of_mem h hr
    obtain ⟨j, hj, hjwell, rfl⟩ := exists_variant_of_mem h ht
    have hisegments := p.isSegment_resolver s.snapshot hiwell
    have hjsegments := p.isSegment_resolver s.snapshot hjwell
    -- Both routes start at the one build root, so they are the same.
    have hroutes : (p.resolver s.snapshot i).route q = (p.resolver s.snapshot j).route q' := by
      refine Location.joinAll_injective p.buildRoot (Resolver.isSegment_route hisegments hq)
        (Resolver.isSegment_route hjsegments hq') ?_
      have hiroute := Resolver.eq_route_of_place? hisegments rfl hbase hq hl
      have hjroute := Resolver.eq_route_of_place? hjsegments rfl hbase hq' hl'
      exact hiroute.symm.trans hjroute
    obtain ⟨hquestion, hsegments⟩ := Resolver.route_injective hq hq' hroutes
    refine ⟨hquestion, hp.apart haware i hi j hj ?_⟩
    exact (Identity.dirName_eq_iff hiwell hjwell p.naming).mpr hsegments

/-- A project whose two flavors have unit tests, and one of them a split. -/
def tieredProject : Project where
  variants :=
    [{ buildType := some "debug", flavors := [⟨"tier", "free"⟩] },
     { buildType := some "debug", flavors := [⟨"tier", "free"⟩], component := .unitTest },
     { buildType := some "debug", flavors := [⟨"tier", "paid"⟩] },
     { buildType := some "debug", flavors := [⟨"tier", "paid"⟩], split := some "hdpi" }]

theorem own_places_apart_tieredProject :
    ∃ s, configure tieredProject [] = .ok s ∧ tieredProject.naming = .dimensionAware
      ∧ s.snapshot.text? .apkLocation = none
      ∧ ∀ r ∈ s.resolvers, ∀ t ∈ s.resolvers, ∀ q q' : Query,
          q.AsksOwnPlace → q'.AsksOwnPlace → ∀ l, r.place? q = some l → t.place? q' = some l →
            q = q' ∧ r.identity.SameVariant t.identity := by
  have hopen : configure tieredProject []
      = .ok ⟨tieredProject, ⟨[]⟩, tieredProject.resolvers ⟨[]⟩⟩ := by rfl
  exact ⟨_, hopen, rfl, rfl, (own_places_apart hopen rfl rfl).2⟩

end Session

end BuildLayout
