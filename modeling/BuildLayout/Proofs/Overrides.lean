import BuildLayout.Proofs.LastValues
import BuildLayout.Proofs.Reports

/-! # Which properties move packages

    The place of packages is decided by four properties: an explicit place, and the density,
    the instruction sets and the API level of one device.  A snapshot knows of each what the
    layers say last (`Snapshot.find?_eq_last?`, once for all families), so the wishes that it
    expresses can be read off the property values of the project and the run
    (`overrides_eq`), and with them the place that packages start from
    (`packageBase_resolver`).

    Everything else in a report is made from the variant and the project.  Hence two runs of one
    project that agree on the explicit place, and on whether the build is for one device, report
    the same on every variant (`packages_follow_wishes`). -/

namespace BuildLayout

/-! ## Values of a snapshot -/

namespace Snapshot

variable {layers : List Layer} {s : Snapshot}

/-- **A SNAPSHOT KNOWS WHAT WAS SAID LAST**: the value of a property is the last one that the
    layers give its key, as its family parses it. -/
theorem find?_eq_last? {α β : Type} (r : Setting.Reader α β) {parse : RawValue → Option β} {p : α}
    (hread : ∀ v x, (r.property p).read v = .ok (r.make p x) ↔ parse v = some x)
    (h : ofLayers layers = .ok s) :
    r.find? s.entries p
      = (Assignment.last? layers (r.property p).key).bind fun a => parse a.value := by
  refine Option.ext fun x => ?_
  rw [r.find?_eq_some_iff (pairwise_property h), Option.bind_eq_some_iff]
  constructor
  · rintro ⟨e, he, hset⟩
    obtain ⟨q, a, hlast, hentry, -, -⟩ := (mem_entries_iff h e).mp he
    -- The entry belongs to the property that it was read for.
    have hq : q = r.property p := by
      rw [← Property.property_of_read hentry, hset, r.property_make]
    subst hq
    rw [hset] at hentry
    exact ⟨a, hlast, (hread a.value x).mp hentry⟩
  · rintro ⟨a, hlast, hparse⟩
    have hentry := (hread a.value x).mpr hparse
    exact ⟨⟨r.make p x, a.value, a.source⟩,
      (mem_entries_iff h _).mpr ⟨r.property p, a, hlast, hentry, rfl, rfl⟩, rfl⟩

theorem number?_eq_last? (h : ofLayers layers = .ok s) (p : NumberProperty) :
    s.number? p
      = (Assignment.last? layers (Property.number p).key).bind fun a => a.value.number? :=
  find?_eq_last? Setting.numbers (fun _ _ => Property.read_number_eq_ok_iff) h

theorem text?_eq_last? (h : ofLayers layers = .ok s) (p : TextProperty) :
    s.text? p
      = (Assignment.last? layers (Property.text p).key).bind fun a => a.value.textual? :=
  find?_eq_last? Setting.texts (fun _ _ => Property.read_text_eq_ok_iff) h

/-- A text property that is set has the last value of its key, as a user would write it. -/
theorem text?_eq_shown (h : ofLayers layers = .ok s) (p : TextProperty) :
    s.text? p = (Assignment.last? layers (Property.text p).key).map fun a => a.value.shown := by
  rw [text?_eq_last? h]
  cases hlast : Assignment.last? layers (Property.text p).key with
  | none => rfl
  | some a =>
      obtain ⟨setting, hread⟩ := (exists_ofLayers_iff layers).mp ⟨s, h⟩ (.text p) a hlast
      show a.value.textual? = some a.value.shown
      cases hvalue : a.value with
      | boolean b =>
          rw [hvalue] at hread
          exact nomatch hread
      | integer n => rfl
      | float d => rfl
      | text t => rfl

/-- A number property has a value exactly if its key is given one. -/
theorem isSome_number? (h : ofLayers layers = .ok s) (p : NumberProperty) :
    (s.number? p).isSome = (Assignment.last? layers (Property.number p).key).isSome := by
  rw [number?_eq_last? h]
  cases hlast : Assignment.last? layers (Property.number p).key with
  | none => rfl
  | some a =>
      obtain ⟨setting, hread⟩ := (exists_ofLayers_iff layers).mp ⟨s, h⟩ (.number p) a hlast
      show a.value.number?.isSome = true
      cases hnumber : a.value.number? with
      | none =>
          simp only [Property.read, hnumber] at hread
          cases hread
      | some n => rfl

end Snapshot

/-! ## Wishes of a project and a run -/

namespace Project

variable {p : Project} {given given' : List (String × RawValue)} {snapshot : Snapshot}

/-- The explicit place of packages, as a user would write it. -/
def wishedPlace? (p : Project) (given : List (String × RawValue)) : Option String :=
  (p.lastValue? given "android.injected.apk.location").map RawValue.shown

/-- Whether something is said about the device that the build is for. -/
def namesDevice (p : Project) (given : List (String × RawValue)) : Bool :=
  ["android.injected.build.density", "android.injected.build.abi",
    "android.injected.build.api"].any fun name => (p.lastValue? given name).isSome

/-- The place that packages start from: the explicit one, which a relative path gives as seen
    from the project, or one below the build root. -/
def packageBase (p : Project) (given : List (String × RawValue)) : Location :=
  match p.wishedPlace? given with
  | some path => if Location.isAbsoluteText path then ⟨path⟩ else p.directory.join path
  | none =>
    if p.namesDevice given then p.buildRoot.joinAll ["intermediates", "apk"]
    else p.buildRoot.joinAll ["outputs", "apk"]

/-- **WISHES** are what the project and the run say last. -/
theorem overrides_eq (h : Snapshot.ofLayers (p.layers given) = .ok snapshot) :
    snapshot.overrides p.directory
      = ⟨(p.wishedPlace? given).map p.directory.join, p.namesDevice given⟩ := by
  have htext : ∀ q : TextProperty, snapshot.text? q
      = (p.lastValue? given (Property.text q).key).map RawValue.shown := by
    intro q
    rw [Snapshot.text?_eq_shown h, ← map_value_last?_layers, Option.map_map]
    rfl
  have hnumber : ∀ q : NumberProperty, (snapshot.number? q).isSome
      = (p.lastValue? given (Property.number q).key).isSome := by
    intro q
    rw [Snapshot.isSome_number? h, ← map_value_last?_layers, Option.isSome_map]
  simp only [Snapshot.overrides, htext, hnumber, Option.isSome_map, namesDevice, List.any_cons,
    List.any_nil, Bool.or_false, ← Bool.or_assoc]
  rfl

/-- The resolvers of a project start packages at the place that the wishes name. -/
theorem packageBase_resolver (h : Snapshot.ofLayers (p.layers given) = .ok snapshot)
    (i : Identity) : (p.resolver snapshot i).packageBase = p.packageBase given := by
  have hapk : IsSegment "apk" := by decide
  have hwishes : (p.resolver snapshot i).overrides
      = ⟨(p.wishedPlace? given).map p.directory.join, p.namesDevice given⟩ := overrides_eq h
  simp only [Resolver.packageBase, hwishes, Resolver.devicePackages, Resolver.regularPackages,
    Directory.location_category _ _ hapk, packageBase]
  cases p.wishedPlace? given with
  | none => rfl
  | some path =>
      show Location.join p.directory path = _
      by_cases habsolute : Location.isAbsoluteText path = true
      · rw [Location.join, if_pos habsolute]
        exact (if_pos habsolute).symm
      · exact (if_neg habsolute).symm

/-- The wishes are all that a resolver takes from the properties. -/
theorem resolver_eq_of_wishes {snapshot' : Snapshot}
    (h : Snapshot.ofLayers (p.layers given) = .ok snapshot)
    (h' : Snapshot.ofLayers (p.layers given') = .ok snapshot')
    (hplace : p.wishedPlace? given' = p.wishedPlace? given)
    (hdevice : p.namesDevice given' = p.namesDevice given) (i : Identity) :
    p.resolver snapshot' i = p.resolver snapshot i := by
  simp only [resolver, overrides_eq h, overrides_eq h', hplace, hdevice]

end Project

/-! ## Reports follow the wishes -/

namespace Session

variable {p : Project} {given : List (String × RawValue)} {s : Session}

/-- **PACKAGES FOLLOW THE WISHES**, and nothing else follows the properties: every declared
    variant of an open session has its packages where its segments lead from the place that
    the project and the run wish for, and a run with the same wishes has the same reports. -/
theorem packages_follow_wishes (h : configure p given = .ok s) :
    ∃ reports : List Report, s.reports = .ok reports ∧ reports.length = p.variants.length
      ∧ (∀ (n : Nat) (i : Identity) (report : Report), p.variants[n]? = some i →
          reports[n]? = some report →
          report.packages = (p.packageBase given).joinAll (i.segments p.naming))
      ∧ ∀ (given' : List (String × RawValue)) (t : Session), configure p given' = .ok t →
          p.wishedPlace? given' = p.wishedPlace? given →
          p.namesDevice given' = p.namesDevice given → t.reports = .ok reports := by
  obtain ⟨-, hlayers, -, -⟩ := configure_eq_ok_iff.mp h
  refine ⟨_, reports_eq_ok h, List.length_map _, ?_, ?_⟩
  · intro n i report hi hreport
    rw [List.getElem?_map, hi] at hreport
    rw [← Option.some.inj hreport]
    show (p.resolver s.snapshot i).packages = _
    rw [Resolver.packages_eq rfl, Project.packageBase_resolver hlayers]
    rfl
  · intro given' t ht hplace hdevice
    obtain ⟨-, hlayers', -, -⟩ := configure_eq_ok_iff.mp ht
    rw [reports_eq_ok ht]
    simp only [Project.resolver_eq_of_wishes hlayers hlayers' hplace hdevice]

/-- A project that is built for screens of one density. -/
def hdpiProject : Project where
  directory := ⟨"/p"⟩
  properties := [("android.injected.build.density", .text "hdpi"),
    ("android.injected.apk.location", .text "apks")]
  variants := [{ buildType := some "debug", flavors := [⟨"tier", "free"⟩] }, .bare]

/-- A run that asks for packages in a directory with a number for its name. -/
def numberedRun : List (String × RawValue) := [("android.injected.apk.location", .integer 42)]

/-- A run that says the same in words, and more about the device and the build. -/
def wordyRun : List (String × RawValue) :=
  [("android.threadPoolSize", .text "8"), ("android.injected.apk.location", .text "42"),
   ("android.injected.build.api", .text "30")]

theorem packages_follow_wishes_hdpiProject :
    ∃ s t, configure hdpiProject numberedRun = .ok s ∧ configure hdpiProject wordyRun = .ok t
      ∧ hdpiProject.wishedPlace? wordyRun = hdpiProject.wishedPlace? numberedRun
      ∧ hdpiProject.namesDevice wordyRun = hdpiProject.namesDevice numberedRun
      ∧ s.snapshot ≠ t.snapshot
      ∧ ∃ reports : List Report, s.reports = .ok reports ∧ t.reports = .ok reports
        ∧ ∃ report, reports[0]? = some report ∧ report.packages = ⟨"/p/42/free/debug"⟩ := by
  have hnumbered : configure hdpiProject numberedRun = .ok _ := rfl
  have hwordy : configure hdpiProject wordyRun = .ok _ := rfl
  have hplace : hdpiProject.wishedPlace? wordyRun = hdpiProject.wishedPlace? numberedRun := by
    decide
  have hdevice : hdpiProject.namesDevice wordyRun = hdpiProject.namesDevice numberedRun := by
    decide
  obtain ⟨reports, hreports, hlength, hpackages, hsame⟩ := packages_follow_wishes hnumbered
  have hbound : 0 < reports.length := by
    rw [hlength]
    decide
  have hfirst : reports[0]? = some reports[0] := List.getElem?_eq_getElem hbound
  refine ⟨_, _, hnumbered, hwordy, hplace, hdevice, by decide, reports, hreports,
    hsame _ _ hwordy hplace hdevice, reports[0], hfirst, ?_⟩
  rw [hpackages 0 _ _ rfl hfirst]
  decide

end Session

end BuildLayout
