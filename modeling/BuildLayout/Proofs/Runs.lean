import BuildLayout.Proofs.Cells

/-! # What a run keeps to

    Policies can be changed between questions, so the answers of a run might contradict each
    other.  They do not: a part that was answered is answered the same ever after, and every
    directory of the variant is built from the segments of one naming policy, the one in force
    when the directories were first needed (`run_keeps_to_answers`).  It governs the run even
    if the question that needed them failed.  In the same way the overrides in force when
    packages were first asked for decide what those segments are appended to there.

    `inForce` finds the setup at the first question that needs a part.  Up to that question the
    part is not settled and follows the policies, behind it nothing touches the part any more
    (`Settles`); by induction on the steps, the setup found there governs the run
    (`Settles.given_past`).  The tree and the place of packages are two such parts.

    As long as no policy changes, that a resolver keeps anything cannot be noticed at all:
    each question is answered as a new resolver would (`run_asks_as_new`). -/

namespace BuildLayout

/-- The answer has the directory of the variant in it as the segments of the tree make it, if the
    question is about that directory: packages lie where the segments lead from the base, and a
    question about a place with more than one kind leaves the kind open.  Only tests that are not
    packaged may go without a place for manifests. -/
def Query.BuiltFrom (i : Identity) (t : Tree) (base : Location) :
    Query → Except VariantError Answer → Prop
  | .segments, x => x = .ok (.names t.segments)
  | .dirName, x => x = .ok (.name ("/".intercalate t.segments))
  | .buildConfigSources, x =>
    x = (Directory.under t.root .generated
      ["source", "buildConfig", "/".intercalate t.segments]).map .directory
  | .renderscriptObjects, x =>
    x = (Directory.under t.root .intermediates ("rs" :: t.segments ++ ["obj"])).map .directory
  | .coverageReports, x =>
    x = (Directory.under t.root .reports ["coverage", "/".intercalate t.segments]).map .directory
  | .packages, x => x = .ok (.location (base.joinAll t.segments))
  | .generatedResources task, x =>
    x = (Directory.under t.root .generated ("res" :: task :: t.segments)).map .directory
  | .manifests, x =>
    x = (Directory.under t.root .intermediates
        ["manifest", "/".intercalate t.segments]).map .directory
      ∨ x = (Directory.under t.root .intermediates
        ["manifests", "full", "/".intercalate t.segments]).map .directory
      ∨ (i.component.isTest = true ∧ i.component.isPackaged = false
        ∧ x = .error (.noManifest i.component.name))
  | _, _ => True

/-- The place that packages of all variants start from: the explicit one, or else a directory
    below the build root, one of its own for builds that are made for one device. -/
def LocationOverrides.packageBase (o : LocationOverrides) (root : Location) : Location :=
  o.explicit.getD (root.joinAll [if o.forDevice then "intermediates" else "outputs", "apk"])

namespace Resolver

variable {r : Resolver} {q : Query}

theorem packageBase_eq_overrides (r : Resolver) :
    r.packageBase = r.overrides.packageBase r.root := by
  have hapk : IsSegment "apk" := by decide
  simp only [packageBase, devicePackages, regularPackages, LocationOverrides.packageBase,
    Directory.location_category _ _ hapk]
  cases r.overrides.explicit with
  | some l => rfl
  | none => cases r.overrides.forDevice <;> rfl

/-! ## One tree for all answers -/

theorem component_of_lacksManifest (h : r.lacksManifest = true) :
    r.identity.component.isTest = true ∧ r.identity.component.isPackaged = false := by
  simp only [lacksManifest, Bool.and_eq_true, Bool.not_eq_true'] at h
  exact ⟨h.1.2, h.2⟩

/-- Without a manifest there is an error that says so. -/
theorem answer_manifests_of_lacksManifest (h : r.lacksManifest = true) :
    r.answer .manifests = .error (.noManifest r.identity.component.name) := by
  simp only [answer, manifests, if_pos h]
  rfl

/-- Answers are built from the tree that the resolver has at the time, and from the base that
    its packages have in that tree. -/
theorem builtFrom_tree {base : Location} (q : Query)
    (hbase : q = .packages → r.packages = r.tree.below base) :
    q.BuiltFrom r.identity r.tree base (r.answer q) := by
  cases q with
  | segments => rfl
  | dirName => rfl
  | buildConfigSources => rfl
  | renderscriptObjects => rfl
  | coverageReports => rfl
  | generatedResources task => rfl
  | packages => exact congrArg (fun l => Except.ok (Answer.location l)) (hbase rfl)
  | manifests =>
      by_cases hlacks : r.lacksManifest = true
      · obtain ⟨htest, hpackaged⟩ := component_of_lacksManifest hlacks
        exact Or.inr (Or.inr ⟨htest, hpackaged, answer_manifests_of_lacksManifest hlacks⟩)
      · have hanswer : r.answer .manifests = r.manifests.map .directory := rfl
        rw [hanswer, manifests, if_neg hlacks]
        by_cases htest : r.naming = .dimensionAware ∧ r.identity.component.isTest = true
        · rw [if_pos htest]
          exact Or.inl rfl
        · rw [if_neg htest]
          exact Or.inr (Or.inl rfl)
  | _ => trivial

/-- An answer that needs no segments has no directory of the variant in it. -/
theorem builtFrom_of_not_needsSegments (h : r.needsSegments q = false) (t : Tree)
    (base : Location) : q.BuiltFrom r.identity t base (r.answer q) := by
  cases q with
  | segments => exact nomatch h
  | dirName => exact nomatch h
  | buildConfigSources => exact nomatch h
  | renderscriptObjects => exact nomatch h
  | coverageReports => exact nomatch h
  | generatedResources task => exact nomatch h
  | packages => exact nomatch h
  | manifests =>
      have hlacks : r.lacksManifest = true := by
        have hneeds : (!r.lacksManifest) = false := h
        simpa using hneeds
      obtain ⟨htest, hpackaged⟩ := component_of_lacksManifest hlacks
      exact Or.inr (Or.inr ⟨htest, hpackaged, answer_manifests_of_lacksManifest hlacks⟩)
  | _ => trivial

/-- The first question that needs the segments decides the tree for the rest of the run. -/
theorem tree_past_after (h : r.needsSegments q = true) (steps : List Step) :
    ((r.after q).past steps).tree = r.tree := by
  have hsettled : (r.after q).after .segments = r.after q := by
    refine after_eq_self_iff.mpr ⟨?_, ?_, ?_⟩
    · intro _
      rw [segments_after]
      exact if_pos h
    · intro hbase
      exact nomatch hbase
    · intro hpackages
      exact nomatch hpackages
  have hsegments : ((r.after q).past steps).segments = (r.after q).segments :=
    Except.ok.inj (part_past (p := .segments) hsettled steps)
  simp only [tree, root_past, hsegments, segments_after]
  rfl

/-- The first question for packages decides where they go for the rest of the run. -/
theorem packages_past_after (r : Resolver) (steps : List Step) :
    ((r.after .packages).past steps).packages = r.packages := by
  have hpackages : ((r.after .packages).past steps).packages = (r.after .packages).packages :=
    Except.ok.inj (part_past (p := .packages) (after_after_self r .packages) steps)
  rw [hpackages, packages_after]

end Resolver

namespace Setup

/-! ## What governs a run -/

/-- The setup in force at the first question of a run that needs something; where no question
    does, the one at the end. -/
def inForce (needs : Setup → Query → Bool) (u : Setup) : List Step → Setup
  | [] => u
  | .ask q :: rest => if needs u q then u else u.inForce needs rest
  | .set c :: rest => (u.set c).inForce needs rest

/-- The naming policy in force when the directories of the variant are first needed. -/
def governing (u : Setup) (steps : List Step) : Naming :=
  (u.inForce (fun u q => u.resolver.needsSegments q) steps).naming

/-- The place that packages of all variants start from under the overrides in force at the first
    question for packages. -/
def governingBase (u : Setup) (steps : List Step) : Location :=
  (u.inForce (fun _ q => q = .packages) steps).overrides.packageBase u.root

variable {needs : Setup → Query → Bool} {u : Setup} {q : Query} {rest : List Step}

theorem inForce_ask_of_needs (h : needs u q = true) :
    u.inForce needs (.ask q :: rest) = u :=
  if_pos h

theorem inForce_ask_of_not_needs (h : ¬ needs u q = true) :
    u.inForce needs (.ask q :: rest) = u.inForce needs rest :=
  if_neg h

theorem resolver_set (u : Setup) (settled : Settled) (c : Policy) :
    (u.set c).resolver settled = (u.resolver settled).set c := by
  cases c <;> rfl

@[simp] theorem root_set (u : Setup) (c : Policy) : (u.set c).root = u.root := by
  cases c <;> rfl

@[simp] theorem identity_set (u : Setup) (c : Policy) : (u.set c).identity = u.identity := by
  cases c <;> rfl

@[simp] theorem root_inForce (u : Setup) (steps : List Step) :
    (u.inForce needs steps).root = u.root := by
  induction steps generalizing u with
  | nil => rfl
  | cons s rest ih =>
      cases s with
      | set c => exact (ih (u.set c)).trans (root_set u c)
      | ask q =>
          by_cases h : needs u q = true
          · rw [inForce_ask_of_needs h]
          · rw [inForce_ask_of_not_needs h, ih u]

@[simp] theorem identity_inForce (u : Setup) (steps : List Step) :
    (u.inForce needs steps).identity = u.identity := by
  induction steps generalizing u with
  | nil => rfl
  | cons s rest ih =>
      cases s with
      | set c => exact (ih (u.set c)).trans (identity_set u c)
      | ask q =>
          by_cases h : needs u q = true
          · rw [inForce_ask_of_needs h]
          · rw [inForce_ask_of_not_needs h, ih u]

/-- As long as no segments are settled, they are those of the policy in force. -/
theorem tree_resolver (u : Setup) {settled : Settled} (hnone : settled.segments = none) :
    (u.resolver settled).tree = ⟨u.root, u.identity.segments u.naming⟩ := by
  show Tree.mk u.root (settled.segments.getD _) = _
  rw [hnone]
  rfl

/-- As long as no place of packages is settled, it is the one of the overrides in force. -/
theorem packages_resolver (u : Setup) {settled : Settled} (hnone : settled.packages = none) :
    (u.resolver settled).packages
      = (u.resolver settled).tree.below (u.overrides.packageBase u.root) := by
  show settled.packages.getD ((u.resolver settled).tree.below (u.resolver settled).packageBase) = _
  rw [hnone, Resolver.packageBase_eq_overrides]
  rfl

/-- A part stays unset until a question needs it.  That question finds what the setup in force
    gives, and so does everything behind it. -/
structure Settles (need : Resolver → Query → Bool) (unset : Settled → Prop)
    (given : Setup → Resolver → Prop) : Prop where
  /-- What is settled does not decide what is needed. -/
  same : ∀ (u : Setup) (settled : Settled) (q : Query),
    need (u.resolver settled) q = need u.resolver q
  wait : ∀ {u : Setup} {settled : Settled} {q : Query}, unset settled →
    ¬ need u.resolver q = true → unset ((u.resolver settled).after q).settled
  now : ∀ {u : Setup} {settled : Settled}, unset settled → given u (u.resolver settled)
  later : ∀ {u : Setup} {settled : Settled} {q : Query}, unset settled →
    need u.resolver q = true → ∀ rest, given u (((u.resolver settled).after q).past rest)

/-- **FIRST NEED GOVERNS**: every question that needs the part finds what the setup gave that was
    in force at the first of them. -/
theorem Settles.given_past {need : Resolver → Query → Bool} {unset : Settled → Prop}
    {given : Setup → Resolver → Prop} (hpart : Settles need unset given) (u : Setup)
    {settled : Settled} (hunset : unset settled) {steps : List Step} {n : Nat} {q : Query}
    (h : steps[n]? = some (.ask q))
    (hneed : need ((u.resolver settled).past (steps.take n)) q = true) :
    given (u.inForce (fun v => need v.resolver) steps)
      ((u.resolver settled).past (steps.take n)) := by
  induction steps generalizing u settled n with
  | nil => exact nomatch h
  | cons s rest ih =>
      cases s with
      | set c =>
          cases n with
          | zero => exact nomatch Option.some.inj h
          | succ n =>
              have hpast : (u.resolver settled).past ((Step.set c :: rest).take (n + 1))
                  = ((u.set c).resolver settled).past (rest.take n) := by
                rw [resolver_set]
                rfl
              rw [hpast] at hneed ⊢
              exact ih (u.set c) hunset h hneed
      | ask q' =>
          by_cases hfirst : need u.resolver q' = true
          · rw [inForce_ask_of_needs hfirst]
            cases n with
            | zero => exact hpart.now hunset
            | succ n => exact hpart.later hunset hfirst (rest.take n)
          · rw [inForce_ask_of_not_needs hfirst]
            cases n with
            | zero =>
                obtain rfl : q' = q := Step.ask.inj (Option.some.inj h)
                exact absurd ((hpart.same u settled q').symm.trans hneed) hfirst
            | succ n => exact ih u (hpart.wait hunset hfirst) h hneed

theorem settles_segments :
    Settles Resolver.needsSegments (fun settled => settled.segments = none)
      fun u r => r.tree = ⟨u.root, u.identity.segments u.naming⟩ where
  same _ _ _ := rfl
  wait hnone hfirst := (if_neg hfirst).trans hnone
  now hnone := tree_resolver _ hnone
  later := by
    intro u settled q hnone hfirst rest
    rw [Resolver.tree_past_after (r := u.resolver settled) hfirst rest]
    exact tree_resolver u hnone

theorem settles_packages :
    Settles (fun _ q => q = .packages) (fun settled => settled.packages = none)
      fun u r => r.packages = r.tree.below (u.overrides.packageBase u.root) where
  same _ _ _ := rfl
  wait hnone hfirst := (if_neg (by simpa using hfirst)).trans hnone
  now hnone := packages_resolver _ hnone
  later := by
    intro u settled q hnone hfirst rest
    obtain rfl : q = .packages := by simpa using hfirst
    rw [Resolver.packages_past_after, Resolver.tree_past_after rfl, packages_resolver u hnone]

/-- **ONE TREE**: a question that needs the segments finds those of the governing policy. -/
theorem tree_past_eq (u : Setup) {steps : List Step} {n : Nat} {q : Query}
    (h : steps[n]? = some (.ask q))
    (hneeds : (u.resolver.past (steps.take n)).needsSegments q = true) :
    (u.resolver.past (steps.take n)).tree
      = ⟨u.root, u.identity.segments (u.governing steps)⟩ := by
  have hnone : ({} : Settled).segments = none := rfl
  have htree := settles_segments.given_past u hnone h hneeds
  rw [root_inForce, identity_inForce] at htree
  exact htree

/-- **ONE PLACE**: packages are found below the base that governs the run, in the tree that the
    resolver has at the time. -/
theorem packages_past_eq (u : Setup) {steps : List Step} {n : Nat}
    (h : steps[n]? = some (.ask .packages)) :
    (u.resolver.past (steps.take n)).packages
      = (u.resolver.past (steps.take n)).tree.below (u.governingBase steps) := by
  have hnone : ({} : Settled).packages = none := rfl
  have hpackages := settles_packages.given_past u hnone h rfl
  rw [root_inForce] at hpackages
  exact hpackages

/-- **ONE LAYOUT**: from the governing policy on, whatever the questions before. -/
theorem builtFrom_governing (u : Setup) {steps : List Step} {n : Nat} {q : Query}
    (h : steps[n]? = some (.ask q)) :
    q.BuiltFrom u.identity ⟨u.root, u.identity.segments (u.governing steps)⟩
      (u.governingBase steps) ((u.resolver.past (steps.take n)).answer q) := by
  have hidentity : (u.resolver.past (steps.take n)).identity = u.identity :=
    Resolver.identity_past u.resolver (steps.take n)
  rw [← hidentity]
  by_cases hneeds : (u.resolver.past (steps.take n)).needsSegments q = true
  · rw [hidentity, ← tree_past_eq u h hneeds, ← hidentity]
    refine Resolver.builtFrom_tree q ?_
    rintro rfl
    exact packages_past_eq u h
  · exact Resolver.builtFrom_of_not_needsSegments (Bool.eq_false_iff.mpr hneeds) _ _

/-- **A RUN KEEPS TO ITS ANSWERS**: in every run on a new resolver, a part that was answered is
    answered the same ever after, and every answer about the variant's directory is built from
    the segments of the policy that governs the run; packages lie where these lead from the base
    of the overrides that were in force when packages were first asked for. -/
theorem run_keeps_to_answers (u : Setup) (steps : List Step) :
    (∀ (p : Part) (m n : Nat) (a : Answer), m < n →
        steps[m]? = some (.ask p.query) → steps[n]? = some (.ask p.query) →
        (u.run steps)[m]? = some (some (.ok a)) → (u.run steps)[n]? = some (some (.ok a)))
      ∧ ∀ (n : Nat) (q : Query), steps[n]? = some (.ask q) →
          ∃ x, (u.run steps)[n]? = some (some x)
            ∧ q.BuiltFrom u.identity ⟨u.root, u.identity.segments (u.governing steps)⟩
                (u.governingBase steps) x := by
  rw [run_eq_run]
  refine ⟨?_, ?_⟩
  · intro p m n a hmn hm hn ha
    rw [Resolver.run_getElem? _ hm] at ha
    rw [Resolver.run_getElem? _ hn, Resolver.answer_query_past hmn hm]
    exact ha
  · intro n q hn
    exact ⟨_, Resolver.run_getElem? _ hn, builtFrom_governing u hn⟩

-- A question that fails settles the directories; a policy set behind it comes too late, and so
-- do overrides behind the first question for packages.
example :
    ({ identity := { buildType := some "debug" }, root := ⟨"/p"⟩ } : Setup).run
        [.ask (.generatedResources "a.b"), .set (.naming .splitOnly),
         .set (.overrides { forDevice := true }), .ask .packages, .set (.overrides {}),
         .ask .packages]
      = [some (.error (.dottedSegment "a.b" "generated/res/a.b/debug")), none, none,
        some (.ok (.location ⟨"/p/intermediates/apk/debug"⟩)), none,
        some (.ok (.location ⟨"/p/intermediates/apk/debug"⟩))] := by
  rfl

/-! ## Questions alone -/

/-- Policies that are set first only change the setup. -/
theorem runFrom_map_set (u : Setup) (cells : Cells) (cs : List Policy) (steps : List Step) :
    u.runFrom cells (cs.map .set ++ steps)
      = cs.map (fun _ => none) ++ (cs.foldl set u).runFrom cells steps := by
  induction cs generalizing u with
  | nil => rfl
  | cons c rest ih => exact congrArg (none :: ·) (ih (u.set c))

/-- **KEEPING CANNOT BE NOTICED**: once a resolver is set up, every question is answered as by
    a new resolver that is set up the same and asked nothing else. -/
theorem run_asks_as_new (u : Setup) (cs : List Policy) (qs : List Query) :
    u.run (cs.map .set ++ qs.map .ask)
      = cs.map (fun _ => none) ++ qs.flatMap fun q => (cs.foldl set u).run [.ask q] := by
  have hasks : (cs.foldl set u).run (qs.map .ask)
      = qs.flatMap fun q => (cs.foldl set u).run [.ask q] := by
    have hone : ∀ q, (cs.foldl set u).run [.ask q]
        = [some ((cs.foldl set u).resolver.answer q)] := by
      intro q
      rw [run_eq_run]
      rfl
    simp only [hone]
    rw [run_eq_run, Resolver.run_map_ask, List.map_eq_flatMap]
  rw [← hasks]
  exact runFrom_map_set u {} cs (qs.map .ask)

end Setup

end BuildLayout
