import BuildLayout.Proofs.Answers
import BuildLayout.Proofs.Paths

/-! # Cells hold what would be answered

    Work on the cells is related to a resolver without cells by what is written: three of the
    cells are what that resolver has settled, and every written cell holds what it would
    answer (`Coherent`).  From such cells a question is answered as the resolver without cells
    does, and leaves cells that agree with what is settled then (`ask_answers`, the step); so
    the runs of the two are the same (`run_eq_run`).

    All eleven parts go by one argument (`once_answers`), to which each brings what has to be
    settled before it. -/

namespace BuildLayout

variable {α β : Type} {cells kept : Cells} {p : Part}

/-! ## Work -/

@[simp] theorem Cells.read_write_self (cells : Cells) (p : Part) (v : p.Value) :
    (cells.write p v).read p = some v :=
  dif_pos rfl

theorem Cells.read_write_of_ne {q : Part} (h : p ≠ q) (cells : Cells) (v : p.Value) :
    (cells.write p v).read q = cells.read q :=
  dif_neg h

namespace Work

theorem run_ofExcept (outcome : Except VariantError α) (cells : Cells) :
    (ofExcept outcome).run cells = (outcome, cells) := rfl

/-- Work that fails ends there, with what it has written. -/
theorem run_bind (w : Work α) (f : α → Work β) (cells : Cells) :
    (w >>= f).run cells = match w.run cells with
      | (.ok a, kept) => (f a).run kept
      | (.error e, kept) => (.error e, kept) := by
  show (ExceptT.bindCont f (w.run cells).1).run (w.run cells).2 = _
  cases w.run cells with
  | mk out kept =>
      cases out with
      | ok a => rfl
      | error e => rfl

/-- A written cell is read, and an empty one written if the work on its part succeeds. -/
theorem run_once (work : Work p.Value) (cells : Cells) :
    (once p work).run cells = match cells.read p with
      | some v => (.ok v, cells)
      | none => match work.run cells with
        | (.ok v, kept) => (.ok v, kept.write p v)
        | (.error e, kept) => (.error e, kept) := by
  show (ExceptT.run (match cells.read p with
    | some v => pure v
    | none => do
      let v ← work
      modify (·.write p v)
      return v)) cells = _
  cases cells.read p with
  | some v => rfl
  | none =>
      show (work >>= fun v => do modify (·.write p v); return v).run cells = _
      rw [run_bind]
      cases work.run cells with
      | mk out kept =>
          cases out with
          | ok v => rfl
          | error e => rfl

end Work

/-! ## What cells stand for -/

/-- What a resolver with these cells has settled. -/
def Cells.settled (cells : Cells) : Settled where
  segments := cells.read .segments
  baseName := cells.read .baseName
  packages := cells.read .packages

namespace Setup

variable {u : Setup} {q : Query}

/-- The resolver without cells that the cells stand for. -/
def seen (u : Setup) (cells : Cells) : Resolver := u.resolver cells.settled

/-- Every written cell holds what would be answered, and all that its part needs is settled. -/
structure Coherent (u : Setup) (cells : Cells) : Prop where
  holds : ∀ (p : Part) (v : p.Value), cells.read p = some v → (u.seen cells).part p = .ok v
  settled : ∀ (p : Part) (v : p.Value), cells.read p = some v →
    (u.seen cells).after p.query = u.seen cells

theorem coherent_empty (u : Setup) : u.Coherent {} :=
  ⟨fun _ _ h => (nomatch h), fun _ _ h => (nomatch h)⟩

theorem seen_set (u : Setup) (cells : Cells) (c : Policy) :
    (u.set c).seen cells = (u.seen cells).set c := by
  cases c <;> rfl

/-- A change of policy leaves written cells right. -/
theorem Coherent.set (h : u.Coherent cells) (c : Policy) : (u.set c).Coherent cells := by
  refine ⟨fun p v hv => ?_, fun p v hv => ?_⟩
  · rw [seen_set, Resolver.part_set (h.settled p v hv) c]
    exact h.holds p v hv
  · rw [seen_set]
    exact Resolver.settled_query_set (h.settled p v hv) c

/-- A part that is written when all it needs is settled leaves the cells coherent. -/
theorem Coherent.write (h : u.Coherent cells) {v : p.Value}
    (hv : (u.seen cells).part p = .ok v)
    (hseen : u.seen (cells.write p v) = (u.seen cells).after p.query) :
    u.Coherent (cells.write p v) := by
  refine ⟨fun q w hw => ?_, fun q w hw => ?_⟩
  · rw [hseen, Resolver.part_after]
    by_cases hpq : p = q
    · subst hpq
      rw [Cells.read_write_self] at hw
      rw [hv, Option.some.inj hw]
    · rw [Cells.read_write_of_ne hpq] at hw
      exact h.holds q w hw
  · rw [hseen]
    by_cases hpq : p = q
    · subst hpq
      exact Resolver.after_after_self _ _
    · rw [Cells.read_write_of_ne hpq] at hw
      exact Resolver.settled_after (h.settled q w hw) p.query

/-- The work ends in the outcome, and leaves coherent cells with all settled that the question
    needs. -/
def Answers (u : Setup) (cells : Cells) (q : Query) (w : Work α) (out : Except VariantError α) :
    Prop :=
  ∃ kept, w.run cells = (out, kept) ∧ u.Coherent kept ∧ u.seen kept = (u.seen cells).after q

/-- Work that leaves the cells alone, on a question that needs nothing settled. -/
theorem answers_ofExcept (h : u.Coherent cells) (hq : (u.seen cells).after q = u.seen cells)
    (out : Except VariantError α) : u.Answers cells q (.ofExcept out) out :=
  ⟨cells, Work.run_ofExcept out cells, h, hq.symm⟩

/-- More work on an outcome, which leaves the cells alone. -/
theorem Answers.bind_ofExcept {w : Work α} {a : α} (h : u.Answers cells q w (.ok a))
    {f : α → Work β} {out : Except VariantError β} (hf : f a = .ofExcept out) :
    u.Answers cells q (w >>= f) out := by
  obtain ⟨kept, hrun, hkept, hseen⟩ := h
  refine ⟨kept, ?_, hkept, hseen⟩
  rw [Work.run_bind, hrun]
  show (f a).run kept = _
  rw [hf]
  rfl

/-- An outcome in other words. -/
theorem Answers.map {w : Work α} {out : Except VariantError α} (h : u.Answers cells q w out)
    (f : α → β) : u.Answers cells q (f <$> w) (out.map f) := by
  obtain ⟨kept, hrun, hkept, hseen⟩ := h
  refine ⟨kept, ?_, hkept, hseen⟩
  show (w >>= fun a => pure (f a)).run cells = _
  rw [Work.run_bind, hrun]
  cases out with
  | ok a => rfl
  | error e => rfl

/-- Two questions that settle the same. -/
theorem Answers.of_after_eq {w : Work α} {out : Except VariantError α} {q' : Query}
    (h : u.Answers cells q w out) (hq : (u.seen cells).after q = (u.seen cells).after q') :
    u.Answers cells q' w out := by
  obtain ⟨kept, hrun, hkept, hseen⟩ := h
  exact ⟨kept, hrun, hkept, hseen.trans hq⟩

end Setup

/-! ## One argument for all parts -/

/-- The question whose answer is settled before the part is written. -/
def Part.groundwork : Part → Query
  | .dirName | .buildConfigSources | .renderscriptObjects | .coverageReports | .packages =>
    .segments
  | _ => .identity

namespace Resolver

/-- A part settles its groundwork, too. -/
theorem after_groundwork (r : Resolver) (p : Part) :
    (r.after p.groundwork).after p.query = r.after p.query := by
  cases p with
  | dirName => exact after_after_self r .segments
  | buildConfigSources => exact after_after_self r .segments
  | renderscriptObjects => exact after_after_self r .segments
  | coverageReports => exact after_after_self r .segments
  | packages =>
      show { r with settled := ⟨some (r.after .segments).segments, r.settled.baseName,
        some (r.after .segments).packages⟩ } = r.after .packages
      rw [segments_after, packages_after]
      rfl
  | _ => rfl

/-- A part that does not exist settles its groundwork only. -/
theorem after_groundwork_of_error {r : Resolver} {e : VariantError} (h : r.part p = .error e) :
    r.after p.groundwork = r.after p.query := by
  cases p with
  | buildConfigSources => rfl
  | renderscriptObjects => rfl
  | coverageReports => rfl
  | _ => exact nomatch h

end Resolver

namespace Setup

variable {u : Setup} {q : Query}

/-- Writing a part on its groundwork settles what its question needs. -/
theorem seen_write {v : p.Value} (hv : (u.seen cells).part p = .ok v)
    (hground : (u.seen cells).after p.groundwork = u.seen cells) :
    u.seen (cells.write p v) = (u.seen cells).after p.query := by
  cases p with
  | segments =>
      have hvalue : (u.seen cells).segments = v := Except.ok.inj hv
      show u.resolver ⟨some v, _, _⟩ = u.resolver ⟨some (u.seen cells).segments, _, _⟩
      rw [hvalue]
      rfl
  | baseName =>
      have hvalue : (u.seen cells).baseName = v := Except.ok.inj hv
      show u.resolver ⟨_, some v, _⟩ = u.resolver ⟨_, some (u.seen cells).baseName, _⟩
      rw [hvalue]
      rfl
  | packages =>
      have hvalue : (u.seen cells).packages = v := Except.ok.inj hv
      have hsegments : some (u.seen cells).segments = cells.read .segments :=
        congrArg (fun r => r.settled.segments) hground
      show u.resolver ⟨cells.read .segments, cells.read .baseName, some v⟩
        = u.resolver ⟨some (u.seen cells).segments, cells.read .baseName,
          some (u.seen cells).packages⟩
      rw [hvalue, hsegments]
  | fullName => rfl
  | libraries => rfl
  | regularPackages => rfl
  | devicePackages => rfl
  -- These settle their groundwork and nothing else.
  | dirName => exact hground.symm
  | buildConfigSources => exact hground.symm
  | renderscriptObjects => exact hground.symm
  | coverageReports => exact hground.symm

/-- **ONE ARGUMENT FOR ALL PARTS**: a written cell holds the answer, and an empty one gets it,
    if the work on the part lays its groundwork and finds the answer. -/
theorem once_answers (h : u.Coherent cells) {work : Work p.Value}
    (hwork : cells.read p = none →
      u.Answers cells p.groundwork work ((u.seen cells).part p)) :
    u.Answers cells p.query (.once p work) ((u.seen cells).part p) := by
  cases hread : cells.read p with
  | some v =>
      refine ⟨cells, ?_, h, (h.settled p v hread).symm⟩
      rw [Work.run_once, hread, h.holds p v hread]
  | none =>
      obtain ⟨kept, hrun, hkept, hseen⟩ := hwork hread
      cases hout : (u.seen cells).part p with
      | error e =>
          rw [hout] at hrun
          refine ⟨kept, ?_, hkept, hseen.trans (Resolver.after_groundwork_of_error hout)⟩
          rw [Work.run_once, hread, hrun]
      | ok v =>
          rw [hout] at hrun
          have hv : (u.seen kept).part p = .ok v := by
            rw [hseen, Resolver.part_after, hout]
          have hground : (u.seen kept).after p.groundwork = u.seen kept := by
            rw [hseen, Resolver.after_after_self]
          have hwrite := seen_write hv hground
          refine ⟨kept.write p v, ?_, hkept.write hv hwrite, ?_⟩
          · rw [Work.run_once, hread, hrun]
          · rw [hwrite, hseen, Resolver.after_groundwork]

/-! ## Names and places -/

theorem segments_answers (h : u.Coherent cells) :
    u.Answers cells .segments u.segments (.ok (u.seen cells).segments) := by
  refine once_answers (p := .segments) h fun hempty => ?_
  have hvalue : (u.seen cells).segments = u.identity.segments u.naming := by
    show (cells.read .segments).getD _ = _
    rw [hempty]
    rfl
  show u.Answers cells .identity _ (.ok (u.seen cells).segments)
  rw [hvalue]
  exact answers_ofExcept h rfl _

theorem dirName_answers (h : u.Coherent cells) :
    u.Answers cells .dirName u.dirName (.ok (u.seen cells).dirName) :=
  once_answers (p := .dirName) h fun _ => (segments_answers h).bind_ofExcept rfl

theorem baseName_answers (h : u.Coherent cells) :
    u.Answers cells .baseName u.baseName (.ok (u.seen cells).baseName) := by
  refine once_answers (p := .baseName) h fun hempty => ?_
  have hvalue : (u.seen cells).baseName = u.identity.baseNameUnder u.naming := by
    show (cells.read .baseName).getD _ = _
    rw [hempty]
    rfl
  show u.Answers cells .identity _ (.ok (u.seen cells).baseName)
  rw [hvalue]
  exact answers_ofExcept h rfl _

theorem fullName_answers (h : u.Coherent cells) :
    u.Answers cells .fullName u.fullName (.ok (u.seen cells).fullName) :=
  once_answers (p := .fullName) h fun _ => answers_ofExcept h rfl _

theorem variantName_answers (h : u.Coherent cells) :
    u.Answers cells .variantName u.variantName (.ok (u.seen cells).variantName) := by
  cases hsplit : u.identity.split with
  | some split =>
      have hseen : (u.seen cells).identity.split = some split := hsplit
      simp only [variantName, hsplit, Resolver.variantName, hseen]
      exact answers_ofExcept h rfl _
  | none =>
      have hseen : (u.seen cells).identity.split = none := hsplit
      simp only [variantName, hsplit, Resolver.variantName, hseen]
      exact (fullName_answers h).of_after_eq rfl

theorem variantBaseName_answers (h : u.Coherent cells) :
    u.Answers cells .variantBaseName u.variantBaseName
      (.ok (u.seen cells).variantBaseName) := by
  cases hsplit : u.identity.split with
  | some split =>
      have hseen : (u.seen cells).identity.split = some split := hsplit
      have hneeds : (u.seen cells).after .variantBaseName = u.seen cells := by
        simp only [Resolver.after, Resolver.needsSegments, Resolver.needsBaseName, hseen]
        rfl
      simp only [variantBaseName, hsplit, Resolver.variantBaseName, hseen]
      exact answers_ofExcept h hneeds _
  | none =>
      have hseen : (u.seen cells).identity.split = none := hsplit
      have hneeds : (u.seen cells).after .baseName = (u.seen cells).after .variantBaseName := by
        simp only [Resolver.after, Resolver.needsSegments, Resolver.needsBaseName, hseen]
        rfl
      simp only [variantBaseName, hsplit, Resolver.variantBaseName, hseen]
      exact (baseName_answers h).of_after_eq hneeds

theorem buildConfigSources_answers (h : u.Coherent cells) :
    u.Answers cells .buildConfigSources u.buildConfigSources
      (u.seen cells).tree.buildConfigSources :=
  once_answers (p := .buildConfigSources) h fun _ => (dirName_answers h).bind_ofExcept rfl

theorem renderscriptObjects_answers (h : u.Coherent cells) :
    u.Answers cells .renderscriptObjects u.renderscriptObjects
      (u.seen cells).tree.renderscriptObjects :=
  once_answers (p := .renderscriptObjects) h fun _ => (segments_answers h).bind_ofExcept rfl

theorem coverageReports_answers (h : u.Coherent cells) :
    u.Answers cells .coverageReports u.coverageReports (u.seen cells).tree.coverageReports :=
  once_answers (p := .coverageReports) h fun _ => (dirName_answers h).bind_ofExcept rfl

/-- A directory with a fixed name always exists. -/
theorem directory_answers (h : u.Coherent cells) (category : Category) {name : String}
    (hname : IsSegment name) :
    u.Answers cells .identity (u.directory category [name])
      (.ok (category.directory u.root name)) := by
  rw [directory, Directory.under_singleton u.root category hname]
  exact answers_ofExcept h rfl _

theorem libraries_answers (h : u.Coherent cells) :
    u.Answers cells .libraries u.libraries (.ok (u.seen cells).libraries) :=
  once_answers (p := .libraries) h fun _ => directory_answers h .outputs (by decide)

theorem regularPackages_answers (h : u.Coherent cells) :
    u.Answers cells .regularPackages u.regularPackages (.ok (u.seen cells).regularPackages) :=
  once_answers (p := .regularPackages) h fun _ => directory_answers h .outputs (by decide)

theorem devicePackages_answers (h : u.Coherent cells) :
    u.Answers cells .devicePackages u.devicePackages (.ok (u.seen cells).devicePackages) :=
  once_answers (p := .devicePackages) h fun _ => directory_answers h .intermediates (by decide)

/-- Where packages start from is not kept, only the place that it is read from. -/
theorem packageBase_answers (h : u.Coherent cells) :
    u.Answers cells .identity u.packageBase (.ok (u.seen cells).packageBase) := by
  have hoverrides : (u.seen cells).overrides = u.overrides := rfl
  rw [packageBase, Resolver.packageBase, hoverrides]
  cases u.overrides.explicit with
  | some location => exact answers_ofExcept h rfl _
  | none =>
      show u.Answers cells .identity (if u.overrides.forDevice then _ else _)
        (.ok (if u.overrides.forDevice then _ else _))
      cases u.overrides.forDevice with
      | true =>
          rw [if_pos rfl, if_pos rfl]
          exact ((devicePackages_answers h).bind_ofExcept rfl).of_after_eq rfl
      | false =>
          rw [if_neg Bool.false_ne_true, if_neg Bool.false_ne_true]
          exact ((regularPackages_answers h).bind_ofExcept rfl).of_after_eq rfl

theorem packages_answers (h : u.Coherent cells) :
    u.Answers cells .packages u.packages (.ok (u.seen cells).packages) := by
  refine once_answers (p := .packages) h fun hempty => ?_
  have hvalue : (u.seen cells).packages
      = (u.seen cells).packageBase.joinAll (u.seen cells).segments := by
    show (cells.read .packages).getD _ = _
    rw [hempty]
    rfl
  show u.Answers cells .segments _ (.ok (u.seen cells).packages)
  rw [hvalue]
  -- The base is found first; it settles nothing, and then come the segments.
  obtain ⟨kept, hrun, hkept, hseen⟩ := packageBase_answers h
  have hsame : u.seen kept = u.seen cells := hseen
  obtain ⟨final, hrun', hfinal, hseen'⟩ := segments_answers hkept
  rw [hsame] at hrun' hseen'
  refine ⟨final, ?_, hfinal, hseen'⟩
  rw [Work.run_bind, hrun]
  show (u.segments >>= fun xs => pure ((u.seen cells).packageBase.joinAll xs)).run kept = _
  rw [Work.run_bind, hrun']
  rfl

/-- Whether manifests need the segments depends on the component and on the naming policy in
    force when they are asked for. -/
theorem manifests_answers (h : u.Coherent cells) :
    u.Answers cells .manifests u.manifests (u.seen cells).manifests := by
  have hlacks : (u.seen cells).lacksManifest = true
      ↔ (u.naming = .dimensionAware ∧ u.identity.component.isTest = true)
        ∧ u.identity.component.isPackaged = false := by
    show (u.naming == .dimensionAware && u.identity.component.isTest
      && !u.identity.component.isPackaged) = true ↔ _
    simp only [Bool.and_eq_true, beq_iff_eq, Bool.not_eq_true']
  by_cases hnone : (u.seen cells).lacksManifest = true
  · obtain ⟨htest, hpackaged⟩ := hlacks.mp hnone
    have hneeds : (u.seen cells).after .manifests = u.seen cells := by
      simp only [Resolver.after, Resolver.needsSegments, hnone]
      rfl
    simp only [manifests, if_pos htest, hpackaged, Resolver.manifests, if_pos hnone]
    exact answers_ofExcept h hneeds _
  · have hneeds : (u.seen cells).after .dirName = (u.seen cells).after .manifests := by
      simp only [Resolver.after, Resolver.needsSegments, Bool.eq_false_iff.mpr hnone]
      rfl
    simp only [Resolver.manifests, if_neg hnone]
    by_cases htest : u.naming = .dimensionAware ∧ u.identity.component.isTest = true
    · have hseen : (u.seen cells).naming = .dimensionAware
          ∧ (u.seen cells).identity.component.isTest = true := htest
      cases hpackaged : u.identity.component.isPackaged with
      | false => exact absurd (hlacks.mpr ⟨htest, hpackaged⟩) hnone
      | true =>
          simp only [manifests, if_pos htest, hpackaged, if_pos hseen]
          exact ((dirName_answers h).bind_ofExcept rfl).of_after_eq hneeds
    · have hseen : ¬((u.seen cells).naming = .dimensionAware
          ∧ (u.seen cells).identity.component.isTest = true) := htest
      simp only [manifests, if_neg htest, if_neg hseen]
      exact ((dirName_answers h).bind_ofExcept rfl).of_after_eq hneeds

theorem incremental_answers (h : u.Coherent cells) (task : String) :
    u.Answers cells (.incremental task) (u.incremental task)
      ((u.seen cells).incremental task) :=
  (answers_ofExcept h rfl _).map Directory.location

theorem generatedResources_answers (h : u.Coherent cells) (task : String) :
    u.Answers cells (.generatedResources task) (u.generatedResources task)
      ((u.seen cells).tree.generatedResources task) :=
  ((segments_answers h).bind_ofExcept rfl).of_after_eq rfl

/-! ## Questions and runs -/

/-- **STEP**: a question is answered as by the resolver without cells, and leaves cells that
    stand for what that resolver has settled then. -/
theorem ask_answers (h : u.Coherent cells) (q : Query) :
    u.Answers cells q (u.ask q) ((u.seen cells).answer q) := by
  cases q with
  | segments => exact (segments_answers h).map Answer.names
  | dirName => exact (dirName_answers h).map Answer.name
  | baseName => exact (baseName_answers h).map Answer.name
  | fullName => exact (fullName_answers h).map Answer.name
  | variantName => exact (variantName_answers h).map Answer.name
  | variantBaseName => exact (variantBaseName_answers h).map Answer.name
  | directory category segments =>
      exact (answers_ofExcept (q := .directory category segments) h rfl _).map Answer.directory
  | buildConfigSources => exact (buildConfigSources_answers h).map Answer.directory
  | renderscriptObjects => exact (renderscriptObjects_answers h).map Answer.directory
  | coverageReports => exact (coverageReports_answers h).map Answer.directory
  | libraries => exact (libraries_answers h).map Answer.directory
  | regularPackages => exact (regularPackages_answers h).map Answer.directory
  | devicePackages => exact (devicePackages_answers h).map Answer.directory
  | packages => exact (packages_answers h).map Answer.location
  | manifests => exact (manifests_answers h).map Answer.directory
  | incremental task => exact (incremental_answers h task).map Answer.location
  | generatedResources task => exact (generatedResources_answers h task).map Answer.directory
  | _ => exact answers_ofExcept h rfl _

/-- **RUN**: from coherent cells, every run gives the answers of the resolver without cells. -/
theorem runFrom_eq_run (h : u.Coherent cells) (steps : List Step) :
    u.runFrom cells steps = (u.seen cells).run steps := by
  induction steps generalizing u cells with
  | nil => rfl
  | cons s rest ih =>
      cases s with
      | ask q =>
          obtain ⟨kept, hrun, hkept, hseen⟩ := ask_answers h q
          show some ((u.ask q).run cells).1 :: u.runFrom ((u.ask q).run cells).2 rest = _
          rw [hrun, ih hkept, hseen]
          rfl
      | set c =>
          show none :: (u.set c).runFrom cells rest = _
          rw [ih (h.set c), seen_set]
          rfl

/-- A run on a new resolver gives the answers of the resolver without cells. -/
theorem run_eq_run (u : Setup) (steps : List Step) : u.run steps = u.resolver.run steps :=
  runFrom_eq_run (coherent_empty u) steps

end Setup

end BuildLayout
