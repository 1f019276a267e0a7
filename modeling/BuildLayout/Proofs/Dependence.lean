import BuildLayout.Proofs.Names
import BuildLayout.Proofs.Runs

/-! # What answers depend on

    Two variants may have the same names in the same places and differ only in their splits and
    in what their dimensions are called (`Identity.SameNames`).  Hardly any answer tells them
    apart.  What carries this through a run is a relation between two resolvers, that all but
    their identities and the settled base names is the same (`Resolver.Alike`): every step keeps
    resolvers alike (`Alike.step`), so every run does (`Alike.past`), and alike resolvers
    answer alike (`Alike.answer_eq`), since their answers are made of the same parts
    (`SameParts.answer_eq`).

    Only the base name needs more care.  The name for files of a variant without a split is the
    base name, and asking for it settles that; the name for files of a split settles nothing.
    So where just one of two variants has a split, their base names may be settled under
    different policies, and `run_of_sameNames` says exactly when that shows.

    In the layout of older builds, no place and no base name depends on the identity at all
    (`run_of_splitOnly`). -/

namespace BuildLayout

open Text

/-! ## Identities with the same names -/

/-- The two identities have the same names in the same places; they may differ in their splits
    and in what their dimensions are called. -/
structure Identity.SameNames (i j : Identity) : Prop where
  buildType : i.buildType = j.buildType
  flavorNames : i.flavorNames = j.flavorNames
  component : i.component = j.component

namespace Identity

variable {i j : Identity}

theorem SameNames.flavorName?_eq (h : i.SameNames j) : i.flavorName? = j.flavorName? := by
  have hnames : ∀ k : Identity,
      k.flavorName? = if k.flavorNames = [] then none else some (camelCase k.flavorNames) := by
    intro k
    show (if k.flavors.isEmpty then none else some (camelCase (k.flavors.map Flavor.name)))
      = if k.flavors.map Flavor.name = [] then none
        else some (camelCase (k.flavors.map Flavor.name))
    cases k.flavors with
    | nil => rfl
    | cons f rest => rfl
  rw [hnames, hnames, h.flavorNames]

theorem SameNames.segments_eq (h : i.SameNames j) (n : Naming) : i.segments n = j.segments n := by
  cases n with
  | dimensionAware => simp only [segments, h.component, h.flavorName?_eq, h.buildType]
  | splitOnly => rfl

theorem SameNames.baseEnd_eq (h : i.SameNames j) : i.baseEnd = j.baseEnd := by
  rw [baseEnd, baseEnd, h.buildType, h.component]

theorem SameNames.baseNameUnder_eq (h : i.SameNames j) (n : Naming) :
    i.baseNameUnder n = j.baseNameUnder n := by
  have htokens : i.baseTokens = j.baseTokens := by
    rw [baseTokens, baseTokens, h.flavorNames, h.baseEnd_eq]
  cases n with
  | dimensionAware =>
      show i.baseName = j.baseName
      rw [baseName, baseName, htokens]
  | splitOnly => rfl

theorem SameNames.baseNameWithSplit_eq (h : i.SameNames j) (s : String) :
    i.baseNameWithSplit s = j.baseNameWithSplit s := by
  simp only [baseNameWithSplit, baseTokensWithSplit, h.flavorNames, h.baseEnd_eq]

theorem SameNames.fullName_eq (h : i.SameNames j) : i.fullName = j.fullName := by
  have hstart : i.fullStart = j.fullStart := by
    rw [fullStart, fullStart, h.flavorName?_eq, h.buildType]
  rw [fullName, fullName, hstart, h.component]

theorem SameNames.fullNameWithSplit_eq (h : i.SameNames j) (s : String) :
    i.fullNameWithSplit s = j.fullNameWithSplit s := by
  simp only [fullNameWithSplit, h.flavorName?_eq, h.buildType, h.component]

end Identity

/-! ## What answers are made of -/

namespace Resolver

variable {r r' : Resolver} {q : Query}

/-- The two resolvers have all in common that answers are made of, but for the identity and the
    variant's own names. -/
structure SameParts (r r' : Resolver) : Prop where
  root : r.root = r'.root
  naming : r.naming = r'.naming
  signing : r.signing = r'.signing
  segments : r.segments = r'.segments
  packages : r.packages = r'.packages
  manifests : r.manifests = r'.manifests
  fullNameWithSplit : ∀ split, r.fullNameWithSplit split = r'.fullNameWithSplit split
  baseNameWithSplit : ∀ split, r.baseNameWithSplit split = r'.baseNameWithSplit split

/-- **SAME PARTS, SAME ANSWERS**: where a question is after a name, that name has to be the same
    too. -/
theorem SameParts.answer_eq (h : r.SameParts r') (hidentity : q ≠ .identity)
    (hfull : q = .fullName → r.fullName = r'.fullName)
    (hbase : q = .baseName → r.baseName = r'.baseName)
    (hvariant : q = .variantName → r.variantName = r'.variantName)
    (hfile : q = .variantBaseName → r.variantBaseName = r'.variantBaseName) :
    r.answer q = r'.answer q := by
  have htree : r.tree = r'.tree := by
    rw [tree, tree, h.root, h.segments]
  cases q with
  | identity => exact absurd rfl hidentity
  | fullName => exact congrArg (fun s => Except.ok (Answer.name s)) (hfull rfl)
  | baseName => exact congrArg (fun s => Except.ok (Answer.name s)) (hbase rfl)
  | variantName => exact congrArg (fun s => Except.ok (Answer.name s)) (hvariant rfl)
  | variantBaseName => exact congrArg (fun s => Except.ok (Answer.name s)) (hfile rfl)
  | naming => exact congrArg (fun n => Except.ok (Answer.naming n)) h.naming
  | segments => exact congrArg (fun xs => Except.ok (Answer.names xs)) h.segments
  | dirName => exact congrArg (fun t => Except.ok (Answer.name t.dirName)) htree
  | fullNameWithSplit split =>
      exact congrArg (fun s => Except.ok (Answer.name s)) (h.fullNameWithSplit split)
  | baseNameWithSplit split =>
      exact congrArg (fun s => Except.ok (Answer.name s)) (h.baseNameWithSplit split)
  | outputFileName archives base =>
      exact congrArg (fun s => Except.ok (Answer.name (archives ++ "-" ++ base ++ s.suffix)))
        h.signing
  | directory category segments =>
      exact congrArg (fun l => (Directory.under l category segments).map Answer.directory) h.root
  | buildConfigSources =>
      exact congrArg (fun t => t.buildConfigSources.map Answer.directory) htree
  | renderscriptObjects =>
      exact congrArg (fun t => t.renderscriptObjects.map Answer.directory) htree
  | coverageReports => exact congrArg (fun t => t.coverageReports.map Answer.directory) htree
  | libraries =>
      exact congrArg (fun l => Except.ok (Answer.directory (Category.outputs.directory l "aar")))
        h.root
  | regularPackages =>
      exact congrArg (fun l => Except.ok (Answer.directory (Category.outputs.directory l "apk")))
        h.root
  | devicePackages =>
      exact congrArg
        (fun l => Except.ok (Answer.directory (Category.intermediates.directory l "apk"))) h.root
  | packages => exact congrArg (fun l => Except.ok (Answer.location l)) h.packages
  | manifests => exact congrArg (fun x => x.map Answer.directory) h.manifests
  | incremental task =>
      exact congrArg (fun l => ((Directory.under l .intermediates ["incremental", task]).map
        Directory.location).map Answer.location) h.root
  | generatedResources task =>
      exact congrArg (fun t => (t.generatedResources task).map Answer.directory) htree

end Resolver

/-! ## Resolvers that answer alike -/

namespace Resolver

variable {r r' : Resolver} {q : Query}

/-- The two resolvers differ at most in splits, in what dimensions are called, and, if just one
    of them has a split, in the base names that are settled. -/
structure Alike (r r' : Resolver) : Prop where
  names : r.identity.SameNames r'.identity
  root : r.root = r'.root
  naming : r.naming = r'.naming
  overrides : r.overrides = r'.overrides
  signing : r.signing = r'.signing
  segments : r.settled.segments = r'.settled.segments
  packages : r.settled.packages = r'.settled.packages
  baseName : r.identity.split.isSome = r'.identity.split.isSome →
    r.settled.baseName = r'.settled.baseName

namespace Alike

theorem segments_eq (h : r.Alike r') : r.segments = r'.segments := by
  rw [Resolver.segments, Resolver.segments, h.segments, h.naming, h.names.segments_eq]

theorem tree_eq (h : r.Alike r') : r.tree = r'.tree := by
  rw [tree, tree, h.root, h.segments_eq]

theorem packageBase_eq (h : r.Alike r') : r.packageBase = r'.packageBase := by
  simp only [packageBase, devicePackages, regularPackages, h.overrides, h.root]

theorem packages_eq (h : r.Alike r') : r.packages = r'.packages := by
  rw [Resolver.packages, Resolver.packages, h.packages, h.tree_eq, h.packageBase_eq]

theorem lacksManifest_eq (h : r.Alike r') : r.lacksManifest = r'.lacksManifest := by
  rw [lacksManifest, lacksManifest, h.naming, h.names.component]

theorem manifests_eq (h : r.Alike r') : r.manifests = r'.manifests := by
  simp only [manifests, h.lacksManifest_eq, h.naming, h.names.component, h.tree_eq]

theorem baseName_eq (h : r.Alike r')
    (hsplit : r.identity.split.isSome = r'.identity.split.isSome) :
    r.baseName = r'.baseName := by
  rw [Resolver.baseName, Resolver.baseName, h.baseName hsplit, h.naming, h.names.baseNameUnder_eq]

theorem fullNameWithSplit_eq (h : r.Alike r') (s : String) :
    r.fullNameWithSplit s = r'.fullNameWithSplit s := by
  simp only [fullNameWithSplit, h.naming, h.names.fullNameWithSplit_eq]

theorem baseNameWithSplit_eq (h : r.Alike r') (s : String) :
    r.baseNameWithSplit s = r'.baseNameWithSplit s := by
  simp only [baseNameWithSplit, h.naming, h.names.baseNameWithSplit_eq]

theorem sameParts (h : r.Alike r') : r.SameParts r' where
  root := h.root
  naming := h.naming
  signing := h.signing
  segments := h.segments_eq
  packages := h.packages_eq
  manifests := h.manifests_eq
  fullNameWithSplit := h.fullNameWithSplit_eq
  baseNameWithSplit := h.baseNameWithSplit_eq

/-- **ALIKE RESOLVERS ANSWER ALIKE**, but for questions after the identity itself, after the
    variant's names, in which its split stands, and after the base name. -/
theorem answer_eq (h : r.Alike r')
    (hq : q ∉ [.identity, .variantName, .variantBaseName, .baseName]) :
    r.answer q = r'.answer q :=
  h.sameParts.answer_eq (fun heq => absurd (by simp [heq]) hq) (fun _ => h.names.fullName_eq)
    (fun heq => absurd (by simp [heq]) hq) (fun heq => absurd (by simp [heq]) hq)
    (fun heq => absurd (by simp [heq]) hq)

/-- With equal splits, the identity itself is all that can tell alike resolvers apart. -/
theorem answer_eq_of_split (h : r.Alike r') (hsplit : r.identity.split = r'.identity.split)
    (hq : q ≠ .identity) : r.answer q = r'.answer q := by
  have hfull : r.fullName = r'.fullName := h.names.fullName_eq
  have hbase : r.baseName = r'.baseName := h.baseName_eq (congrArg Option.isSome hsplit)
  have hvariant : r.variantName = r'.variantName := by
    simp only [variantName, hsplit, h.fullNameWithSplit_eq, hfull]
  have hfile : r.variantBaseName = r'.variantBaseName := by
    simp only [variantBaseName, hsplit, h.baseNameWithSplit_eq, hbase]
  exact h.sameParts.answer_eq hq (fun _ => hfull) (fun _ => hbase) (fun _ => hvariant)
    (fun _ => hfile)

/-! ## Steps keep resolvers alike -/

theorem needsSegments_eq (h : r.Alike r') (q : Query) : r.needsSegments q = r'.needsSegments q := by
  cases q with
  | manifests => exact congrArg (!·) h.lacksManifest_eq
  | _ => rfl

/-- Whether a question needs the base name depends on whether there is a split. -/
theorem needsBaseName_eq (hsplit : r.identity.split.isSome = r'.identity.split.isSome)
    (q : Query) : r.needsBaseName q = r'.needsBaseName q := by
  cases q with
  | variantBaseName =>
      show r.identity.split.isNone = r'.identity.split.isNone
      rw [← Option.not_isSome, ← Option.not_isSome, hsplit]
  | _ => rfl

theorem after (h : r.Alike r') (q : Query) : (r.after q).Alike (r'.after q) where
  names := h.names
  root := h.root
  naming := h.naming
  overrides := h.overrides
  signing := h.signing
  segments := by
    show (if r.needsSegments q then some r.segments else r.settled.segments)
      = if r'.needsSegments q then some r'.segments else r'.settled.segments
    rw [h.needsSegments_eq, h.segments_eq, h.segments]
  packages := by
    show (if q = .packages then some r.packages else r.settled.packages)
      = if q = .packages then some r'.packages else r'.settled.packages
    rw [h.packages_eq, h.packages]
  baseName := by
    intro (hsplit : r.identity.split.isSome = r'.identity.split.isSome)
    show (if r.needsBaseName q then some r.baseName else r.settled.baseName)
      = if r'.needsBaseName q then some r'.baseName else r'.settled.baseName
    rw [needsBaseName_eq hsplit, h.baseName_eq hsplit, h.baseName hsplit]

theorem set (h : r.Alike r') (c : Policy) : (r.set c).Alike (r'.set c) := by
  cases c with
  | naming n => exact { h with naming := rfl }
  | overrides o => exact { h with overrides := rfl }
  | signing s => exact { h with signing := rfl }

/-- **STEP**: alike resolvers stay alike. -/
theorem step (h : r.Alike r') (s : Step) : (r.step s).Alike (r'.step s) := by
  cases s with
  | ask q => exact h.after q
  | set c => exact h.set c

/-- **RUN**: alike resolvers stay alike, whatever is asked and set. -/
theorem past (h : r.Alike r') (steps : List Step) : (r.past steps).Alike (r'.past steps) := by
  induction steps generalizing r r' with
  | nil => exact h
  | cons s rest ih => exact ih (h.step s)

end Alike

end Resolver

/-! ## The policy that settles the base name -/

/-- The naming policy in force at the first of the given questions in a run; where the run asks
    none of them, the one at the end. -/
def Naming.atFirst (asked : List Query) : Naming → List Step → Naming
  | n, [] => n
  | n, .ask q :: rest => if q ∈ asked then n else n.atFirst asked rest
  | _, .set (.naming n) :: rest => n.atFirst asked rest
  | n, .set _ :: rest => n.atFirst asked rest

/-- The questions that settle the base name: the name for files is one of them only where there
    is no split. -/
def Identity.baseNameQuestions (i : Identity) : List Query :=
  if i.split.isSome then [.baseName] else [.baseName, .variantBaseName]

namespace Resolver

variable {r : Resolver} {q : Query}

theorem needsBaseName_iff : r.needsBaseName q = true ↔ q ∈ r.identity.baseNameQuestions := by
  cases hsplit : r.identity.split with
  | none =>
      simp only [Identity.baseNameQuestions, hsplit]
      cases q <;> simp [needsBaseName, hsplit]
  | some split =>
      simp only [Identity.baseNameQuestions, hsplit]
      cases q <;> simp [needsBaseName, hsplit]

/-- Once it was needed, the base name stays. -/
theorem baseName_past (h : r.needsBaseName q = true) (steps : List Step) :
    ((r.after q).past steps).baseName = r.baseName := by
  have hsettled : (r.after q).after .baseName = r.after q := by
    refine after_eq_self_iff.mpr ⟨?_, ?_, ?_⟩
    · intro hsegments
      exact nomatch hsegments
    · intro _
      rw [baseName_after]
      exact if_pos h
    · intro hpackages
      exact nomatch hpackages
  rw [Except.ok.inj (part_past (p := .baseName) hsettled steps), baseName_after]

end Resolver

namespace Setup

/-- As long as no base name is settled, it is the one of the policy in force. -/
theorem baseName_resolver (u : Setup) {settled : Settled} (hnone : settled.baseName = none) :
    (u.resolver settled).baseName = u.identity.baseNameUnder u.naming := by
  show settled.baseName.getD _ = _
  rw [hnone]
  rfl

theorem settles_baseName :
    Settles Resolver.needsBaseName (fun settled => settled.baseName = none)
      fun u r => r.baseName = u.identity.baseNameUnder u.naming where
  same _ _ _ := rfl
  wait hnone hfirst := (if_neg hfirst).trans hnone
  now hnone := baseName_resolver _ hnone
  later := by
    intro u settled q hnone hfirst rest
    rw [Resolver.baseName_past (r := u.resolver settled) hfirst rest]
    exact baseName_resolver u hnone

theorem naming_inForce_needsBaseName (u : Setup) (steps : List Step) :
    (u.inForce (fun v => v.resolver.needsBaseName) steps).naming
      = u.naming.atFirst u.identity.baseNameQuestions steps := by
  induction steps generalizing u with
  | nil => rfl
  | cons s rest ih =>
      cases s with
      | set c =>
          have hrest := ih (u.set c)
          rw [identity_set] at hrest
          cases c <;> exact hrest
      | ask q =>
          by_cases hneeds : u.resolver.needsBaseName q = true
          · rw [inForce_ask_of_needs hneeds]
            exact (if_pos (Resolver.needsBaseName_iff.mp hneeds)).symm
          · rw [inForce_ask_of_not_needs hneeds, ih u]
            exact (if_neg fun hmem => hneeds (Resolver.needsBaseName_iff.mpr hmem)).symm

/-- **THE FIRST POLICY COUNTS**: the base name is the one of the policy that was in force when it
    was first needed. -/
theorem baseName_past_eq (u : Setup) {steps : List Step} {n : Nat}
    (hn : steps[n]? = some (.ask .baseName)) :
    (u.resolver.past (steps.take n)).baseName
      = u.identity.baseNameUnder (u.naming.atFirst u.identity.baseNameQuestions steps) := by
  have hnone : ({} : Settled).baseName = none := rfl
  have hname := settles_baseName.given_past u hnone hn rfl
  rw [identity_inForce, naming_inForce_needsBaseName] at hname
  exact hname

/-! ## Runs for variants with the same names -/

variable {u : Setup} {j : Identity}

/-- The same setup for another variant. -/
def forVariant (u : Setup) (j : Identity) : Setup := { u with identity := j }

theorem alike_forVariant (h : u.identity.SameNames j) :
    u.resolver.Alike (u.forVariant j).resolver where
  names := h
  root := rfl
  naming := rfl
  overrides := rfl
  signing := rfl
  segments := rfl
  packages := rfl
  baseName := fun _ => rfl

/-- A run answers for the base name as the first policy has it. -/
theorem run_baseName (u : Setup) {steps : List Step} {n : Nat}
    (hn : steps[n]? = some (.ask .baseName)) :
    (u.run steps)[n]? = some (some (.ok (.name
      (u.identity.baseNameUnder (u.naming.atFirst u.identity.baseNameQuestions steps))))) := by
  rw [run_eq_run, Resolver.run_getElem? _ hn]
  show some (some (Except.ok (Answer.name _))) = _
  rw [baseName_past_eq u hn]

/-- Two runs answer a question alike if the resolvers do at that point. -/
theorem exists_answer_of_past_eq {u v : Setup} {steps : List Step} {n : Nat} {q : Query}
    (hn : steps[n]? = some (.ask q))
    (h : (u.resolver.past (steps.take n)).answer q = (v.resolver.past (steps.take n)).answer q) :
    ∃ x, (u.run steps)[n]? = some (some x) ∧ (v.run steps)[n]? = some (some x) := by
  rw [run_eq_run, run_eq_run, Resolver.run_getElem? _ hn, Resolver.run_getElem? _ hn, h]
  exact ⟨_, rfl, rfl⟩

/-- The base names of two variants with the same names can differ only if just one of them has a
    split, and then the policies decide. -/
theorem run_baseName_eq_iff (h : u.identity.SameNames j) {steps : List Step} {n : Nat}
    (hn : steps[n]? = some (.ask .baseName)) :
    (u.run steps)[n]? = ((u.forVariant j).run steps)[n]?
      ↔ u.identity.split.isSome = j.split.isSome
        ∨ u.identity.baseNameUnder (u.naming.atFirst [.baseName] steps)
          = u.identity.baseNameUnder (u.naming.atFirst [.baseName, .variantBaseName] steps) := by
  rw [run_baseName u hn, run_baseName (u.forVariant j) hn, Option.some.injEq, Option.some.injEq,
    Except.ok.injEq, Answer.name.injEq]
  show _ = j.baseNameUnder (u.naming.atFirst j.baseNameQuestions steps) ↔ _
  rw [← h.baseNameUnder_eq, Identity.baseNameQuestions, Identity.baseNameQuestions]
  -- Only if one of the two has a split do the two look for different questions.
  cases u.identity.split.isSome with
  | true =>
      cases j.split.isSome with
      | true => exact ⟨fun _ => Or.inl rfl, fun _ => rfl⟩
      | false => exact ⟨Or.inr, fun hor => hor.resolve_left Bool.noConfusion⟩
  | false =>
      cases j.split.isSome with
      | true =>
          exact ⟨fun heq => Or.inr heq.symm, fun hor => (hor.resolve_left Bool.noConfusion).symm⟩
      | false => exact ⟨fun _ => Or.inl rfl, fun _ => rfl⟩

/-- **SPLITS AND DIMENSIONS STAY OUT OF ANSWERS**: the runs of two variants with the same names,
    set up the same, give the same answers but to questions after the identity and the variant's
    own names.  The base name is the same in both exactly if both have a split, or neither has,
    or the first question for it finds a policy that gives the same base name as the one that the
    first question for it or for the name for files finds.  With equal splits, only the identity
    itself is answered differently. -/
theorem run_of_sameNames (h : u.identity.SameNames j) (steps : List Step) :
    (∀ (n : Nat) (q : Query), steps[n]? = some (.ask q) →
        q ∉ [.identity, .variantName, .variantBaseName, .baseName] →
        ∃ x, (u.run steps)[n]? = some (some x)
          ∧ ((u.forVariant j).run steps)[n]? = some (some x))
      ∧ (∀ n : Nat, steps[n]? = some (.ask .baseName) →
          ((u.run steps)[n]? = ((u.forVariant j).run steps)[n]?
            ↔ u.identity.split.isSome = j.split.isSome
              ∨ u.identity.baseNameUnder (u.naming.atFirst [.baseName] steps)
                = u.identity.baseNameUnder
                    (u.naming.atFirst [.baseName, .variantBaseName] steps)))
      ∧ (u.identity.split = j.split → ∀ (n : Nat) (q : Query), steps[n]? = some (.ask q) →
          q ≠ .identity →
          ∃ x, (u.run steps)[n]? = some (some x)
            ∧ ((u.forVariant j).run steps)[n]? = some (some x)) := by
  have hpast : ∀ n, (u.resolver.past (steps.take n)).Alike
      ((u.forVariant j).resolver.past (steps.take n)) :=
    fun n => (alike_forVariant h).past (steps.take n)
  refine ⟨?_, fun n hn => run_baseName_eq_iff h hn, ?_⟩
  · intro n q hn hq
    exact exists_answer_of_past_eq hn ((hpast n).answer_eq hq)
  · intro hsplit n q hn hq
    have hstill : (u.resolver.past (steps.take n)).identity.split
        = ((u.forVariant j).resolver.past (steps.take n)).identity.split := by
      rw [Resolver.identity_past, Resolver.identity_past]
      exact hsplit
    exact exists_answer_of_past_eq hn ((hpast n).answer_eq_of_split hstill hq)

/-- Tests of a variant with a flavor. -/
def freeTest : Identity where
  buildType := some "debug"
  flavors := [⟨"tier", "free"⟩]
  component := .androidTest

/-- A split with the same names, the dimension under another one. -/
def hdpiFreeTest : Identity where
  buildType := some "debug"
  flavors := [⟨"price", "free"⟩]
  component := .androidTest
  split := some "hdpi"

/-- A run that asks for the name for files first, and for the base name when no name counts
    any more. -/
def lateBaseName : List Step :=
  [.ask .variantBaseName, .set (.naming .splitOnly), .ask .manifests, .ask .baseName]

theorem run_of_sameNames_freeTest :
    freeTest.SameNames hdpiFreeTest
      ∧ (∃ x, (({ identity := freeTest, root := ⟨"/p"⟩ } : Setup).run lateBaseName)[2]?
            = some (some x)
          ∧ (({ identity := hdpiFreeTest, root := ⟨"/p"⟩ } : Setup).run lateBaseName)[2]?
            = some (some x))
      ∧ (({ identity := freeTest, root := ⟨"/p"⟩ } : Setup).run lateBaseName)[3]?
        ≠ (({ identity := hdpiFreeTest, root := ⟨"/p"⟩ } : Setup).run lateBaseName)[3]? := by
  have hnames : freeTest.SameNames hdpiFreeTest := ⟨rfl, rfl, rfl⟩
  obtain ⟨hsame, hbase, -⟩ :=
    run_of_sameNames (u := { identity := freeTest, root := ⟨"/p"⟩ }) hnames lateBaseName
  refine ⟨hnames, hsame 2 .manifests rfl (by decide), ?_⟩
  intro heq
  rcases (hbase 3 rfl).mp heq with hsplit | hpolicy
  · exact absurd hsplit (by decide)
  · exact absurd hpolicy (by decide)

/-- The split `hdpi` of the identity without any names. -/
def bareHdpi : Identity where
  split := some "hdpi"

/-- The base name can tell a variant from its split. -/
theorem baseName_differs_bareHdpi :
    Identity.bare.SameNames bareHdpi ∧ lateBaseName[3]? = some (.ask .baseName)
      ∧ (({ identity := .bare, root := ⟨"/p/build"⟩ } : Setup).run lateBaseName)[3]?
        = some (some (.ok (.name "main")))
      ∧ (({ identity := bareHdpi, root := ⟨"/p/build"⟩ } : Setup).run lateBaseName)[3]?
        = some (some (.ok (.name ""))) :=
  ⟨⟨rfl, rfl, rfl⟩, rfl, rfl, rfl⟩

end Setup

/-! ## The layout of older builds -/

namespace Resolver

variable {r : Resolver}

/-- Where directories are not named after variants, a new resolver has no segments. -/
theorem segments_of_splitOnly (h : r.naming = .splitOnly) (hfresh : r.settled = {}) :
    r.segments = [] := by
  rw [segments, h, hfresh]
  rfl

theorem baseName_of_splitOnly (h : r.naming = .splitOnly) (hfresh : r.settled = {}) :
    r.baseName = "" := by
  rw [baseName, h, hfresh]
  rfl

theorem fullNameWithSplit_of_splitOnly (h : r.naming = .splitOnly) (split : String) :
    r.fullNameWithSplit split = split := by
  rw [fullNameWithSplit, h]

theorem baseNameWithSplit_of_splitOnly (h : r.naming = .splitOnly) (split : String) :
    r.baseNameWithSplit split = split := by
  rw [baseNameWithSplit, h]

theorem variantName_of_splitOnly (h : r.naming = .splitOnly) :
    r.variantName = r.identity.split.getD r.identity.fullName := by
  rw [variantName]
  cases r.identity.split with
  | none => rfl
  | some split => exact fullNameWithSplit_of_splitOnly h split

theorem variantBaseName_of_splitOnly (h : r.naming = .splitOnly) (hfresh : r.settled = {}) :
    r.variantBaseName = r.identity.split.getD "" := by
  rw [variantBaseName]
  cases r.identity.split with
  | none => exact baseName_of_splitOnly h hfresh
  | some split => exact baseNameWithSplit_of_splitOnly h split

/-- Every component has a manifest, in one place for all variants. -/
theorem manifests_of_splitOnly (h : r.naming = .splitOnly) (hfresh : r.settled = {}) :
    r.manifests = .ok ⟨r.root, "intermediates/manifests/full"⟩ := by
  have hlacks : r.lacksManifest = false := by
    rw [lacksManifest, h]
    rfl
  have htest : ¬(r.naming = .dimensionAware ∧ r.identity.component.isTest = true) := by
    rw [h]
    rintro ⟨hnaming, -⟩
    cases hnaming
  rw [manifests, hlacks, if_neg Bool.false_ne_true, if_neg htest, tree,
    segments_of_splitOnly h hfresh]
  rfl

end Resolver

namespace Setup

variable {u v : Setup} {cs ds : List Policy}

@[simp] theorem identity_foldl_set (u : Setup) (cs : List Policy) :
    (cs.foldl set u).identity = u.identity := by
  induction cs generalizing u with
  | nil => rfl
  | cons c rest ih =>
      rw [List.foldl_cons, ih]
      cases c <;> rfl

@[simp] theorem root_foldl_set (u : Setup) (cs : List Policy) :
    (cs.foldl set u).root = u.root := by
  induction cs generalizing u with
  | nil => rfl
  | cons c rest ih =>
      rw [List.foldl_cons, ih]
      cases c <;> rfl

theorem sameParts_of_splitOnly (h : u.naming = .splitOnly) (j : Identity) :
    (u.forVariant j).resolver.SameParts u.resolver := by
  have hnaming : (u.forVariant j).resolver.naming = .splitOnly := h
  have hsegments : (u.forVariant j).resolver.segments = u.resolver.segments := by
    rw [Resolver.segments_of_splitOnly hnaming rfl, Resolver.segments_of_splitOnly h rfl]
  refine ⟨rfl, rfl, rfl, hsegments, ?_, ?_, ?_, ?_⟩
  · exact congrArg (fun xs => (Tree.mk u.root xs).below u.resolver.packageBase) hsegments
  · rw [Resolver.manifests_of_splitOnly hnaming rfl, Resolver.manifests_of_splitOnly h rfl]
    rfl
  · intro split
    rw [Resolver.fullNameWithSplit_of_splitOnly hnaming, Resolver.fullNameWithSplit_of_splitOnly h]
  · intro split
    rw [Resolver.baseNameWithSplit_of_splitOnly hnaming, Resolver.baseNameWithSplit_of_splitOnly h]

/-- Where directories are not named after variants, no answer depends on the identity but those
    with the identity itself and those with a full name or the variant's split. -/
theorem answer_forVariant_of_splitOnly (h : u.naming = .splitOnly) (j : Identity) {q : Query}
    (hq : q ∉ [.identity, .fullName, .variantName, .variantBaseName]) :
    (u.forVariant j).resolver.answer q = u.resolver.answer q := by
  have hbase : (u.forVariant j).resolver.baseName = u.resolver.baseName := by
    have hnaming : (u.forVariant j).resolver.naming = .splitOnly := h
    rw [Resolver.baseName_of_splitOnly hnaming rfl, Resolver.baseName_of_splitOnly h rfl]
  exact (sameParts_of_splitOnly h j).answer_eq (fun heq => absurd (by simp [heq]) hq)
    (fun heq => absurd (by simp [heq]) hq) (fun _ => hbase)
    (fun heq => absurd (by simp [heq]) hq) (fun heq => absurd (by simp [heq]) hq)

/-- Behind policies, questions alone are answered as if each were the first. -/
theorem run_set_ask_getElem? (u : Setup) (cs : List Policy) {qs : List Query} {n : Nat} {q : Query}
    (hn : qs[n]? = some q) :
    (u.run (cs.map .set ++ qs.map .ask))[cs.length + n]?
      = some (some ((cs.foldl set u).resolver.answer q)) := by
  have hrun : u.run (cs.map .set ++ qs.map .ask)
      = cs.map (fun _ => none)
        ++ qs.map fun q => some ((cs.foldl set u).resolver.answer q) := by
    rw [run, runFrom_map_set]
    exact congrArg _ ((run_eq_run _ _).trans (Resolver.run_map_ask _ qs))
  rw [hrun, List.getElem?_append_right (by simp), List.length_map, Nat.add_sub_cancel_left,
    List.getElem?_map, hn]
  rfl

/-- **OLDER BUILDS IGNORE VARIANTS**: two resolvers that are set up the same but for their
    variants, and for naming by the split only, answer every sequence of questions alike, but for
    the identity, its full name and the variant's own names.  These reduce to the split where
    there is one, and every component has a manifest. -/
theorem run_of_splitOnly (hnaming : (cs.foldl set u).naming = .splitOnly)
    (hsame : ds.foldl set v = (cs.foldl set u).forVariant v.identity) (qs : List Query) :
    ∀ (n : Nat) (q : Query), qs[n]? = some q →
      ∃ x y, (u.run (cs.map .set ++ qs.map .ask))[cs.length + n]? = some (some x)
        ∧ (v.run (ds.map .set ++ qs.map .ask))[ds.length + n]? = some (some y)
        ∧ (q ∉ [.identity, .fullName, .variantName, .variantBaseName] → x = y)
        ∧ (q = .fullName → x = .ok (.name u.identity.fullName))
        ∧ (q = .variantName → x = .ok (.name (u.identity.split.getD u.identity.fullName)))
        ∧ (q = .variantBaseName → x = .ok (.name (u.identity.split.getD "")))
        ∧ (q = .manifests → x = .ok (.directory ⟨u.root, "intermediates/manifests/full"⟩)) := by
  have hname : (cs.foldl set u).resolver.naming = .splitOnly := hnaming
  intro n q hn
  refine ⟨_, _, run_set_ask_getElem? u cs hn, run_set_ask_getElem? v ds hn, ?_, ?_, ?_, ?_, ?_⟩
  · intro hq
    rw [hsame]
    exact (answer_forVariant_of_splitOnly hnaming v.identity hq).symm
  · rintro rfl
    exact congrArg (fun i => Except.ok (Answer.name i.fullName)) (identity_foldl_set u cs)
  · rintro rfl
    rw [← identity_foldl_set u cs]
    exact congrArg (fun s => Except.ok (Answer.name s)) (Resolver.variantName_of_splitOnly hname)
  · rintro rfl
    rw [← identity_foldl_set u cs]
    exact congrArg (fun s => Except.ok (Answer.name s))
      (Resolver.variantBaseName_of_splitOnly hname rfl)
  · rintro rfl
    rw [← root_foldl_set u cs]
    exact congrArg (fun x => x.map Answer.directory) (Resolver.manifests_of_splitOnly hname rfl)

/-- Unit tests of a split.  Where directories are named after variants, they have no manifest. -/
def hdpiUnitTest : Setup where
  identity := { flavors := [⟨"tier", "free"⟩], component := .unitTest, split := some "hdpi" }
  root := ⟨"/p"⟩

/-- The identity without any names, built in the same place. -/
def bareHere : Setup where
  identity := .bare
  root := ⟨"/p"⟩

/-- Policies for a layout of older builds on one device. -/
def olderOnDevice : List Policy := [.naming .splitOnly, .overrides ⟨none, true⟩]

/-- The same policies, after a change of mind. -/
def olderOnDeviceAfterAll : List Policy :=
  [.overrides ⟨none, true⟩, .naming .splitOnly, .naming .dimensionAware, .naming .splitOnly]

/-- Questions on files, manifests and packages. -/
def fileQuestions : List Query := [.variantBaseName, .manifests, .packages]

theorem run_of_splitOnly_hdpiUnitTest :
    (olderOnDevice.foldl set hdpiUnitTest).naming = .splitOnly
      ∧ olderOnDeviceAfterAll.foldl set bareHere
        = (olderOnDevice.foldl set hdpiUnitTest).forVariant bareHere.identity
      ∧ (hdpiUnitTest.run (olderOnDevice.map .set ++ fileQuestions.map .ask))[2 + 0]?
        = some (some (.ok (.name "hdpi")))
      ∧ (hdpiUnitTest.run (olderOnDevice.map .set ++ fileQuestions.map .ask))[2 + 1]?
        = some (some (.ok (.directory ⟨⟨"/p"⟩, "intermediates/manifests/full"⟩)))
      ∧ ∃ x, (hdpiUnitTest.run (olderOnDevice.map .set ++ fileQuestions.map .ask))[2 + 2]?
          = some (some x)
        ∧ (bareHere.run (olderOnDeviceAfterAll.map .set ++ fileQuestions.map .ask))[4 + 2]?
          = some (some x) := by
  have hnaming : (olderOnDevice.foldl set hdpiUnitTest).naming = .splitOnly := rfl
  have hsame : olderOnDeviceAfterAll.foldl set bareHere
      = (olderOnDevice.foldl set hdpiUnitTest).forVariant bareHere.identity := rfl
  obtain ⟨x, -, hx, -, -, -, -, hname, -⟩ :=
    run_of_splitOnly hnaming hsame fileQuestions 0 .variantBaseName rfl
  obtain ⟨y, -, hy, -, -, -, -, -, hplace⟩ :=
    run_of_splitOnly hnaming hsame fileQuestions 1 .manifests rfl
  obtain ⟨z, w, hz, hw, halike, -⟩ := run_of_splitOnly hnaming hsame fileQuestions 2 .packages rfl
  rw [hname rfl] at hx
  rw [hplace rfl] at hy
  rw [← halike (by decide)] at hw
  exact ⟨hnaming, hsame, hx, hy, z, hz, hw⟩

end Setup

end BuildLayout
