import BuildLayout.Variant.Cells

/-! # Answers and what they settle

    A question settles what it needs, and settles it to what it answers anyway.  So no answer
    is changed by the questions that were asked before it (`answer_after`), and what is
    settled stays so, through questions and changes of policy (`part_past`).

    `past` is the resolver after the steps of a run: the run answers each question as the
    resolver at that point does (`run_getElem?`), and every statement on runs goes by what the
    steps before the question have left. -/

namespace BuildLayout

/-- The question that asks for a part. -/
def Part.query : Part → Query
  | .segments => .segments
  | .dirName => .dirName
  | .baseName => .baseName
  | .fullName => .fullName
  | .buildConfigSources => .buildConfigSources
  | .renderscriptObjects => .renderscriptObjects
  | .coverageReports => .coverageReports
  | .libraries => .libraries
  | .regularPackages => .regularPackages
  | .devicePackages => .devicePackages
  | .packages => .packages

/-- A part as an answer. -/
def Part.answer : (p : Part) → p.Value → Answer
  | .segments => .names
  | .dirName | .baseName | .fullName => .name
  | .buildConfigSources | .renderscriptObjects | .coverageReports => .directory
  | .libraries | .regularPackages | .devicePackages => .directory
  | .packages => .location

namespace Resolver

variable {r : Resolver} {q q' : Query} {p : Part}

/-- A part of the resolver, where it exists. -/
def part (r : Resolver) : (p : Part) → Except VariantError p.Value
  | .segments => .ok r.segments
  | .dirName => .ok r.dirName
  | .baseName => .ok r.baseName
  | .fullName => .ok r.fullName
  | .buildConfigSources => r.tree.buildConfigSources
  | .renderscriptObjects => r.tree.renderscriptObjects
  | .coverageReports => r.tree.coverageReports
  | .libraries => .ok r.libraries
  | .regularPackages => .ok r.regularPackages
  | .devicePackages => .ok r.devicePackages
  | .packages => .ok r.packages

/-- A question for a part is answered with it. -/
theorem answer_query (r : Resolver) (p : Part) : r.answer p.query = (r.part p).map p.answer := by
  cases p <;> rfl

/-! ## A question changes no answer -/

@[simp] theorem segments_after (r : Resolver) (q : Query) : (r.after q).segments = r.segments := by
  show (if r.needsSegments q then some r.segments else r.settled.segments).getD _ = _
  split
  · rfl
  · rfl

@[simp] theorem baseName_after (r : Resolver) (q : Query) : (r.after q).baseName = r.baseName := by
  show (if r.needsBaseName q then some r.baseName else r.settled.baseName).getD _ = _
  split
  · rfl
  · rfl

@[simp] theorem tree_after (r : Resolver) (q : Query) : (r.after q).tree = r.tree := by
  show Tree.mk r.root (r.after q).segments = ⟨r.root, r.segments⟩
  rw [segments_after]

@[simp] theorem packages_after (r : Resolver) (q : Query) : (r.after q).packages = r.packages := by
  show (if q = .packages then some r.packages else r.settled.packages).getD
    ((r.after q).tree.below r.packageBase) = r.packages
  rw [tree_after]
  split
  · rfl
  · rfl

theorem part_after (r : Resolver) (q : Query) (p : Part) : (r.after q).part p = r.part p := by
  cases p with
  | segments => exact congrArg Except.ok (segments_after r q)
  | dirName => exact congrArg (fun t => Except.ok t.dirName) (tree_after r q)
  | baseName => exact congrArg Except.ok (baseName_after r q)
  | buildConfigSources => exact congrArg Tree.buildConfigSources (tree_after r q)
  | renderscriptObjects => exact congrArg Tree.renderscriptObjects (tree_after r q)
  | coverageReports => exact congrArg Tree.coverageReports (tree_after r q)
  | packages => exact congrArg Except.ok (packages_after r q)
  | fullName => rfl
  | libraries => rfl
  | regularPackages => rfl
  | devicePackages => rfl

/-- **A QUESTION CHANGES NO ANSWER**: what it settles is what would be answered anyway. -/
theorem answer_after (r : Resolver) (q q' : Query) : (r.after q).answer q' = r.answer q' := by
  have hpart : ∀ p : Part, (r.after q).answer p.query = r.answer p.query := by
    intro p
    rw [answer_query, answer_query, part_after]
  cases q' with
  | segments => exact hpart .segments
  | dirName => exact hpart .dirName
  | baseName => exact hpart .baseName
  | buildConfigSources => exact hpart .buildConfigSources
  | renderscriptObjects => exact hpart .renderscriptObjects
  | coverageReports => exact hpart .coverageReports
  | packages => exact hpart .packages
  | variantBaseName =>
      have hname : (r.after q).variantBaseName = r.variantBaseName := by
        simp only [variantBaseName, baseName_after]
        rfl
      exact congrArg (fun name => Except.ok (Answer.name name)) hname
  | manifests =>
      show (if r.lacksManifest then Except.error _
        else if r.naming = .dimensionAware ∧ r.identity.component.isTest
          then (r.after q).tree.testManifests
          else (r.after q).tree.fullManifests).map Answer.directory = _
      rw [tree_after]
      rfl
  | generatedResources task =>
      exact congrArg (fun t => (Tree.generatedResources t task).map Answer.directory)
        (tree_after r q)
  | _ => rfl

/-! ## What is settled stays -/

/-- A question settles nothing more exactly if all that it needs is settled already. -/
theorem after_eq_self_iff :
    r.after q = r
      ↔ (r.needsSegments q = true → r.settled.segments = some r.segments)
        ∧ (r.needsBaseName q = true → r.settled.baseName = some r.baseName)
        ∧ (q = .packages → r.settled.packages = some r.packages) := by
  -- Each of the three is written under a condition, or left as it is.
  have hfield : ∀ {α : Type} {c : Prop} [Decidable c] {x : α} {s : Option α},
      (if c then some x else s) = s ↔ (c → s = some x) := by
    intro α c _ x s
    by_cases hc : c
    · rw [if_pos hc]
      exact ⟨fun h _ => h.symm, fun h => (h hc).symm⟩
    · rw [if_neg hc]
      exact ⟨fun _ h => absurd h hc, fun _ => rfl⟩
  rw [← hfield, ← hfield, ← hfield]
  constructor
  · intro h
    have hsettled : (r.after q).settled = r.settled := congrArg Resolver.settled h
    exact ⟨congrArg Settled.segments hsettled, congrArg Settled.baseName hsettled,
      congrArg Settled.packages hsettled⟩
  · rintro ⟨hsegments, hbase, hpackages⟩
    show { r with settled := Settled.mk _ _ _ } = r
    rw [hsegments, hbase, hpackages]

/-- Asking again settles nothing more. -/
theorem after_after_self (r : Resolver) (q : Query) : (r.after q).after q = r.after q := by
  refine after_eq_self_iff.mpr ⟨?_, ?_, ?_⟩
  · intro h
    rw [segments_after]
    exact if_pos h
  · intro h
    rw [baseName_after]
    exact if_pos h
  · intro h
    rw [packages_after]
    exact if_pos h

/-- What is settled stays settled when another question is asked. -/
theorem settled_after (h : r.after q = r) (q' : Query) : (r.after q').after q = r.after q' := by
  obtain ⟨hsegments, hbase, hpackages⟩ := after_eq_self_iff.mp h
  have hkeep : ∀ {α : Type} {c : Prop} [Decidable c] {x : α} {s : Option α},
      s = some x → (if c then some x else s) = some x := by
    intro α c _ x s hs
    rw [hs, ite_self]
  refine after_eq_self_iff.mpr ⟨?_, ?_, ?_⟩
  · intro hneeds
    rw [segments_after]
    exact hkeep (hsegments hneeds)
  · intro hneeds
    rw [baseName_after]
    exact hkeep (hbase hneeds)
  · intro hq
    rw [packages_after]
    exact hkeep (hpackages hq)

/-- A change of policy settles nothing and unsettles nothing. -/
@[simp] theorem settled_set (r : Resolver) (c : Policy) : (r.set c).settled = r.settled := by
  cases c <;> rfl

@[simp] theorem identity_set (r : Resolver) (c : Policy) : (r.set c).identity = r.identity := by
  cases c <;> rfl

@[simp] theorem root_set (r : Resolver) (c : Policy) : (r.set c).root = r.root := by
  cases c <;> rfl

theorem segments_set {xs : List String} (h : r.settled.segments = some xs) (c : Policy) :
    (r.set c).segments = xs := by
  simp only [segments, settled_set, h, Option.getD_some]

theorem baseName_set {name : String} (h : r.settled.baseName = some name) (c : Policy) :
    (r.set c).baseName = name := by
  simp only [baseName, settled_set, h, Option.getD_some]

theorem packages_set {l : Location} (h : r.settled.packages = some l) (c : Policy) :
    (r.set c).packages = l := by
  simp only [packages, settled_set, h, Option.getD_some]

theorem tree_set (h : r.settled.segments = some r.segments) (c : Policy) :
    (r.set c).tree = r.tree := by
  simp only [tree, root_set, segments_set h]

/-- The naming policy in force plays no part in what a part needs. -/
theorem needsSegments_query_set (r : Resolver) (c : Policy) (p : Part) :
    (r.set c).needsSegments p.query = r.needsSegments p.query := by
  cases p <;> rfl

theorem needsBaseName_set (r : Resolver) (c : Policy) (q : Query) :
    (r.set c).needsBaseName q = r.needsBaseName q := by
  simp only [needsBaseName, identity_set]

/-- A part that is settled stays settled when a policy changes. -/
theorem settled_query_set (h : r.after p.query = r) (c : Policy) :
    (r.set c).after p.query = r.set c := by
  obtain ⟨hsegments, hbase, hpackages⟩ := after_eq_self_iff.mp h
  refine after_eq_self_iff.mpr ⟨?_, ?_, ?_⟩
  · intro hneeds
    rw [needsSegments_query_set] at hneeds
    rw [settled_set, hsegments hneeds, segments_set (hsegments hneeds)]
  · intro hneeds
    rw [needsBaseName_set] at hneeds
    rw [settled_set, hbase hneeds, baseName_set (hbase hneeds)]
  · intro hq
    rw [settled_set, hpackages hq, packages_set (hpackages hq)]

/-- A part that is settled stays the same when a policy changes. -/
theorem part_set (h : r.after p.query = r) (c : Policy) : (r.set c).part p = r.part p := by
  obtain ⟨hsegments, hbase, hpackages⟩ := after_eq_self_iff.mp h
  cases p with
  | segments => exact congrArg Except.ok (segments_set (hsegments rfl) c)
  | dirName => exact congrArg (fun t => Except.ok t.dirName) (tree_set (hsegments rfl) c)
  | baseName => exact congrArg Except.ok (baseName_set (hbase rfl) c)
  | fullName => exact congrArg (fun i => Except.ok i.fullName) (identity_set r c)
  | buildConfigSources => exact congrArg Tree.buildConfigSources (tree_set (hsegments rfl) c)
  | renderscriptObjects => exact congrArg Tree.renderscriptObjects (tree_set (hsegments rfl) c)
  | coverageReports => exact congrArg Tree.coverageReports (tree_set (hsegments rfl) c)
  | libraries =>
      exact congrArg (fun l => Except.ok (Category.outputs.directory l "aar")) (root_set r c)
  | regularPackages =>
      exact congrArg (fun l => Except.ok (Category.outputs.directory l "apk")) (root_set r c)
  | devicePackages =>
      exact congrArg (fun l => Except.ok (Category.intermediates.directory l "apk"))
        (root_set r c)
  | packages => exact congrArg Except.ok (packages_set (hpackages rfl) c)

/-! ## Runs -/

/-- The resolver after a step. -/
def step (r : Resolver) : Step → Resolver
  | .ask q => r.after q
  | .set c => r.set c

/-- The resolver after the steps of a run. -/
def past (r : Resolver) (steps : List Step) : Resolver := steps.foldl step r

theorem past_append (r : Resolver) (before rest : List Step) :
    r.past (before ++ rest) = (r.past before).past rest :=
  List.foldl_append

theorem identity_past (r : Resolver) (steps : List Step) :
    (r.past steps).identity = r.identity := by
  induction steps generalizing r with
  | nil => rfl
  | cons s rest ih =>
      cases s with
      | ask q => exact ih (r.after q)
      | set c => exact (ih (r.set c)).trans (identity_set r c)

theorem root_past (r : Resolver) (steps : List Step) : (r.past steps).root = r.root := by
  induction steps generalizing r with
  | nil => rfl
  | cons s rest ih =>
      cases s with
      | ask q => exact ih (r.after q)
      | set c => exact (ih (r.set c)).trans (root_set r c)

/-- A question of a run is answered by the resolver that the steps before it have left. -/
theorem run_getElem? (r : Resolver) {steps : List Step} {n : Nat} (h : steps[n]? = some (.ask q)) :
    (r.run steps)[n]? = some (some ((r.past (steps.take n)).answer q)) := by
  induction steps generalizing r n with
  | nil => exact nomatch h
  | cons s rest ih =>
      cases n with
      | zero =>
          have hs : s = .ask q := Option.some.inj h
          rw [hs]
          rfl
      | succ n =>
          cases s with
          | ask q' => exact ih (r.after q') h
          | set c => exact ih (r.set c) h

/-- **STEP**: a part that is settled stays settled, and stays the same. -/
theorem part_step (h : r.after p.query = r) (s : Step) :
    (r.step s).after p.query = r.step s ∧ (r.step s).part p = r.part p := by
  cases s with
  | ask q => exact ⟨settled_after h q, part_after r q p⟩
  | set c => exact ⟨settled_query_set h c, part_set h c⟩

/-- **RUN**: a part that is settled stays the same, whatever is asked and set afterwards. -/
theorem part_past (h : r.after p.query = r) (steps : List Step) :
    (r.past steps).part p = r.part p := by
  induction steps generalizing r with
  | nil => rfl
  | cons s rest ih =>
      obtain ⟨hsettled, hpart⟩ := part_step h s
      exact (ih hsettled).trans hpart

/-- The steps before a later question are those before an earlier one, that one, and more. -/
theorem exists_take_eq {steps : List Step} {m n : Nat} {s : Step} (h : steps[m]? = some s)
    (hmn : m < n) : ∃ between, steps.take n = steps.take m ++ s :: between := by
  refine ⟨(steps.take n).drop (m + 1), ?_⟩
  have hsplit := List.take_append_drop (m + 1) (steps.take n)
  have hfront : (steps.take n).take (m + 1) = steps.take m ++ [s] := by
    rw [List.take_take, Nat.min_eq_left hmn, List.take_add_one, h]
    rfl
  rw [hfront, List.append_assoc] at hsplit
  exact hsplit.symm

/-- **WRITE ONCE**: once a part was asked for, it is answered the same ever after. -/
theorem answer_query_past {steps : List Step} {m n : Nat} (hmn : m < n)
    (h : steps[m]? = some (.ask p.query)) :
    (r.past (steps.take n)).answer p.query = (r.past (steps.take m)).answer p.query := by
  obtain ⟨between, hbetween⟩ := exists_take_eq h hmn
  rw [hbetween, past_append, answer_query, answer_query]
  -- The earlier question has settled the part, and what comes between leaves it so.
  have hlater : (((r.past (steps.take m)).after p.query).past between).part p
      = (r.past (steps.take m)).part p := by
    rw [part_past (after_after_self _ _), part_after]
  exact congrArg (Except.map p.answer) hlater

/-- Questions alone are answered as if each were the first. -/
theorem run_map_ask (r : Resolver) (qs : List Query) :
    r.run (qs.map .ask) = qs.map fun q => some (r.answer q) := by
  induction qs generalizing r with
  | nil => rfl
  | cons q rest ih =>
      show some (r.answer q) :: (r.after q).run (rest.map .ask) = _
      rw [ih]
      simp only [answer_after, List.map_cons]

end Resolver

end BuildLayout
