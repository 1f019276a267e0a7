import BuildLayout.Proofs.Acceptance
import BuildLayout.Proofs.LastValues

/-! # What a project is refused for first

    Many things can be wrong with a project at once, and a session is refused for one of them.
    Which one follows from the order of the checks and from the order within each check: keys
    for the properties, the declared order for the variants.

    The checks form a list of grounds, and the session is refused on the first one that applies
    (`FirstOf`, `refused_on_first_ground`).  The scan over the variants stops at the first
    variant that is in the way of an earlier one.  All before it keep apart, so the one variant
    that the scan remembers for a directory, the earliest, is in its way if any variant there is
    (`clash?_eq_some_iff`). -/

namespace BuildLayout

/-! ## Grounds in their order -/

section Grounds

variable {α : Type} {ground : α → Prop} {rest : List (α → Prop)}

/-- What the first ground that applies holds of; the others count only where it applies to
    nothing. -/
def FirstOf : List (α → Prop) → α → Prop
  | [], _ => False
  | ground :: rest, a => ground a ∨ (∀ b, ¬ ground b) ∧ FirstOf rest a

theorem firstOf_singleton (a : α) : FirstOf [ground] a ↔ ground a :=
  ⟨fun h => h.elim id fun hnone => hnone.2.elim, Or.inl⟩

/-- **STEP OF THE CHECKS**: a check before others puts its ground before theirs. -/
theorem orElse_eq_some_iff_firstOf {x y : Option α} (hx : ∀ a, x = some a ↔ ground a)
    (hy : ∀ a, y = some a ↔ FirstOf rest a) (a : α) :
    (x <|> y) = some a ↔ FirstOf (ground :: rest) a := by
  have hnone : x = none ↔ ∀ b, ¬ ground b := by
    simp only [Option.eq_none_iff_forall_ne_some, Ne, hx]
  rw [Option.orElse_eq_some, hx, hy, hnone]
  rfl

end Grounds

/-! ## Removed properties -/

namespace Assignment

/-- The layers set the property, and it was removed. -/
def SetsRemoved (layers : List Layer) (p : Property) : Prop :=
  (last? layers p.key).isSome = true ∧ p.stage.isRemoved = true

/-- The removed property among those set that comes first in the order of keys. -/
def FirstRemoved (layers : List Layer) (p : Property) : Prop :=
  SetsRemoved layers p ∧ ∀ q, SetsRemoved layers q → q = p ∨ bytes p.key < bytes q.key

end Assignment

/-- An entry is refused for a removed property. -/
theorem Entry.error?_notice?_eq_some_iff {e : Entry} {cause : PropertyError} :
    e.notice?.bind Notice.error? = some cause
      ↔ ∃ since advice, e.stage = .removed since advice ∧ cause = .removed e.key since advice := by
  unfold notice?
  cases e.stage with
  | stable => exact ⟨fun h => (nomatch h), fun ⟨_, _, h, _⟩ => (nomatch h)⟩
  | experimental => exact ⟨fun h => (nomatch h), fun ⟨_, _, h, _⟩ => (nomatch h)⟩
  | removed since advice =>
      constructor
      · intro h
        exact ⟨since, advice, rfl, (Option.some.inj h).symm⟩
      · rintro ⟨_, _, ⟨rfl, rfl⟩, rfl⟩
        rfl

namespace Snapshot

variable {layers : List Layer} {s : Snapshot}

/-- The layers set a removed property exactly if an entry is refused for it. -/
theorem setsRemoved_iff (h : ofLayers layers = .ok s) (p : Property) :
    Assignment.SetsRemoved layers p
      ↔ ∃ e ∈ s.entries, e.property = p ∧ ∃ cause, e.notice?.bind Notice.error? = some cause := by
  constructor
  · rintro ⟨hset, hremoved⟩
    obtain ⟨a, hlast⟩ := Option.isSome_iff_exists.mp hset
    obtain ⟨e, he, rfl⟩ := exists_entry h hlast
    refine ⟨e, he, rfl, ?_⟩
    rw [← Option.isSome_iff_exists]
    refine Option.isSome_iff_ne_none.mpr fun hnone => ?_
    have hstage : e.property.stage.isRemoved = false := (Entry.error?_notice? e).mp hnone
    rw [hremoved] at hstage
    exact nomatch hstage
  · rintro ⟨e, he, rfl, cause, hcause⟩
    obtain ⟨since, advice, hstage, -⟩ := Entry.error?_notice?_eq_some_iff.mp hcause
    obtain ⟨p, a, hlast, hread, -, -⟩ := (mem_entries_iff h e).mp he
    obtain rfl : e.property = p := Property.property_of_read hread
    refine ⟨?_, ?_⟩
    · rw [hlast]
      rfl
    · have hremoved : e.property.stage = .removed since advice := hstage
      rw [hremoved]
      rfl

/-- **THE FIRST REMOVED PROPERTY** in the order of keys is what a strict project is refused
    for. -/
theorem removed?_eq_some_iff (h : ofLayers layers = .ok s) {cause : PropertyError} :
    s.removed? = some cause
      ↔ ∃ p since advice, Assignment.FirstRemoved layers p ∧ p.stage = .removed since advice
          ∧ cause = .removed p.key since advice := by
  show (s.entries.filterMap Entry.notice?).findSome? Notice.error? = some cause ↔ _
  rw [← List.head?_filterMap, List.filterMap_filterMap, List.head?_filterMap,
    findSome?_eq_some_iff_of_order (fun a b => String.lt_asymm) (pairwise_key h)]
  constructor
  · rintro ⟨e, he, hcause, hfirst⟩
    obtain ⟨since, advice, hstage, hrefusal⟩ := Entry.error?_notice?_eq_some_iff.mp hcause
    have hset : Assignment.SetsRemoved layers e.property :=
      (setsRemoved_iff h _).mpr ⟨e, he, rfl, cause, hcause⟩
    refine ⟨e.property, since, advice, ⟨hset, ?_⟩, hstage, hrefusal⟩
    intro q hother
    obtain ⟨e', he', rfl, hrefused⟩ := (setsRemoved_iff h q).mp hother
    exact (hfirst e' he' hrefused).imp (congrArg Entry.property) bytes_lt
  · rintro ⟨p, since, advice, ⟨hset, hfirst⟩, hstage, rfl⟩
    obtain ⟨e, he, rfl, -⟩ := (setsRemoved_iff h p).mp hset
    refine ⟨e, he, Entry.error?_notice?_eq_some_iff.mpr ⟨since, advice, hstage, rfl⟩, ?_⟩
    intro e' he' hrefused
    rcases hfirst _ ((setsRemoved_iff h _).mpr ⟨e', he', rfl, hrefused⟩) with hsame | hlt
    · -- One property has one entry.
      have hone : (s.entries.map Entry.property).Nodup :=
        List.pairwise_map.mpr (pairwise_property h)
      exact Or.inl (List.inj_on_of_nodup_map hone he' he hsame)
    · exact Or.inr (lt_of_bytes_lt hlt)

end Snapshot

/-! ## The scan over the variants -/

namespace Project

variable {p : Project} {front : List Identity} {i : Identity} {e : ProjectError}

/-- The name of a variant of the project, which does not depend on the properties. -/
def variantName (p : Project) (i : Identity) : String := (p.resolver ⟨[]⟩ i).variantName

/-- Two variants are in each other's way: they are equal, or directories follow the identity and
    they share one without being splits of one variant. -/
def InTheWay (p : Project) (i j : Identity) : Prop :=
  i = j ∨ (p.naming = .dimensionAware ∧ i.dirName p.naming = j.dirName p.naming
    ∧ ¬ i.SameVariant j)

/-- What a variant is refused for after those in front of it: its equal, or else the earliest of
    them in its directory. -/
inductive ClashAfter (p : Project) (front : List Identity) (i : Identity) :
    ProjectError → Prop where
  | duplicate (h : i ∈ front) : ClashAfter p front i (.duplicateVariant (p.variantName i))
  | shared {before between : List Identity} {owner : Identity} (h : i ∉ front)
      (hfront : front = before ++ owner :: between)
      (hdir : owner.dirName p.naming = i.dirName p.naming)
      (hearliest : ∀ t ∈ before, t.dirName p.naming ≠ i.dirName p.naming) :
      ClashAfter p front i
        (.sharedDirectory (i.dirName p.naming) (p.variantName owner) (p.variantName i))

theorem apart_resolver_iff (s : Snapshot) (i j : Identity) :
    Resolver.Apart p.naming (p.resolver s i) (p.resolver s j) ↔ ¬ p.InTheWay i j := by
  show (i ≠ j ∧ (p.naming = .dimensionAware → i.dirName p.naming = j.dirName p.naming →
    i.SameVariant j)) ↔ _
  simp only [InTheWay, not_or, not_and, not_not, Ne]

theorem pairwise_apart_iff (s : Snapshot) (front : List Identity) :
    (front.map (p.resolver s)).Pairwise (Resolver.Apart p.naming)
      ↔ front.Pairwise fun t u => ¬ p.InTheWay t u := by
  simp only [List.pairwise_map, apart_resolver_iff]

/-- The earliest of the variants with the directory. -/
theorem find?_resolver_eq_some_iff (s : Snapshot) {r : Resolver} :
    (front.map (p.resolver s)).find? (·.dirName == (p.resolver s i).dirName) = some r
      ↔ ∃ before owner between, front = before ++ owner :: between
          ∧ owner.dirName p.naming = i.dirName p.naming
          ∧ (∀ t ∈ before, t.dirName p.naming ≠ i.dirName p.naming)
          ∧ p.resolver s owner = r := by
  rw [List.find?_map, Option.map_eq_some_iff]
  constructor
  · rintro ⟨owner, hfound, rfl⟩
    obtain ⟨hdir, before, between, hfront, hearliest⟩ := List.find?_eq_some_iff_append.mp hfound
    refine ⟨before, owner, between, hfront, beq_iff_eq.mp hdir, ?_, rfl⟩
    intro t ht
    exact bne_iff_ne.mp (hearliest t ht)
  · rintro ⟨before, owner, between, hfront, hdir, hearliest, rfl⟩
    refine ⟨owner, List.find?_eq_some_iff_append.mpr ?_, rfl⟩
    refine ⟨beq_iff_eq.mpr hdir, before, between, hfront, ?_⟩
    intro t ht
    exact bne_iff_ne.mpr (hearliest t ht)

/-- A variant is refused for one thing only. -/
theorem ClashAfter.unique {e' : ProjectError} (h : p.ClashAfter front i e)
    (h' : p.ClashAfter front i e') : e = e' := by
  cases h with
  | duplicate hmem =>
      cases h' with
      | duplicate => rfl
      | shared hnot => exact absurd hmem hnot
  | @shared before between owner hnot hfront hdir hearliest =>
      cases h' with
      | duplicate hmem => exact absurd hmem hnot
      | @shared before' between' owner' _ hfront' hdir' hearliest' =>
          have hfound := (find?_resolver_eq_some_iff ⟨[]⟩).mpr
            ⟨before, owner, between, hfront, hdir, hearliest, rfl⟩
          rw [(find?_resolver_eq_some_iff ⟨[]⟩).mpr
            ⟨before', owner', between', hfront', hdir', hearliest', rfl⟩] at hfound
          obtain rfl : owner' = owner := congrArg Resolver.identity (Option.some.inj hfound)
          rfl

theorem clashAfter_of_clash? {s : Snapshot}
    (h : (p.resolver s i).clash? (front.map (p.resolver s)) = some e) :
    p.ClashAfter front i e := by
  have hmem : (p.resolver s i).identity ∈ (front.map (p.resolver s)).map Resolver.identity
      ↔ i ∈ front := by
    rw [List.map_map]
    exact iff_of_eq (congrArg (i ∈ ·) (List.map_id front))
  rcases Resolver.clash?_eq_some_iff.mp h with ⟨hdup, rfl⟩ | ⟨hnew, -, r, hfound, -, rfl⟩
  · exact .duplicate (hmem.mp hdup)
  · obtain ⟨before, owner, between, hfront, hdir, hearliest, rfl⟩ :=
      (find?_resolver_eq_some_iff s).mp hfound
    exact .shared (fun hdup => hnew (hmem.mpr hdup)) hfront hdir hearliest

/-- **STEP OF THE SCAN**: behind variants that keep apart, a variant is refused if one of them is
    in its way, and then for its equal or for the earliest of them in its directory. -/
theorem clash?_eq_some_iff (s : Snapshot) (hfront : front.Pairwise fun t u => ¬ p.InTheWay t u) :
    (p.resolver s i).clash? (front.map (p.resolver s)) = some e
      ↔ (∃ t ∈ front, p.InTheWay t i) ∧ p.ClashAfter front i e := by
  have hnone : (p.resolver s i).clash? (front.map (p.resolver s)) = none
      ↔ ¬ ∃ t ∈ front, p.InTheWay t i := by
    rw [Resolver.clash?_eq_none_iff ((pairwise_apart_iff s front).mpr hfront) rfl]
    simp only [List.forall_mem_map, apart_resolver_iff, not_exists, not_and]
  constructor
  · intro h
    refine ⟨?_, clashAfter_of_clash? h⟩
    by_contra hfree
    rw [hnone.mpr hfree] at h
    exact nomatch h
  · rintro ⟨hway, hclash⟩
    cases hscan : (p.resolver s i).clash? (front.map (p.resolver s)) with
    | none => exact absurd hway (hnone.mp hscan)
    | some e' => rw [(clashAfter_of_clash? hscan).unique hclash]

/-! ## Grounds of refusal -/

/-- The project or the run sets the property, and it was removed. -/
def SetsRemoved (p : Project) (given : List (String × RawValue)) (q : Property) : Prop :=
  q.key ∈ (p.properties ++ given).map Prod.fst ∧ q.stage.isRemoved = true

/-- A property is set to an unsuitable value at last; the first such property in the order of
    keys is refused. -/
def ValueGround (p : Project) (given : List (String × RawValue)) (e : ProjectError) : Prop :=
  ∃ q v, p.SetsUnsuitable given q v
    ∧ (∀ q' w, p.SetsUnsuitable given q' w → q' = q ∨ bytes q.key < bytes q'.key)
    ∧ e = .property (.invalidValue q v)

/-- The project is strict and a removed property is set; the first such property in the order of
    keys is refused. -/
def RemovalGround (p : Project) (given : List (String × RawValue)) (e : ProjectError) : Prop :=
  p.strict = true ∧ ∃ q since advice, p.SetsRemoved given q
    ∧ (∀ q', p.SetsRemoved given q' → q' = q ∨ bytes q.key < bytes q'.key)
    ∧ q.stage = .removed since advice ∧ e = .property (.removed q.key since advice)

/-- An identity is not well formed; the first such identity in declared order is refused. -/
def IdentityGround (p : Project) (e : ProjectError) : Prop :=
  ∃ front i back fault, p.variants = front ++ i :: back ∧ (∀ t ∈ front, t.WellFormed)
    ∧ i.fault? = some fault ∧ e = .variant (.invalidIdentity fault.message)

/-- A variant is in the way of an earlier one; the first such variant in declared order is
    refused. -/
def ClashGround (p : Project) (e : ProjectError) : Prop :=
  ∃ front i back, p.variants = front ++ i :: back
    ∧ (front.Pairwise fun t u => ¬ p.InTheWay t u) ∧ (∃ t ∈ front, p.InTheWay t i)
    ∧ p.ClashAfter front i e

variable {given : List (String × RawValue)} {snapshot : Snapshot}

/-- The properties cannot be read exactly if a value gives a ground. -/
theorem valueGround_iff :
    p.ValueGround given e
      ↔ ∃ cause, Snapshot.ofLayers (p.layers given) = .error cause ∧ e = .property cause := by
  -- What comes first among the layers comes first among the values of the project and the run.
  have hfirst : ∀ q v, Assignment.FirstUnsuitable (p.layers given) q v
      ↔ p.SetsUnsuitable given q v
        ∧ ∀ q' w, p.SetsUnsuitable given q' w → q' = q ∨ bytes q.key < bytes q'.key := by
    intro q v
    simp only [Assignment.FirstUnsuitable, unsuitable_layers_iff]
  constructor
  · rintro ⟨q, v, hset, hothers, rfl⟩
    exact ⟨_, Snapshot.ofLayers_eq_error_iff.mpr ⟨q, v, (hfirst q v).mpr ⟨hset, hothers⟩, rfl⟩, rfl⟩
  · rintro ⟨cause, hcause, rfl⟩
    obtain ⟨q, v, hunsuitable, rfl⟩ := Snapshot.ofLayers_eq_error_iff.mp hcause
    obtain ⟨hset, hothers⟩ := (hfirst q v).mp hunsuitable
    exact ⟨q, v, hset, hothers, rfl⟩

/-- What the layers of a project set, the project or the run sets. -/
theorem firstRemoved_layers_iff (q : Property) :
    Assignment.FirstRemoved (p.layers given) q
      ↔ p.SetsRemoved given q
        ∧ ∀ q', p.SetsRemoved given q' → q' = q ∨ bytes q.key < bytes q'.key := by
  simp only [Assignment.FirstRemoved, Assignment.SetsRemoved, SetsRemoved, isSome_last?_layers_iff]

theorem strictRefusal?_eq_some_iff (h : Snapshot.ofLayers (p.layers given) = .ok snapshot)
    (e : ProjectError) : p.strictRefusal? snapshot = some e ↔ p.RemovalGround given e := by
  simp only [strictRefusal?, RemovalGround]
  cases p.strict with
  | false => exact ⟨fun h => (nomatch h), fun h => (nomatch h.1)⟩
  | true =>
      rw [if_pos rfl, Option.map_eq_some_iff]
      constructor
      · rintro ⟨cause, hcause, rfl⟩
        obtain ⟨q, since, advice, hfirst, hstage, rfl⟩ :=
          (Snapshot.removed?_eq_some_iff h).mp hcause
        obtain ⟨hset, hothers⟩ := (firstRemoved_layers_iff q).mp hfirst
        exact ⟨rfl, q, since, advice, hset, hothers, hstage, rfl⟩
      · rintro ⟨-, q, since, advice, hset, hothers, hstage, rfl⟩
        refine ⟨.removed q.key since advice, ?_, rfl⟩
        exact (Snapshot.removed?_eq_some_iff h).mpr
          ⟨q, since, advice, (firstRemoved_layers_iff q).mpr ⟨hset, hothers⟩, hstage, rfl⟩

theorem identityRefusal?_eq_some_iff (e : ProjectError) :
    p.identityRefusal? = some e ↔ p.IdentityGround e := by
  simp only [identityRefusal?, Option.map_eq_some_iff, List.findSome?_eq_some_iff]
  constructor
  · rintro ⟨fault, ⟨front, i, back, hsplit, hfault, hfront⟩, rfl⟩
    exact ⟨front, i, back, fault, hsplit, hfront, hfault, rfl⟩
  · rintro ⟨front, i, back, fault, hsplit, hfront, hfault, rfl⟩
    exact ⟨fault, ⟨front, i, back, hsplit, hfault, hfront⟩, rfl⟩

theorem clashRefusal?_eq_some_iff (s : Snapshot) (e : ProjectError) :
    p.clashRefusal? s = some e ↔ p.ClashGround e := by
  have hapart : ∀ front : List Identity,
      Resolver.firstClash? [] (front.map (p.resolver s)) = none
        ↔ front.Pairwise fun t u => ¬ p.InTheWay t u := by
    intro front
    have hnaming : ∀ r ∈ front.map (p.resolver s), r.naming = p.naming :=
      List.forall_mem_map.mpr fun _ _ => rfl
    rw [Resolver.firstClash?_eq_none_iff List.Pairwise.nil hnaming, List.nil_append,
      pairwise_apart_iff]
  rw [clashRefusal?_eq, resolvers_eq_map, Resolver.firstClash?_eq_some_iff]
  constructor
  · rintro ⟨front', r, back', hsplit, hnone, hclash⟩
    obtain ⟨front, tail, hvariants, rfl, htail⟩ := List.map_eq_append_iff.mp hsplit
    obtain ⟨i, back, rfl, rfl, -⟩ := List.map_eq_cons_iff.mp htail
    have hfront := (hapart front).mp hnone
    exact ⟨front, i, back, hvariants, hfront, (clash?_eq_some_iff s hfront).mp hclash⟩
  · rintro ⟨front, i, back, hsplit, hfront, hclash⟩
    refine ⟨front.map (p.resolver s), p.resolver s i, back.map (p.resolver s), ?_,
      (hapart front).mpr hfront, (clash?_eq_some_iff s hfront).mpr hclash⟩
    rw [hsplit, List.map_append, List.map_cons]

/-- Once its properties are read, a project is refused on the first of the other grounds. -/
theorem refusal?_eq_some_iff (h : Snapshot.ofLayers (p.layers given) = .ok snapshot)
    (e : ProjectError) :
    p.refusal? snapshot = some e
      ↔ FirstOf [p.RemovalGround given, p.IdentityGround, p.ClashGround] e := by
  refine orElse_eq_some_iff_firstOf (strictRefusal?_eq_some_iff h) (fun e => ?_) e
  refine orElse_eq_some_iff_firstOf identityRefusal?_eq_some_iff (fun e => ?_) e
  exact (clashRefusal?_eq_some_iff snapshot e).trans (firstOf_singleton e).symm

end Project

namespace Session

/-- **THE FIRST GROUND**: a session that does not open is refused on the first ground that
    applies, and on each ground for what comes first. -/
theorem refused_on_first_ground (p : Project) (given : List (String × RawValue))
    (e : ProjectError) :
    configure p given = .error e
      ↔ FirstOf [p.ValueGround given, p.RemovalGround given, p.IdentityGround, p.ClashGround]
          e := by
  rw [configure_eq_error_iff, ← Project.valueGround_iff]
  refine or_congr_right ⟨?_, ?_⟩
  · rintro ⟨snapshot, hlayers, hrefusal⟩
    refine ⟨fun b hvalue => ?_, (Project.refusal?_eq_some_iff hlayers e).mp hrefusal⟩
    obtain ⟨cause, hcause, -⟩ := Project.valueGround_iff.mp hvalue
    rw [hlayers] at hcause
    exact nomatch hcause
  · rintro ⟨hvalues, hrest⟩
    cases hlayers : Snapshot.ofLayers (p.layers given) with
    | error cause => exact absurd (Project.valueGround_iff.mpr ⟨cause, hlayers, rfl⟩) (hvalues _)
    | ok snapshot => exact ⟨snapshot, rfl, (Project.refusal?_eq_some_iff hlayers e).mpr hrest⟩

/-- A project with something wrong in every respect: a value that does not suit its property,
    two removed properties, an identity that is not well formed and one that is repeated. -/
def faultyProject : Project where
  strict := true
  properties :=
    [("android.threadPoolSize", .integer 4), ("android.r8.maxWorkers", .text "many"),
     ("android.enableAapt2", .boolean true)]
  variants := [{ buildType := some "a/b" }, {}, {}]

/-- A run with a suitable value in place of the other. -/
def mendedRun : List (String × RawValue) := [("android.r8.maxWorkers", .text "8")]

/-- The value is refused first, and once it is mended the first removed property. -/
theorem refused_on_first_ground_faultyProject :
    faultyProject.ValueGround []
        (.property (.invalidValue (.number .shrinkerWorkers) (.text "many")))
      ∧ configure faultyProject []
        = .error (.property (.invalidValue (.number .shrinkerWorkers) (.text "many")))
      ∧ (∀ e, ¬ faultyProject.ValueGround mendedRun e)
      ∧ faultyProject.RemovalGround mendedRun
        (.property (.removed "android.enableAapt2" .before4
          "AAPT2 is the only supported resource compiler"))
      ∧ configure faultyProject mendedRun
        = .error (.property (.removed "android.enableAapt2" .before4
          "AAPT2 is the only supported resource compiler")) := by
  have hvalue : faultyProject.ValueGround []
      (.property (.invalidValue (.number .shrinkerWorkers) (.text "many"))) :=
    Project.valueGround_iff.mpr ⟨_, rfl, rfl⟩
  have hmended : Snapshot.ofLayers (faultyProject.layers mendedRun) = .ok _ := rfl
  have hsuitable : ∀ e, ¬ faultyProject.ValueGround mendedRun e := by
    intro e h
    obtain ⟨cause, hcause, -⟩ := Project.valueGround_iff.mp h
    exact nomatch hmended.symm.trans hcause
  have hremoval : faultyProject.RemovalGround mendedRun
      (.property (.removed "android.enableAapt2" .before4
        "AAPT2 is the only supported resource compiler")) :=
    (Project.strictRefusal?_eq_some_iff hmended _).mp rfl
  exact ⟨hvalue, (refused_on_first_ground _ _ _).mpr (Or.inl hvalue), hsuitable, hremoval,
    (refused_on_first_ground _ _ _).mpr (Or.inr ⟨hsuitable, Or.inl hremoval⟩)⟩

/-- A split came to the directory first, so it is the one to be named; the repetition of it
    further down is not reached. -/
example :
    configure
      { variants :=
          [{ buildType := some "debug", flavors := [⟨"store", "free"⟩], split := some "hdpi" },
           { buildType := some "debug", flavors := [⟨"store", "free"⟩] },
           { buildType := some "debug", flavors := [⟨"tier", "free"⟩] },
           { buildType := some "debug", flavors := [⟨"store", "free"⟩], split := some "hdpi" }] }
      []
      = .error (.sharedDirectory "free/debug" "freeHdpiDebug" "freeDebug") := by
  rfl

end Session

end BuildLayout
