import Mathlib.Data.List.Nodup
import Mathlib.Data.Option.Basic
import BuildLayout.Proofs.Identities
import BuildLayout.Proofs.Properties
import BuildLayout.Proofs.Registers
import BuildLayout.Proofs.Search
import BuildLayout.Session.Basic

/-! # Accepted projects

    Which projects a session opens on.  The register of variants stands for a scan that compares
    each of them with the first earlier one in its directory only (`clashRefusal?_eq`); since the
    earlier ones keep apart, that one speaks for all of them (`clash?_eq_none_iff`, one step), and
    the scan finds nothing exactly if every two variants keep apart (`firstClash?_eq_none_iff`,
    the run).

    `Project.Acceptable` says what a project needs, without the order of the checks and
    without the scan.  `configure_eq_ok_iff` is the view on an open session that everything
    else about sessions starts from, `configure_eq_error_iff` the one on a refused project. -/

namespace BuildLayout

/-! ## Variants that keep apart -/

namespace Resolver

variable {naming : Naming}

/-- Two variants that may stand in one project: their identities differ, and where
    directories follow the identity they share one only as splits of one variant. -/
def Apart (naming : Naming) (r t : Resolver) : Prop :=
  r.identity ≠ t.identity
    ∧ (naming = .dimensionAware → r.dirName = t.dirName → r.identity.SameVariant t.identity)

/-- Among variants that keep apart, those of one directory are splits of one variant. -/
theorem sameVariant_of_pairwise_apart {rs : List Resolver}
    (h : rs.Pairwise (Apart .dimensionAware)) :
    ∀ r ∈ rs, ∀ t ∈ rs, r.dirName = t.dirName → r.identity.SameVariant t.identity := by
  refine List.Pairwise.forall_of_forall_of_flip (fun r _ _ => Identity.SameVariant.refl _) ?_ ?_
  · exact h.imp fun hrt => hrt.2 rfl
  · exact h.imp fun hrt hdir => (hrt.2 rfl hdir.symm).symm

/-- **THE FIRST OWNER SPEAKS FOR ALL**: agreeing with the first earlier variant in the
    directory is agreeing with every earlier one there. -/
theorem agrees_with_owner_iff {earlier : List Resolver}
    (hearlier : earlier.Pairwise (Apart .dimensionAware)) (r : Resolver) :
    (∀ owner, earlier.find? (·.dirName == r.dirName) = some owner →
        owner.identity.SameVariant r.identity)
      ↔ ∀ e ∈ earlier, e.dirName = r.dirName → e.identity.SameVariant r.identity := by
  constructor
  · intro h e he hdir
    have hsome : (earlier.find? (·.dirName == r.dirName)).isSome = true :=
      List.find?_isSome.mpr ⟨e, he, beq_iff_eq.mpr hdir⟩
    obtain ⟨owner, howner⟩ := Option.isSome_iff_exists.mp hsome
    -- The owner stands between the two: it agrees with both.
    have hmem : owner ∈ earlier := List.mem_of_find?_eq_some howner
    have hsame : e.identity.SameVariant owner.identity :=
      sameVariant_of_pairwise_apart hearlier e he owner hmem
        (hdir.trans (key_of_find? howner).symm)
    exact hsame.trans (h owner howner)
  · intro h owner howner
    exact h owner (List.mem_of_find?_eq_some howner) (key_of_find? howner)

/-- **WHAT THE SCAN REFUSES**: the equal of an earlier variant and, where directories follow the
    identity, a variant that does not agree with the first earlier one in its directory. -/
theorem clash?_eq_some_iff {earlier : List Resolver} {r : Resolver} {e : ProjectError} :
    r.clash? earlier = some e
      ↔ (r.identity ∈ earlier.map identity ∧ e = .duplicateVariant r.variantName)
        ∨ (r.identity ∉ earlier.map identity ∧ r.naming ≠ .splitOnly
          ∧ ∃ owner, earlier.find? (·.dirName == r.dirName) = some owner
            ∧ ¬ owner.identity.SameVariant r.identity
            ∧ e = .sharedDirectory r.dirName owner.variantName r.variantName) := by
  simp only [clash?]
  by_cases hdup : r.identity ∈ earlier.map identity
  · rw [if_pos hdup]
    constructor
    · exact fun h => Or.inl ⟨hdup, (Option.some.inj h).symm⟩
    · rintro (⟨-, rfl⟩ | ⟨hnew, -⟩)
      · rfl
      · exact absurd hdup hnew
  · rw [if_neg hdup]
    by_cases hsplit : r.naming = .splitOnly
    · rw [if_pos hsplit]
      constructor
      · intro h
        cases h
      · rintro (⟨hmem, -⟩ | ⟨-, haware, -⟩)
        · exact absurd hmem hdup
        · exact absurd hsplit haware
    · rw [if_neg hsplit, Option.bind_eq_some_iff]
      constructor
      · rintro ⟨owner, howner, hrefusal⟩
        by_cases hsame : owner.identity.SameVariant r.identity
        · rw [if_pos hsame] at hrefusal
          cases hrefusal
        · rw [if_neg hsame] at hrefusal
          exact Or.inr ⟨hdup, hsplit, owner, howner, hsame, (Option.some.inj hrefusal).symm⟩
      · rintro (⟨hmem, -⟩ | ⟨-, -, owner, howner, hsame, rfl⟩)
        · exact absurd hmem hdup
        · exact ⟨owner, howner, if_neg hsame⟩

/-- **STEP OF THE SCAN**: a variant clashes with none of the earlier ones exactly if it keeps
    apart from each. -/
theorem clash?_eq_none_iff {earlier : List Resolver} (hearlier : earlier.Pairwise (Apart naming))
    {r : Resolver} (hr : r.naming = naming) :
    r.clash? earlier = none ↔ ∀ e ∈ earlier, Apart naming e r := by
  rw [Option.eq_none_iff_forall_ne_some]
  constructor
  · intro h e he
    have hnew : r.identity ∉ earlier.map identity :=
      fun hdup => h _ (clash?_eq_some_iff.mpr (Or.inl ⟨hdup, rfl⟩))
    refine ⟨fun heq => hnew (heq ▸ List.mem_map_of_mem he), ?_⟩
    rintro rfl
    have haware : r.naming ≠ .splitOnly := by
      rw [hr]
      exact nofun
    refine (agrees_with_owner_iff hearlier r).mp ?_ e he
    intro owner howner
    by_contra hsame
    exact h _ (clash?_eq_some_iff.mpr (Or.inr ⟨hnew, haware, owner, howner, hsame, rfl⟩))
  · intro h refusal hclash
    rcases clash?_eq_some_iff.mp hclash with ⟨hdup, -⟩ | ⟨-, haware, owner, howner, hsame, -⟩
    · obtain ⟨e, he, heq⟩ := List.mem_map.mp hdup
      exact (h e he).1 heq
    · rw [hr] at haware
      have hnaming : naming = .dimensionAware := by
        cases naming with
        | dimensionAware => rfl
        | splitOnly => exact absurd rfl haware
      exact hsame ((h owner (List.mem_of_find?_eq_some howner)).2 hnaming (key_of_find? howner))

/-- **RUN OF THE SCAN**: it finds no clash exactly if every two variants keep apart. -/
theorem firstClash?_eq_none_iff {earlier rest : List Resolver}
    (hearlier : earlier.Pairwise (Apart naming)) (hrest : ∀ r ∈ rest, r.naming = naming) :
    firstClash? earlier rest = none ↔ (earlier ++ rest).Pairwise (Apart naming) := by
  -- The earlier variants keep apart from each other: that is the invariant of the scan.
  induction rest generalizing earlier with
  | nil =>
      rw [List.append_nil]
      exact ⟨fun _ => hearlier, fun _ => rfl⟩
  | cons r rest ih =>
      have hr := hrest r (List.mem_cons_self ..)
      have hgrow : (∀ e ∈ earlier, Apart naming e r)
          ↔ (earlier ++ [r]).Pairwise (Apart naming) := by
        rw [List.pairwise_append]
        constructor
        · intro h
          refine ⟨hearlier, List.pairwise_singleton _ _, ?_⟩
          intro e he t ht
          rw [List.mem_singleton.mp ht]
          exact h e he
        · intro h e he
          exact h.2.2 e he r (List.mem_singleton.mpr rfl)
      have hassoc : earlier ++ r :: rest = (earlier ++ [r]) ++ rest := by
        rw [List.append_assoc]
        rfl
      show (r.clash? earlier <|> firstClash? (earlier ++ [r]) rest) = none ↔ _
      rw [orElse_eq_none_iff, clash?_eq_none_iff hearlier hr, hgrow, hassoc]
      constructor
      · rintro ⟨hnew, hscan⟩
        exact (ih hnew fun t ht => hrest t (List.mem_cons_of_mem _ ht)).mp hscan
      · intro h
        have hnew : (earlier ++ [r]).Pairwise (Apart naming) := (List.pairwise_append.mp h).1
        exact ⟨hnew, (ih hnew fun t ht => hrest t (List.mem_cons_of_mem _ ht)).mpr h⟩

/-- **RUN OF THE SCAN**: it stops at the first variant with a clash. -/
theorem firstClash?_eq_some_iff {earlier rest : List Resolver} {e : ProjectError} :
    firstClash? earlier rest = some e
      ↔ ∃ front r back, rest = front ++ r :: back ∧ firstClash? earlier front = none
          ∧ r.clash? (earlier ++ front) = some e := by
  induction rest generalizing earlier with
  | nil =>
      refine ⟨fun h => (nomatch h), ?_⟩
      rintro ⟨front, r, back, hsplit, -⟩
      exact absurd hsplit.symm (List.append_ne_nil_of_right_ne_nil front (List.cons_ne_nil r back))
  | cons t rest ih =>
      have hstep : firstClash? earlier (t :: rest)
          = (t.clash? earlier <|> firstClash? (earlier ++ [t]) rest) := rfl
      rw [hstep, Option.orElse_eq_some, ih]
      constructor
      · rintro (hhere | ⟨hnone, front, r, back, rfl, hfront, hclash⟩)
        · refine ⟨[], t, rest, rfl, rfl, ?_⟩
          rw [List.append_nil]
          exact hhere
        · refine ⟨t :: front, r, back, rfl, orElse_eq_none_iff.mpr ⟨hnone, hfront⟩, ?_⟩
          rw [List.append_assoc] at hclash
          exact hclash
      · rintro ⟨front, r, back, hsplit, hfront, hclash⟩
        cases front with
        | nil =>
            obtain ⟨rfl, rfl⟩ := List.cons.inj hsplit
            rw [List.append_nil] at hclash
            exact Or.inl hclash
        | cons u front =>
            obtain ⟨rfl, rfl⟩ := List.cons.inj hsplit
            obtain ⟨hnone, hfront⟩ := orElse_eq_none_iff.mp hfront
            refine Or.inr ⟨hnone, front, r, back, rfl, hfront, ?_⟩
            rw [List.append_assoc]
            exact hclash

end Resolver

/-! ## Resolvers of a project -/

namespace Project

variable {p : Project} {given : List (String × RawValue)} {snapshot : Snapshot}

/-- The resolver that a project gives one of its variants. -/
def resolver (p : Project) (s : Snapshot) (i : Identity) : Resolver where
  identity := i
  root := p.buildRoot
  naming := p.naming
  overrides := s.overrides p.directory
  signing := p.signing

theorem resolvers_eq_map (p : Project) (s : Snapshot) :
    p.resolvers s = p.variants.map (p.resolver s) := rfl

/-- The segments of a well-formed variant can be walked down. -/
theorem isSegment_resolver (p : Project) (s : Snapshot) {i : Identity} (h : i.WellFormed) :
    ∀ u ∈ (p.resolver s i).segments, IsSegment u :=
  h.isSegment p.naming

/-! ## What a project needs -/

/-- What a session asks of a project and the property values given for one run. -/
structure Acceptable (p : Project) (given : List (String × RawValue)) : Prop where
  /-- Every property has a suitable value. -/
  readable : ∃ snapshot, Snapshot.ofLayers (p.layers given) = .ok snapshot
  /-- A strict project and the run set no removed property. -/
  supported : p.strict = true → ∀ name ∈ (p.properties ++ given).map Prod.fst,
    ∀ q, Property.ofKey? name = some q → q.stage.isRemoved = false
  wellFormed : ∀ i ∈ p.variants, i.WellFormed
  distinct : p.variants.Nodup
  /-- Where directories follow the identity, only splits of one variant share one. -/
  apart : p.naming = .dimensionAware → ∀ i ∈ p.variants, ∀ j ∈ p.variants,
    i.dirName p.naming = j.dirName p.naming → i.SameVariant j

theorem naming_of_mem_resolvers {s : Snapshot} : ∀ r ∈ p.resolvers s, r.naming = p.naming := by
  intro r hr
  obtain ⟨i, -, rfl⟩ := List.mem_map.mp hr
  rfl

/-- Registering the variants of a project fails with the first clash among them. -/
theorem clashRefusal?_eq (p : Project) (s : Snapshot) :
    p.clashRefusal? s = Resolver.firstClash? [] (p.resolvers s) :=
  (Register.remembers_empty p.naming).refusal?_eq naming_of_mem_resolvers

/-- The variants of a project get into each other's way in no pair. -/
theorem clashRefusal?_eq_none_iff (p : Project) (s : Snapshot) :
    p.clashRefusal? s = none
      ↔ p.variants.Nodup ∧ (p.naming = .dimensionAware → ∀ i ∈ p.variants, ∀ j ∈ p.variants,
          i.dirName p.naming = j.dirName p.naming → i.SameVariant j) := by
  rw [clashRefusal?_eq, Resolver.firstClash?_eq_none_iff List.Pairwise.nil naming_of_mem_resolvers,
    List.nil_append, resolvers_eq_map, List.pairwise_map]
  constructor
  · intro h
    obtain ⟨hne, hdir⟩ := List.pairwise_and_iff.mp h
    refine ⟨hne, fun haware => ?_⟩
    -- The scan meets each pair in declared order only; being splits of one variant is symmetric.
    refine List.Pairwise.forall_of_forall_of_flip (fun i _ _ => Identity.SameVariant.refl i) ?_ ?_
    · exact hdir.imp fun hij => hij haware
    · exact hdir.imp fun hij heq => (hij haware heq.symm).symm
  · rintro ⟨hne, hdir⟩
    refine List.pairwise_and_iff.mpr ⟨hne, ?_⟩
    have hpairs : p.variants.Pairwise fun _ _ => True := List.pairwise_of_forall fun _ _ => trivial
    exact hpairs.imp_of_mem fun hi hj _ haware => hdir haware _ hi _ hj

/-- A strict project is refused if it or the run names a removed property. -/
theorem strictRefusal?_eq_none_iff (h : Snapshot.ofLayers (p.layers given) = .ok snapshot) :
    p.strictRefusal? snapshot = none
      ↔ (p.strict = true → ∀ name ∈ (p.properties ++ given).map Prod.fst,
          ∀ q, Property.ofKey? name = some q → q.stage.isRemoved = false) := by
  have hlayers : snapshot.removed? = none ↔ ∀ name ∈ (p.properties ++ given).map Prod.fst,
      ∀ q, Property.ofKey? name = some q → q.stage.isRemoved = false := by
    rw [Snapshot.removed?_eq_none_iff_layers h, List.map_append]
    simp only [Project.layers, List.forall_mem_cons, List.forall_mem_append, List.not_mem_nil,
      false_imp_iff, implies_true, and_true]
  show (if p.strict then snapshot.removed?.map ProjectError.property else none) = none ↔ _
  cases p.strict with
  | false => exact ⟨fun _ h => (nomatch h), fun _ => rfl⟩
  | true =>
      rw [if_pos rfl, Option.map_eq_none_iff, hlayers]
      exact ⟨fun h _ => h, fun h => h rfl⟩

theorem identityRefusal?_eq_none_iff (p : Project) :
    p.identityRefusal? = none ↔ ∀ i ∈ p.variants, i.WellFormed := by
  show (p.variants.findSome? Identity.fault?).map _ = none ↔ _
  rw [Option.map_eq_none_iff, List.findSome?_eq_none_iff]
  rfl

/-- Once its properties are read, a project is refused for nothing else. -/
theorem refusal?_eq_none_iff (h : Snapshot.ofLayers (p.layers given) = .ok snapshot) :
    p.refusal? snapshot = none ↔ p.Acceptable given := by
  show (p.strictRefusal? snapshot <|> p.identityRefusal? <|> p.clashRefusal? snapshot) = none ↔ _
  rw [orElse_eq_none_iff, orElse_eq_none_iff, strictRefusal?_eq_none_iff h,
    identityRefusal?_eq_none_iff, clashRefusal?_eq_none_iff]
  constructor
  · rintro ⟨hstrict, hwell, hdistinct, hapart⟩
    exact ⟨⟨snapshot, h⟩, hstrict, hwell, hdistinct, hapart⟩
  · intro hp
    exact ⟨hp.supported, hp.wellFormed, hp.distinct, hp.apart⟩

end Project

/-! ## Open sessions -/

namespace Session

variable {p : Project} {given : List (String × RawValue)} {s : Session}

/-- With its properties read, a project is refused for its first fault or opened. -/
theorem configure_of_layers {snapshot : Snapshot}
    (h : Snapshot.ofLayers (p.layers given) = .ok snapshot) :
    configure p given = match p.refusal? snapshot with
      | some e => .error e
      | none => .ok ⟨p, snapshot, p.resolvers snapshot⟩ := by
  cases hrefusal : p.refusal? snapshot with
  | none => simp only [configure, h, hrefusal]
  | some e => simp only [configure, h, hrefusal]

/-- A session does not open if its properties cannot be read, or for the first fault after. -/
theorem configure_eq_error_iff {e : ProjectError} :
    configure p given = .error e
      ↔ (∃ cause, Snapshot.ofLayers (p.layers given) = .error cause ∧ e = .property cause)
        ∨ ∃ snapshot, Snapshot.ofLayers (p.layers given) = .ok snapshot
            ∧ p.refusal? snapshot = some e := by
  simp only [configure]
  cases Snapshot.ofLayers (p.layers given) with
  | error cause =>
      constructor
      · exact fun h => Or.inl ⟨cause, rfl, (Except.error.inj h).symm⟩
      · rintro (⟨_, ⟨rfl⟩, rfl⟩ | ⟨_, hlayers, -⟩)
        · rfl
        · exact nomatch hlayers
  | ok snapshot =>
      constructor
      · intro h
        refine Or.inr ⟨snapshot, rfl, ?_⟩
        cases hrefusal : p.refusal? snapshot with
        | some cause =>
            simp only [hrefusal] at h
            exact congrArg some (Except.error.inj h)
        | none =>
            simp only [hrefusal] at h
            exact nomatch h
      · rintro (⟨_, hlayers, -⟩ | ⟨_, ⟨rfl⟩, hrefusal⟩)
        · exact nomatch hlayers
        · simp only [hrefusal]

/-- **OPEN SESSIONS**: a session is open on an acceptable project, with the snapshot of its
    layers and one resolver for each variant. -/
theorem configure_eq_ok_iff :
    configure p given = .ok s
      ↔ p.Acceptable given ∧ Snapshot.ofLayers (p.layers given) = .ok s.snapshot
        ∧ s.project = p ∧ s.resolvers = p.variants.map (p.resolver s.snapshot) := by
  constructor
  · intro h
    cases hlayers : Snapshot.ofLayers (p.layers given) with
    | error e =>
        simp only [configure, hlayers] at h
        exact nomatch h
    | ok snapshot =>
        rw [configure_of_layers hlayers] at h
        cases hrefusal : p.refusal? snapshot with
        | some e =>
            rw [hrefusal] at h
            exact nomatch h
        | none =>
            rw [hrefusal] at h
            rw [← Except.ok.inj h]
            exact ⟨(Project.refusal?_eq_none_iff hlayers).mp hrefusal, rfl, rfl,
              Project.resolvers_eq_map p snapshot⟩
  · rintro ⟨hp, hlayers, hproject, hresolvers⟩
    rw [configure_of_layers hlayers, (Project.refusal?_eq_none_iff hlayers).mpr hp]
    show Except.ok _ = Except.ok s
    rw [← hproject, Project.resolvers_eq_map, hproject, ← hresolvers, ← hproject]

/-- The resolvers of an open session belong to the declared variants. -/
theorem exists_variant_of_mem (h : configure p given = .ok s) {r : Resolver}
    (hr : r ∈ s.resolvers) :
    ∃ i ∈ p.variants, i.WellFormed ∧ p.resolver s.snapshot i = r := by
  obtain ⟨hp, -, -, hresolvers⟩ := configure_eq_ok_iff.mp h
  rw [hresolvers] at hr
  obtain ⟨i, hi, rfl⟩ := List.mem_map.mp hr
  exact ⟨i, hi, hp.wellFormed i hi, rfl⟩

/-- The resolvers stand for the declared variants, in declared order. -/
theorem map_identity (h : configure p given = .ok s) :
    s.resolvers.map Resolver.identity = p.variants := by
  obtain ⟨-, -, -, hresolvers⟩ := configure_eq_ok_iff.mp h
  rw [hresolvers, List.map_map]
  exact List.map_id _

/-- A session opens on every acceptable project. -/
theorem exists_configure (h : p.Acceptable given) : ∃ s, configure p given = .ok s := by
  obtain ⟨snapshot, hlayers⟩ := h.readable
  exact ⟨⟨p, snapshot, p.resolvers snapshot⟩,
    configure_eq_ok_iff.mpr ⟨h, hlayers, rfl, Project.resolvers_eq_map p snapshot⟩⟩

/-- **ACCEPTANCE**: a session opens exactly on the acceptable projects.  It has one resolver
    for each declared variant, in declared order, and where directories follow the identity
    two variants share one exactly if they are splits of one variant. -/
theorem configure_accepts_iff (p : Project) (given : List (String × RawValue)) :
    ((∃ s, configure p given = .ok s) ↔ p.Acceptable given)
      ∧ ∀ s, configure p given = .ok s →
          s.resolvers.map Resolver.identity = p.variants
          ∧ (∀ r ∈ s.resolvers, r.dirName = r.identity.dirName p.naming)
          ∧ (p.naming = .dimensionAware → ∀ r ∈ s.resolvers, ∀ t ∈ s.resolvers,
              (r.dirName = t.dirName ↔ r.identity.SameVariant t.identity)) := by
  refine ⟨⟨?_, exists_configure⟩, ?_⟩
  · rintro ⟨s, hs⟩
    exact (configure_eq_ok_iff.mp hs).1
  · intro s hs
    have hp : p.Acceptable given := (configure_eq_ok_iff.mp hs).1
    refine ⟨map_identity hs, ?_, ?_⟩
    · intro r hr
      obtain ⟨i, -, -, rfl⟩ := exists_variant_of_mem hs hr
      rfl
    · intro haware r hr t ht
      obtain ⟨i, hi, -, rfl⟩ := exists_variant_of_mem hs hr
      obtain ⟨j, hj, -, rfl⟩ := exists_variant_of_mem hs ht
      constructor
      · exact hp.apart haware i hi j hj
      · intro hsame
        exact Identity.SameVariant.dirName_eq hsame p.naming

end Session

end BuildLayout
