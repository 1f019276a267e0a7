import Mathlib.Data.List.Forall2
import BuildLayout.Project.Reading
import BuildLayout.Proofs.Search

/-! # What a document describes

    Reading a project goes from field to field and stops at the first that is of the wrong
    kind.  Here it is said without any order which projects a document describes: every field
    that is there has the form of its kind, every field that is not has its default
    (`Project.Described`).  The relations follow the parts of a project; a list is described
    item by item, and the properties are those whose written form the table holds.

    Reading finds exactly what is described (`ofEntries?_eq_some_iff`), so a document describes
    one project or none, and what comes of it depends on that alone (`ofDocument_eq_ok_iff` and
    the two cases of failure behind it). -/

namespace BuildLayout

open Document

/-! ## Lists and fields -/

/-- Where every part has its reading, so has the whole, and only there. -/
theorem mapM_eq_some_iff_forall₂ {α β : Type} {f : α → Option β} {R : α → β → Prop}
    (h : ∀ x y, f x = some y ↔ R x y) {xs : List α} {ys : List β} :
    xs.mapM f = some ys ↔ List.Forall₂ R xs ys := by
  induction xs generalizing ys with
  | nil =>
      rw [List.mapM_nil, List.forall₂_nil_left_iff]
      exact ⟨fun h => (Option.some.inj h).symm, fun h => congrArg some h.symm⟩
  | cons x rest ih =>
      simp only [List.mapM_cons, List.forall₂_cons_left_iff, Option.bind_eq_bind,
        Option.bind_eq_some_iff, h, ih]
      constructor
      · rintro ⟨y, hy, ys', hrest, heq⟩
        exact ⟨y, ys', hy, hrest, (Option.some.inj heq).symm⟩
      · rintro ⟨y, ys', hy, hrest, rfl⟩
        exact ⟨y, hy, ys', hrest, rfl⟩

/-- What a field that may be left out stands for: its default, or what its value is. -/
inductive FieldIs {α : Type} (default : α) (Is : Value → α → Prop) : Option Value → α → Prop where
  | absent : FieldIs default Is none default
  | present {v : Value} {a : α} (h : Is v a) : FieldIs default Is (some v) a

theorem fieldIs_none_iff {α : Type} {default a : α} {Is : Value → α → Prop} :
    FieldIs default Is none a ↔ default = a :=
  ⟨fun .absent => rfl, fun h => h ▸ .absent⟩

theorem fieldIs_some_iff {α : Type} {default a : α} {Is : Value → α → Prop} {v : Value} :
    FieldIs default Is (some v) a ↔ Is v a :=
  ⟨fun (.present h) => h, .present⟩

theorem fieldOr_eq_some_iff {α : Type} {default : α} {read : Value → Option α}
    {Is : Value → α → Prop} (h : ∀ v a, read v = some a ↔ Is v a) {found : Option Value} {a : α} :
    fieldOr default read found = some a ↔ FieldIs default Is found a := by
  cases found with
  | none => exact Option.some_inj.trans fieldIs_none_iff.symm
  | some v => exact (h v a).trans fieldIs_some_iff.symm

/-- The value is a list whose items are described one by one. -/
def ItemsAre {α : Type} (Is : Value → α → Prop) (v : Value) (as : List α) : Prop :=
  ∃ items, v = .array items ∧ List.Forall₂ Is items as

theorem items?_mapM_eq_some_iff {α : Type} {read : Value → Option α} {Is : Value → α → Prop}
    (h : ∀ v a, read v = some a ↔ Is v a) (v : Value) (as : List α) :
    v.items?.bind (·.mapM read) = some as ↔ ItemsAre Is v as := by
  rw [Option.bind_eq_some_iff]
  constructor
  · rintro ⟨items, hitems, hread⟩
    cases v with
    | array _ =>
        obtain rfl := Option.some.inj hitems
        exact ⟨_, rfl, (mapM_eq_some_iff_forall₂ h).mp hread⟩
    | _ => exact nomatch hitems
  · rintro ⟨items, rfl, hitems⟩
    exact ⟨items, rfl, (mapM_eq_some_iff_forall₂ h).mpr hitems⟩

/-! ## Texts, flags and choices -/

namespace Document.Value

theorem text?_eq_some_iff (v : Value) (s : String) : v.text? = some s ↔ v = .text s := by
  cases v <;> simp [text?]

theorem boolean?_eq_some_iff (v : Value) (b : Bool) : v.boolean? = some b ↔ v = .boolean b := by
  cases v <;> simp [boolean?]

/-- The value names the choice: as a text, or as the one key of a table with nothing in it. -/
inductive Names (choice : String) : Value → Prop where
  | text : Names choice (.text choice)
  | key : Names choice (.table [(choice, .table [])])
  | keyOfList : Names choice (.table [(choice, .array [])])

theorem choice?_eq_some_iff (v : Value) (choice : String) :
    v.choice? = some choice ↔ Names choice v := by
  constructor
  · intro h
    simp only [choice?] at h
    split at h
    · obtain rfl := Option.some.inj h
      exact .text
    · obtain rfl := Option.some.inj h
      exact .key
    · obtain rfl := Option.some.inj h
      exact .keyOfList
    · exact nomatch h
  · rintro (_ | _ | _) <;> rfl

end Document.Value

/-- The value that a document has for a raw value. -/
def RawValue.written : RawValue → Value
  | .boolean b => .boolean b
  | .integer n => .integer n
  | .float d => .float d
  | .text s => .text s

theorem raw?_eq_some_iff (v : Value) (r : RawValue) : v.raw? = some r ↔ v = r.written := by
  cases v <;> cases r <;> simp [Value.raw?, RawValue.written]

/-! ## Parts of a project -/

/-- The value names the naming policy. -/
def Naming.Described (v : Value) (n : Naming) : Prop := v.Names n.tag

theorem Naming.ofValue?_eq_some_iff (v : Value) (n : Naming) :
    ofValue? v = some n ↔ Described v n := by
  have hnodup : ([Naming.dimensionAware, .splitOnly].map Naming.tag).Nodup := by decide
  have hmem : n ∈ [Naming.dimensionAware, .splitOnly] := by cases n <;> decide
  simp only [ofValue?, Option.bind_eq_some_iff, Value.choice?_eq_some_iff,
    find?_eq_some_iff_of_nodup Naming.tag hnodup, hmem, true_and]
  constructor
  · rintro ⟨_, hv, rfl⟩
    exact hv
  · exact fun hv => ⟨_, hv, rfl⟩

/-- The policy on signing that the value holds: a table with the name of the policy and, if the
    signing is known, what is known, or a list of these. -/
inductive Signing.Described : Value → Signing → Prop where
  | unsigned {entries : List (String × Value)}
      (policy : entries.lookup "policy" = some (.text "always-unsigned")) :
      Described (.table entries) .alwaysUnsigned
  | readiness {entries : List (String × Value)} {signed baseModule : Bool}
      (policy : entries.lookup "policy" = some (.text "readiness"))
      (isSigned : entries.lookup "signed" = some (.boolean signed))
      (isBase : entries.lookup "base_module" = some (.boolean baseModule)) :
      Described (.table entries) (.readiness signed baseModule)
  | unsignedList : Described (.array [.text "always-unsigned"]) .alwaysUnsigned
  | readinessList {signed baseModule : Bool} :
      Described (.array [.text "readiness", .boolean signed, .boolean baseModule])
        (.readiness signed baseModule)

theorem Document.key_mem_of_lookup {entries : List (String × Value)} {key : String} {v : Value}
    (h : entries.lookup key = some v) : key ∈ entries.map Prod.fst := by
  obtain ⟨front, back, rfl, -⟩ := List.lookup_eq_some_iff.mp h
  rw [List.map_append]
  exact List.mem_append_right _ (List.mem_cons_self ..)

/-- Entries under any key but that of a moment are those of a table. -/
theorem Document.Value.eq_table_of_entries? {v w : Value} {entries : List (String × Value)}
    {key : String} (h : v.entries? = some entries) (hkey : key ≠ momentKey)
    (hfound : entries.lookup key = some w) : v = .table entries := by
  cases v with
  | table _ => exact congrArg Value.table (Option.some.inj h)
  | moment m =>
      obtain rfl := Option.some.inj h
      rw [List.lookup_cons, beq_eq_false_iff_ne.mpr hkey] at hfound
      exact nomatch hfound
  | _ => exact nomatch h

theorem Signing.ofValue?_eq_some_iff (v : Value) (s : Signing) :
    ofValue? v = some s ↔ Described v s := by
  constructor
  · intro h
    simp only [ofValue?] at h
    split at h
    · obtain rfl := Option.some.inj h
      exact .unsignedList
    · obtain rfl := Option.some.inj h
      exact .readinessList
    · exact nomatch h
    · simp only [Option.bind_eq_bind, Option.bind_eq_some_iff, Value.text?_eq_some_iff] at h
      obtain ⟨entries, hentries, _, hpolicy, policy, rfl, hkind⟩ := h
      rw [Value.eq_table_of_entries? hentries (by decide) hpolicy]
      split at hkind
      · obtain rfl := Option.some.inj hkind
        exact .unsigned hpolicy
      · simp only [Option.bind_eq_some_iff, Value.boolean?_eq_some_iff] at hkind
        obtain ⟨_, hsigned, signed, rfl, _, hbase, baseModule, rfl, hs⟩ := hkind
        rw [← Option.some.inj hs]
        exact .readiness hpolicy hsigned hbase
      · exact nomatch hkind
  · rintro (policy | ⟨policy, isSigned, isBase⟩ | _ | _)
    · simp [ofValue?, Value.entries?, policy, Value.text?]
    · simp [ofValue?, Value.entries?, policy, isSigned, isBase, Value.text?, Value.boolean?]
    · rfl
    · rfl

/-- The value holds the two tokens of a component: a table of exactly these, or a list that
    starts with them. -/
inductive Component.HasTokens : Value → String → String → Prop where
  | table {entries : List (String × Value)} {lead tail : String}
      (keys : ∀ key, key ∈ entries.map Prod.fst ↔ key = "prefix" ∨ key = "suffix")
      (isLead : entries.lookup "prefix" = some (.text lead))
      (isTail : entries.lookup "suffix" = some (.text tail)) :
      HasTokens (.table entries) lead tail
  | list {lead tail : String} {rest : List Value} :
      HasTokens (.array (.text lead :: .text tail :: rest)) lead tail

/-- No key but those of the two tokens. -/
theorem Component.any_other_key_eq_false_iff (entries : List (String × Value)) :
    (entries.any fun (key, _) => key != "prefix" && key != "suffix") = false
      ↔ ∀ key ∈ entries.map Prod.fst, key = "prefix" ∨ key = "suffix" := by
  simp only [List.any_eq_false, List.forall_mem_map, Bool.and_eq_true, bne_iff_ne, ne_eq,
    ← not_or, not_not]

theorem Component.nested?_eq_some_iff (v : Value) (c : Component) :
    nested? v = some c ↔ ∃ lead tail, c = .nested lead tail ∧ HasTokens v lead tail := by
  constructor
  · intro h
    simp only [nested?] at h
    split at h
    · obtain rfl := Option.some.inj h
      exact ⟨_, _, rfl, .list⟩
    · rename_i entries
      split at h
      · exact nomatch h
      · rename_i hany
        simp only [Option.bind_eq_bind, Option.bind_eq_some_iff, Value.text?_eq_some_iff] at h
        obtain ⟨_, hlead, lead, rfl, _, htail, tail, rfl, hc⟩ := h
        have honly := (any_other_key_eq_false_iff entries).mp (Bool.eq_false_iff.mpr hany)
        rw [← Option.some.inj hc]
        refine ⟨lead, tail, rfl, .table (fun key => ⟨honly key, ?_⟩) hlead htail⟩
        rintro (rfl | rfl)
        · exact key_mem_of_lookup hlead
        · exact key_mem_of_lookup htail
    · exact nomatch h
  · rintro ⟨lead, tail, rfl, ⟨keys, isLead, isTail⟩ | _⟩
    · have honly := (any_other_key_eq_false_iff _).mpr fun key => (keys key).mp
      simp [nested?, honly, isLead, isTail, Value.text?]
    · rfl

/-- The component that the value names, or whose tokens it holds as those of a nested one. -/
inductive Component.Described : Value → Component → Prop where
  | main {v : Value} (h : v.Names "main") : Described v .main
  | unitTest {v : Value} (h : v.Names "unit-test") : Described v .unitTest
  | androidTest {v : Value} (h : v.Names "android-test") : Described v .androidTest
  | testFixtures {v : Value} (h : v.Names "test-fixtures") : Described v .testFixtures
  | nested {tokens : Value} {lead tail : String} (h : HasTokens tokens lead tail) :
      Described (.table [("nested", tokens)]) (.nested lead tail)

theorem Component.ofValue?_eq_some_iff (v : Value) (c : Component) :
    ofValue? v = some c ↔ Described v c := by
  constructor
  · intro h
    simp only [ofValue?] at h
    split at h
    · obtain ⟨lead, tail, rfl, htokens⟩ := (nested?_eq_some_iff _ _).mp h
      exact .nested htokens
    · obtain ⟨tag, hchoice, htag⟩ := Option.bind_eq_some_iff.mp h
      have hnames := (Value.choice?_eq_some_iff v tag).mp hchoice
      simp only [ofTag?] at htag
      split at htag
      · obtain rfl := Option.some.inj htag
        exact .main hnames
      · obtain rfl := Option.some.inj htag
        exact .unitTest hnames
      · obtain rfl := Option.some.inj htag
        exact .androidTest hnames
      · obtain rfl := Option.some.inj htag
        exact .testFixtures hnames
      · exact nomatch htag
  · rintro (h | h | h | h | htokens)
    case nested => exact (nested?_eq_some_iff _ _).mpr ⟨_, _, rfl, htokens⟩
    all_goals cases h <;> rfl

/-- The value holds the two fields of a flavor. -/
def Flavor.Described (v : Value) (f : Flavor) : Prop :=
  ∃ field, v.record? = some field ∧ field 0 "dimension" = some (.text f.dimension)
    ∧ field 1 "name" = some (.text f.name)

theorem Flavor.ofValue?_eq_some_iff (v : Value) (f : Flavor) :
    ofValue? v = some f ↔ Described v f := by
  simp only [ofValue?, Option.bind_eq_bind, Option.bind_eq_some_iff, Value.text?_eq_some_iff]
  constructor
  · rintro ⟨field, hfield, _, hdimension, dimension, rfl, _, hname, name, rfl, hf⟩
    rw [← Option.some.inj hf]
    exact ⟨field, hfield, hdimension, hname⟩
  · rintro ⟨field, hfield, hdimension, hname⟩
    exact ⟨field, hfield, _, hdimension, _, rfl, _, hname, _, rfl, rfl⟩

/-- The value is the text that is there. -/
def TextIs (v : Value) (s : Option String) : Prop := s.map .text = some v

theorem text?_map_eq_some_iff (v : Value) (s : Option String) :
    v.text?.map some = some s ↔ TextIs v s := by
  simp only [TextIs, Option.map_eq_some_iff, Value.text?_eq_some_iff]
  exact ⟨fun ⟨t, hv, hs⟩ => ⟨t, hs.symm, hv.symm⟩, fun ⟨t, hs, hv⟩ => ⟨t, hv.symm, hs.symm⟩⟩

/-- The value holds the fields of an identity, of which each may be left out. -/
def Identity.Described (v : Value) (i : Identity) : Prop :=
  ∃ field, v.record? = some field
    ∧ FieldIs none TextIs (field 0 "build_type") i.buildType
    ∧ FieldIs [] (ItemsAre Flavor.Described) (field 1 "flavors") i.flavors
    ∧ FieldIs .main Component.Described (field 2 "component") i.component
    ∧ FieldIs none TextIs (field 3 "split") i.split

theorem Identity.ofValue?_eq_some_iff (v : Value) (i : Identity) :
    ofValue? v = some i ↔ Described v i := by
  simp only [ofValue?, Option.bind_eq_bind, Option.bind_eq_some_iff,
    fieldOr_eq_some_iff text?_map_eq_some_iff, fieldOr_eq_some_iff Component.ofValue?_eq_some_iff,
    fieldOr_eq_some_iff (items?_mapM_eq_some_iff Flavor.ofValue?_eq_some_iff)]
  constructor
  · rintro ⟨field, hfield, _, hbuildType, _, hflavors, _, hcomponent, _, hsplit, hi⟩
    rw [← Option.some.inj hi]
    exact ⟨field, hfield, hbuildType, hflavors, hcomponent, hsplit⟩
  · rintro ⟨field, hfield, hbuildType, hflavors, hcomponent, hsplit⟩
    exact ⟨field, hfield, _, hbuildType, _, hflavors, _, hcomponent, _, hsplit, rfl⟩

/-- A table has the fields of an identity by name. -/
theorem Identity.described_table_iff {entries : List (String × Value)} {i : Identity} :
    Described (.table entries) i
      ↔ FieldIs none TextIs (entries.lookup "build_type") i.buildType
        ∧ FieldIs [] (ItemsAre Flavor.Described) (entries.lookup "flavors") i.flavors
        ∧ FieldIs .main Component.Described (entries.lookup "component") i.component
        ∧ FieldIs none TextIs (entries.lookup "split") i.split := by
  constructor
  · rintro ⟨field, hfield, h⟩
    obtain rfl := Option.some.inj hfield
    exact h
  · exact fun h => ⟨_, rfl, h⟩

/-- The value holds the properties: under each key, the value of the property as written. -/
def PropertiesAre (v : Value) (properties : List (String × RawValue)) : Prop :=
  v.entries? = some (properties.map fun (key, r) => (key, r.written))

theorem properties?_eq_some_iff (v : Value) (properties : List (String × RawValue)) :
    properties? v = some properties ↔ PropertiesAre v properties := by
  -- What one entry of the table says of a property.
  have hentry : ∀ (entry : String × Value) (p : String × RawValue),
      (entry.2.raw?.map (entry.1, ·)) = some p ↔ entry = (p.1, p.2.written) := by
    rintro ⟨key, w⟩ ⟨name, r⟩
    simp only [Option.map_eq_some_iff, raw?_eq_some_iff, Prod.mk.injEq]
    exact ⟨fun ⟨_, hw, hkey, hr⟩ => ⟨hkey, hr ▸ hw⟩, fun ⟨hkey, hw⟩ => ⟨r, hw, hkey, rfl⟩⟩
  simp only [properties?, PropertiesAre, Option.bind_eq_bind, Option.bind_eq_some_iff,
    mapM_eq_some_iff_forall₂ hentry]
  constructor
  · rintro ⟨entries, hentries, hall⟩
    rw [hentries, (List.forall₂_eq_eq_eq ▸ List.forall₂_map_right_iff.mpr hall : entries = _)]
  · intro hentries
    refine ⟨_, hentries, ?_⟩
    rw [List.forall₂_map_left_iff, List.forall₂_same]
    exact fun _ _ => rfl

/-! ## Projects -/

namespace Project

/-- The project that the entries of a document describe in a directory. -/
structure Described (directory : Location) (entries : List (String × Value)) (p : Project) :
    Prop where
  directory : p.directory = directory
  archivesName :
    FieldIs "app" (fun v s => v = .text s) (entries.lookup "archives_base_name") p.archivesName
  buildDirectory :
    FieldIs "build" (fun v s => v = .text s) (entries.lookup "build_dir") p.buildDirectory
  naming : FieldIs .dimensionAware Naming.Described (entries.lookup "naming") p.naming
  signing : FieldIs .alwaysUnsigned Signing.Described (entries.lookup "signing") p.signing
  strict : FieldIs false (fun v b => v = .boolean b) (entries.lookup "strict_options") p.strict
  properties : FieldIs [] PropertiesAre (entries.lookup "options") p.properties
  variants : FieldIs [] (ItemsAre Identity.Described) (entries.lookup "variants") p.variants

/-- **READING IS DESCRIPTION**: what the entries are read as is what they describe. -/
theorem ofEntries?_eq_some_iff (directory : Location) (entries : List (String × Value))
    (p : Project) : ofEntries? directory entries = some p ↔ Described directory entries p := by
  simp only [ofEntries?, Option.bind_eq_bind, Option.bind_eq_some_iff,
    fieldOr_eq_some_iff Value.text?_eq_some_iff, fieldOr_eq_some_iff Value.boolean?_eq_some_iff,
    fieldOr_eq_some_iff Naming.ofValue?_eq_some_iff,
    fieldOr_eq_some_iff Signing.ofValue?_eq_some_iff, fieldOr_eq_some_iff properties?_eq_some_iff,
    fieldOr_eq_some_iff (items?_mapM_eq_some_iff Identity.ofValue?_eq_some_iff)]
  constructor
  · rintro ⟨_, harchives, _, hbuild, _, hnaming, _, hsigning, _, hstrict, _, hproperties, _,
      hvariants, hp⟩
    rw [← Option.some.inj hp]
    exact ⟨rfl, harchives, hbuild, hnaming, hsigning, hstrict, hproperties, hvariants⟩
  · rintro ⟨rfl, harchives, hbuild, hnaming, hsigning, hstrict, hproperties, hvariants⟩
    exact ⟨_, harchives, _, hbuild, _, hnaming, _, hsigning, _, hstrict, _, hproperties, _,
      hvariants, rfl⟩

/-- What comes of the entries of a document. -/
def ofDocument (directory : Location) (entries : List (String × Value)) :
    Except ProjectError Project :=
  ofDecoded (ofEntries? directory entries)

/-- A text is its document, or no document at all. -/
theorem ofText_eq_ofDocument (text : String) (directory : Location) :
    ofText text directory
      = ((Document.read text).map (ofDocument directory)).getD (.error .unreadable) := by
  rw [ofText]
  cases Document.read text <;> rfl

variable {directory : Location} {entries : List (String × Value)}

/-- What comes of the entries, by what they describe: nothing at all, or a project that is
    refused for its package names or taken. -/
theorem ofDocument_cases (directory : Location) (entries : List (String × Value)) :
    ((∀ p, ¬ Described directory entries p)
        ∧ ofDocument directory entries = .error .unreadable) ∨
      (∃ p, Described directory entries p ∧ p.archivesName = ""
        ∧ ofDocument directory entries
          = .error (.rejected "archives_base_name must not be empty")) ∨
      ∃ p, Described directory entries p ∧ p.archivesName ≠ ""
        ∧ ofDocument directory entries = .ok p := by
  rw [ofDocument]
  cases hread : ofEntries? directory entries with
  | none =>
      refine Or.inl ⟨fun p hp => ?_, rfl⟩
      rw [(ofEntries?_eq_some_iff ..).mpr hp] at hread
      exact nomatch hread
  | some p =>
      have hp := (ofEntries?_eq_some_iff ..).mp hread
      by_cases hname : p.archivesName = ""
      · exact Or.inr (Or.inl ⟨p, hp, hname, if_pos hname⟩)
      · exact Or.inr (Or.inr ⟨p, hp, hname, if_neg hname⟩)

/-- A document describes one project at most. -/
theorem Described.unique {p q : Project} (hp : Described directory entries p)
    (hq : Described directory entries q) : p = q := by
  have hread := (ofEntries?_eq_some_iff ..).mpr hp
  rw [(ofEntries?_eq_some_iff ..).mpr hq] at hread
  exact (Option.some.inj hread).symm

theorem ofDocument_eq_ok_iff {p : Project} :
    ofDocument directory entries = .ok p
      ↔ Described directory entries p ∧ p.archivesName ≠ "" := by
  constructor
  · intro h
    rcases ofDocument_cases directory entries with ⟨-, h'⟩ | ⟨_, -, -, h'⟩ | ⟨q, hq, hname, h'⟩
    · exact nomatch h.symm.trans h'
    · exact nomatch h.symm.trans h'
    · obtain rfl := Except.ok.inj (h.symm.trans h')
      exact ⟨hq, hname⟩
  · rintro ⟨hp, hname⟩
    rcases ofDocument_cases directory entries with ⟨hnone, -⟩ | ⟨q, hq, hempty, -⟩ | ⟨q, hq, -, h⟩
    · exact absurd hp (hnone p)
    · exact absurd (hp.unique hq ▸ hempty) hname
    · rw [h, hp.unique hq]

theorem ofDocument_eq_rejected_iff {reason : String} :
    ofDocument directory entries = .error (.rejected reason)
      ↔ reason = "archives_base_name must not be empty"
        ∧ ∃ p, Described directory entries p ∧ p.archivesName = "" := by
  constructor
  · intro h
    rcases ofDocument_cases directory entries with ⟨-, h'⟩ | ⟨p, hp, hname, h'⟩ | ⟨_, -, -, h'⟩
    · exact nomatch h.symm.trans h'
    · exact ⟨ProjectError.rejected.inj (Except.error.inj (h.symm.trans h')), p, hp, hname⟩
    · exact nomatch h.symm.trans h'
  · rintro ⟨rfl, p, hp, hname⟩
    rcases ofDocument_cases directory entries with ⟨hnone, -⟩ | ⟨_, -, -, h⟩ | ⟨q, hq, hother, -⟩
    · exact absurd hp (hnone p)
    · exact h
    · exact absurd (hp.unique hq ▸ hname) hother

theorem ofDocument_eq_unreadable_iff :
    ofDocument directory entries = .error .unreadable ↔ ∀ p, ¬ Described directory entries p := by
  constructor
  · intro h
    rcases ofDocument_cases directory entries with ⟨hnone, -⟩ | ⟨_, -, -, h'⟩ | ⟨_, -, -, h'⟩
    · exact hnone
    · exact nomatch h.symm.trans h'
    · exact nomatch h.symm.trans h'
  · intro hnone
    rcases ofDocument_cases directory entries with ⟨-, h⟩ | ⟨p, hp, -⟩ | ⟨p, hp, -⟩
    · exact h
    · exact absurd hp (hnone p)
    · exact absurd hp (hnone p)

end Project

end BuildLayout
