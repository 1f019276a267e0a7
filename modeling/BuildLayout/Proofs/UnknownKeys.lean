import BuildLayout.Proofs.Descriptions

/-! # Keys that a document has for nothing

    A project file may say more than is asked of it.  Two tables have the same fields if they
    differ in undeclared keys only, wherever these stand (`SameFields`); the relation goes down
    into the signing, the variants and their flavors, each with the fields of its own.

    What is asked for under a declared key is then alike in both (`SameFields.lookup`), so each
    part of a project is read alike, and in the end the project (`ofEntries?_congr`).  A nested
    component is the exception: its table has its two keys and no other.  What a document
    decides, and what not, is put together in `Project.document_decides`. -/

namespace BuildLayout

open Document

/-! ## Tables with the same fields -/

/-- The declared keys of a table, each with the way in which its value may differ. -/
abbrev Fields := List (String × (Value → Value → Prop))

/-- The same fields in two lists of entries: the entries under declared keys correspond, in
    order; an entry under any other key may stand anywhere in either list. -/
inductive SameFields (fields : Fields) :
    List (String × Value) → List (String × Value) → Prop where
  | nil : SameFields fields [] []
  | field {key : String} {R : Value → Value → Prop} {v w : Value}
      {entries others : List (String × Value)} (declared : fields.lookup key = some R)
      (alike : R v w) (rest : SameFields fields entries others) :
      SameFields fields ((key, v) :: entries) ((key, w) :: others)
  | left {key : String} {v : Value} {entries others : List (String × Value)}
      (undeclared : fields.lookup key = none) (rest : SameFields fields entries others) :
      SameFields fields ((key, v) :: entries) others
  | right {key : String} {v : Value} {entries others : List (String × Value)}
      (undeclared : fields.lookup key = none) (rest : SameFields fields entries others) :
      SameFields fields entries ((key, v) :: others)

/-- One value twice, or two tables with the same fields. -/
inductive SameTable (fields : Fields) : Value → Value → Prop where
  | refl (v : Value) : SameTable fields v v
  | table {entries others : List (String × Value)} (h : SameFields fields entries others) :
      SameTable fields (.table entries) (.table others)

/-- One value twice, or two lists whose items are alike one by one. -/
inductive SameItems (R : Value → Value → Prop) : Value → Value → Prop where
  | refl (v : Value) : SameItems R v v
  | items {items others : List Value} (h : List.Forall₂ R items others) :
      SameItems R (.array items) (.array others)

/-- **DECLARED KEYS COUNT**: what is found under a declared key is alike in both lists. -/
theorem SameFields.lookup {fields : Fields} {entries others : List (String × Value)}
    (h : SameFields fields entries others) (key : String) {R : Value → Value → Prop}
    (hkey : fields.lookup key = some R) :
    Option.Rel R (entries.lookup key) (others.lookup key) := by
  -- An undeclared key is another one.
  have hother : ∀ {k : String}, fields.lookup k = none → (key == k) = false := by
    rintro k hk
    refine beq_eq_false_iff_ne.mpr ?_
    rintro rfl
    exact nomatch hkey.symm.trans hk
  induction h with
  | nil => exact .none
  | @field k S _ _ _ _ declared alike _ ih =>
      rw [List.lookup_cons, List.lookup_cons]
      cases hk : key == k with
      | true =>
          obtain rfl := beq_iff_eq.mp hk
          obtain rfl := Option.some.inj (hkey.symm.trans declared)
          exact .some alike
      | false => exact ih
  | left undeclared _ ih =>
      rw [List.lookup_cons, hother undeclared]
      exact ih
  | right undeclared _ ih =>
      rw [List.lookup_cons, hother undeclared]
      exact ih

theorem eq_of_option_rel {found other : Option Value} (h : Option.Rel Eq found other) :
    found = other := by
  cases h with
  | some heq => rw [heq]
  | none => rfl

theorem SameFields.lookup_eq {fields : Fields} {entries others : List (String × Value)}
    (h : SameFields fields entries others) (key : String) (hkey : fields.lookup key = some Eq) :
    entries.lookup key = others.lookup key :=
  eq_of_option_rel (h.lookup key hkey)

/-! ## Values that are read alike -/

section Alike

variable {α : Type} {R : Value → Value → Prop} {read : Value → Option α}

theorem fieldOr_congr (hread : ∀ v w, R v w → read v = read w) {found other : Option Value}
    (h : Option.Rel R found other) (default : α) :
    fieldOr default read found = fieldOr default read other := by
  cases h with
  | some halike => exact hread _ _ halike
  | none => rfl

theorem mapM_congr_of_forall₂ (hread : ∀ v w, R v w → read v = read w) {vs ws : List Value}
    (h : List.Forall₂ R vs ws) : vs.mapM read = ws.mapM read := by
  induction h with
  | nil => rfl
  | cons halike _ ih => rw [List.mapM_cons, List.mapM_cons, hread _ _ halike, ih]

theorem SameItems.mapM_eq (hread : ∀ v w, R v w → read v = read w) (v w : Value)
    (h : SameItems R v w) : v.items?.bind (·.mapM read) = w.items?.bind (·.mapM read) := by
  cases h with
  | refl => rfl
  | items h => exact mapM_congr_of_forall₂ hread h

end Alike

/-! ## The fields of a project -/

/-- The fields of a flavor. -/
def Flavor.fields : Fields := [("dimension", Eq), ("name", Eq)]

/-- The fields of an identity. -/
def Identity.fields : Fields :=
  [("build_type", Eq), ("flavors", SameItems (SameTable Flavor.fields)), ("component", Eq),
    ("split", Eq)]

/-- The fields that go with the policy which the value names. -/
def Signing.fields (v : Value) : Fields :=
  match v.entries?.bind (·.lookup "policy") with
  | some (.text "readiness") => [("policy", Eq), ("signed", Eq), ("base_module", Eq)]
  | _ => [("policy", Eq)]

/-- The fields of a project. -/
def Project.fields : Fields :=
  [("archives_base_name", Eq), ("build_dir", Eq), ("naming", Eq),
    ("signing", fun v w => SameTable (Signing.fields v) v w), ("strict_options", Eq),
    ("options", Eq), ("variants", SameItems (SameTable Identity.fields))]

theorem Flavor.ofValue?_congr (v w : Value) (h : SameTable fields v w) :
    ofValue? v = ofValue? w := by
  cases h with
  | refl => rfl
  | table h =>
      simp only [ofValue?, Value.record?, Value.entries?, Option.map_some, Option.bind_eq_bind,
        Option.bind_some, h.lookup_eq "dimension" rfl, h.lookup_eq "name" rfl]

theorem Identity.ofValue?_congr (v w : Value) (h : SameTable fields v w) :
    ofValue? v = ofValue? w := by
  cases h with
  | refl => rfl
  | table h =>
      have hflavors := fieldOr_congr (SameItems.mapM_eq Flavor.ofValue?_congr)
        (h.lookup "flavors" rfl) []
      simp only [ofValue?, Value.record?, Value.entries?, Option.map_some, Option.bind_eq_bind,
        Option.bind_some, h.lookup_eq "build_type" rfl, hflavors,
        h.lookup_eq "component" rfl, h.lookup_eq "split" rfl]

theorem Signing.ofValue?_congr (v w : Value) (h : SameTable (fields v) v w) :
    ofValue? v = ofValue? w := by
  cases h with
  | refl => rfl
  | @table entries others h =>
      by_cases hready : entries.lookup "policy" = some (.text "readiness")
      · have hfields : fields (.table entries)
            = [("policy", Eq), ("signed", Eq), ("base_module", Eq)] := by
          simp only [fields, Value.entries?, Option.bind_some, hready]
        rw [hfields] at h
        simp only [ofValue?, Value.entries?, Option.bind_eq_bind, Option.bind_some,
          h.lookup_eq "policy" rfl, h.lookup_eq "signed" rfl,
          h.lookup_eq "base_module" rfl]
      · have hfields : fields (.table entries) = [("policy", Eq)] := by
          simp only [fields, Value.entries?, Option.bind_some]
        rw [hfields] at h
        -- What else the tables hold is only asked for if the policy is the other one.
        have hpolicy := h.lookup_eq "policy" rfl
        rw [hpolicy] at hready
        simp only [ofValue?, Value.entries?, Option.bind_eq_bind, Option.bind_some, hpolicy]
        refine Option.bind_congr fun named hnamed => Option.bind_congr fun policy htext => ?_
        obtain rfl := (Value.text?_eq_some_iff named policy).mp htext
        split
        · rfl
        · exact absurd hnamed hready
        · rfl

/-- **THE REST IS PASSED OVER**: entries with the same fields are read as the same project. -/
theorem Project.ofEntries?_congr (directory : Location) {entries others : List (String × Value)}
    (h : SameFields fields entries others) :
    ofEntries? directory entries = ofEntries? directory others := by
  have hsigning := fieldOr_congr Signing.ofValue?_congr (h.lookup "signing" rfl)
    .alwaysUnsigned
  have hvariants := fieldOr_congr (SameItems.mapM_eq Identity.ofValue?_congr)
    (h.lookup "variants" rfl) []
  simp only [ofEntries?, hsigning, hvariants, h.lookup_eq "archives_base_name" rfl,
    h.lookup_eq "build_dir" rfl, h.lookup_eq "naming" rfl,
    h.lookup_eq "strict_options" rfl, h.lookup_eq "options" rfl]

/-! ## What is strict -/

/-- Items that are described one by one are each described. -/
theorem exists_of_mem_of_forall₂ {α β : Type} {R : α → β → Prop} {xs : List α} {ys : List β}
    (h : List.Forall₂ R xs ys) {x : α} (hx : x ∈ xs) : ∃ y, R x y := by
  induction h with
  | nil => exact nomatch hx
  | cons hxy _ ih =>
      rcases List.mem_cons.mp hx with rfl | hrest
      · exact ⟨_, hxy⟩
      · exact ih hrest

/-- The only component under the key of a nested one is one with the tokens that stand there. -/
theorem Component.described_nested_iff {tokens : Value} {c : Component} :
    Described (.table [("nested", tokens)]) c
      ↔ ∃ lead tail, c = .nested lead tail ∧ HasTokens tokens lead tail := by
  rw [← ofValue?_eq_some_iff, ← nested?_eq_some_iff]
  rfl

section Strict

variable {directory : Location} {entries : List (String × Value)} {p : Project}

/-- **A NESTED COMPONENT HAS ITS TWO KEYS**: where a variant has one, its table has these keys
    and no other. -/
theorem Project.Described.nested_keys (hp : p.Described directory entries)
    {items : List Value} {identity tokens : List (String × Value)}
    (hvariants : entries.lookup "variants" = some (.array items))
    (hidentity : .table identity ∈ items)
    (hcomponent : identity.lookup "component" = some (.table [("nested", .table tokens)]))
    (key : String) : key ∈ tokens.map Prod.fst ↔ key = "prefix" ∨ key = "suffix" := by
  have hitems := hp.variants
  rw [hvariants, fieldIs_some_iff] at hitems
  obtain ⟨_, heq, hall⟩ := hitems
  obtain rfl := Value.array.inj heq
  obtain ⟨i, hi⟩ := exists_of_mem_of_forall₂ hall hidentity
  obtain ⟨-, -, hkind, -⟩ := Identity.described_table_iff.mp hi
  rw [hcomponent, fieldIs_some_iff] at hkind
  obtain ⟨lead, tail, -, htokens⟩ := Component.described_nested_iff.mp hkind
  obtain ⟨keys, -, -⟩ := htokens
  exact keys key

/-- **A PROPERTY IS WRITTEN AS IT IS**: the table of the properties has an entry for each, with
    the value as it would be written. -/
theorem Project.Described.properties_written (hp : p.Described directory entries)
    {properties : List (String × Value)}
    (hproperties : entries.lookup "options" = some (.table properties)) :
    properties = p.properties.map fun (key, r) => (key, r.written) := by
  have hall := hp.properties
  rw [hproperties, fieldIs_some_iff] at hall
  exact Option.some.inj hall

end Strict

/-! ## What a document decides -/

/-- **WHAT A DOCUMENT DECIDES**: a document counts by the fields that are declared, and where
    these describe a project, that is what comes of it, in the directory given, unless its
    packages had no name.  Where they describe none, as with a component that has another key
    or a property that is no flag, number or text, it is unreadable. -/
theorem Project.document_decides (directory : Location) (entries : List (String × Value)) :
    (∀ text, ofText text directory
        = ((Document.read text).map (ofDocument directory)).getD (.error .unreadable))
    ∧ (∀ others, SameFields fields entries others →
        ofDocument directory others = ofDocument directory entries)
    ∧ (∀ p, ofDocument directory entries = .ok p
        ↔ Described directory entries p ∧ p.archivesName ≠ "")
    ∧ (∀ reason, ofDocument directory entries = .error (.rejected reason)
        ↔ reason = "archives_base_name must not be empty"
          ∧ ∃ p, Described directory entries p ∧ p.archivesName = "")
    ∧ (ofDocument directory entries = .error .unreadable ↔ ∀ p, ¬ Described directory entries p)
    ∧ (∀ items identity tokens, entries.lookup "variants" = some (.array items) →
        .table identity ∈ items →
        identity.lookup "component" = some (.table [("nested", .table tokens)]) →
        (∀ key, key ∈ tokens.map Prod.fst ↔ key = "prefix" ∨ key = "suffix")
          ∨ ofDocument directory entries = .error .unreadable)
    ∧ (∀ properties, entries.lookup "options" = some (.table properties) →
        (∀ p, ofDocument directory entries = .ok p →
          properties = p.properties.map fun (key, r) => (key, r.written))
        ∧ ((∃ entry ∈ properties, ∀ r, entry.2 ≠ RawValue.written r) →
          ofDocument directory entries = .error .unreadable)) := by
  refine ⟨fun text => ofText_eq_ofDocument text directory,
    fun others h => congrArg ofDecoded (ofEntries?_congr directory h).symm,
    fun p => ofDocument_eq_ok_iff, fun reason => ofDocument_eq_rejected_iff,
    ofDocument_eq_unreadable_iff, ?_, ?_⟩
  · intro items identity tokens hvariants hidentity hcomponent
    by_cases hdescribed : ∃ p, Described directory entries p
    · obtain ⟨p, hp⟩ := hdescribed
      exact Or.inl (hp.nested_keys hvariants hidentity hcomponent)
    · exact Or.inr (ofDocument_eq_unreadable_iff.mpr (not_exists.mp hdescribed))
  · intro properties hproperties
    refine ⟨fun p hp => (ofDocument_eq_ok_iff.mp hp).1.properties_written hproperties, ?_⟩
    rintro ⟨entry, hentry, hother⟩
    refine ofDocument_eq_unreadable_iff.mpr fun p hp => ?_
    rw [hp.properties_written hproperties] at hentry
    obtain ⟨⟨key, r⟩, -, rfl⟩ := List.mem_map.mp hentry
    exact hother r rfl

/-- The entries of a document with a variant for a nested component. -/
def plainEntries : List (String × Value) :=
  [("archives_base_name", .text "shop"),
   ("signing", .table [("policy", .text "always-unsigned")]),
   ("options", .table [("android.r8.maxWorkers", .integer 2)]),
   ("variants", .array [.table
     [("flavors", .array [.table [("dimension", .text "tier"), ("name", .text "free")]]),
      ("component", .table [("nested", .table
        [("suffix", .text "Bench"), ("prefix", .text "bench")])])]])]

/-- The same with keys that name no field, at every level that passes over them. -/
def ornateEntries : List (String × Value) :=
  [("project_dir", .text "elsewhere"),
   ("archives_base_name", .text "shop"),
   ("signing", .table
     [("signed", .text "perhaps"), ("policy", .text "always-unsigned")]),
   ("owner", .array []),
   ("options", .table [("android.r8.maxWorkers", .integer 2)]),
   ("variants", .array [.table
     [("flavors", .array [.table
        [("dimension", .text "tier"), ("colour", .boolean true), ("name", .text "free")]]),
      ("component", .table [("nested", .table
        [("suffix", .text "Bench"), ("prefix", .text "bench")])]),
      ("flavor", .text "paid")]])]

theorem document_decides_ornateEntries :
    SameFields Project.fields plainEntries ornateEntries
      ∧ Project.ofDocument ⟨"shop"⟩ ornateEntries
        = .ok
          { directory := ⟨"shop"⟩
            archivesName := "shop"
            properties := [("android.r8.maxWorkers", .integer 2)]
            variants :=
              [{ flavors := [⟨"tier", "free"⟩], component := .nested "bench" "Bench" }] } := by
  have hflavor : SameTable Flavor.fields
      (.table [("dimension", .text "tier"), ("name", .text "free")])
      (.table [("dimension", .text "tier"), ("colour", .boolean true), ("name", .text "free")]) :=
    .table (.field rfl rfl (.right rfl (.field rfl rfl .nil)))
  have hsigning : SameTable [("policy", Eq)]
      (.table [("policy", .text "always-unsigned")])
      (.table [("signed", .text "perhaps"), ("policy", .text "always-unsigned")]) :=
    .table (.right rfl (.field rfl rfl .nil))
  have hsame : SameFields Project.fields plainEntries ornateEntries :=
    .right rfl (.field rfl rfl (.field rfl hsigning (.right rfl (.field rfl rfl
      (.field rfl (.items (.cons
        (.table (.field rfl (.items (.cons hflavor .nil)) (.field rfl rfl (.right rfl .nil))))
        .nil)) .nil)))))
  obtain ⟨-, hread, -⟩ := Project.document_decides ⟨"shop"⟩ plainEntries
  exact ⟨hsame, (hread _ hsame).trans rfl⟩

end BuildLayout
