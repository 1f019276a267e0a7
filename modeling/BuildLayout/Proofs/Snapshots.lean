import BuildLayout.Proofs.Effective

/-! # What a snapshot says

    No two properties share a key (`Property.key_injective`), so a name belongs to at most one
    property, of one family, and the entries of a snapshot are ordered by their keys
    (`pairwise_key`).  Layers can be read exactly if the last value of each property suits it
    (`exists_ofLayers_iff`), and then the entries are those for these values
    (`mem_entries_iff`).  A value is found in a snapshot exactly if an entry has it
    (`Setting.Reader.find?_eq_some_iff`, once for all families). -/

namespace BuildLayout

/-! ## Keys -/

namespace Property

variable {p q : Property} {k : String}

theorem mem_all (p : Property) : p ∈ all := by
  cases p with
  | number p => cases p <;> decide
  | flag p => cases p <;> decide
  | text p => cases p <;> decide

theorem nodup_keys : (all.map key).Nodup := by decide +kernel

/-- **ONE PROPERTY FOR A KEY**, across the families. -/
theorem key_injective (h : p.key = q.key) : p = q :=
  List.inj_on_of_nodup_map nodup_keys (mem_all p) (mem_all q) h

theorem ofKey?_eq_some_iff : ofKey? k = some p ↔ p.key = k := by
  show all.find? (·.key == k) = some p ↔ _
  rw [find?_eq_some_iff_of_nodup Property.key nodup_keys]
  exact and_iff_right (mem_all p)

end Property

/-! ## Readers -/

/-- How the settings of one family are made and read: a setting has a value for a property
    exactly if it was made from the two. -/
structure Setting.Reader (α β : Type) where
  property : α → Property
  make : α → β → Setting
  read : α → Setting → Option β
  property_make : ∀ p v, (make p v).property = property p
  read_eq_some_iff : ∀ p s v, read p s = some v ↔ s = make p v

namespace Setting

def numbers : Reader NumberProperty Int32 where
  property := .number
  make := .number
  read p s := match s with
    | .number q n => if q = p then some n else none
    | _ => none
  property_make _ _ := rfl
  read_eq_some_iff p s v := by cases s <;> simp

def flags : Reader FlagProperty Bool where
  property := .flag
  make := .flag
  read p s := match s with
    | .flag q b => if q = p then some b else none
    | _ => none
  property_make _ _ := rfl
  read_eq_some_iff p s v := by cases s <;> simp

def texts : Reader TextProperty String where
  property := .text
  make := .text
  read p s := match s with
    | .text q t => if q = p then some t else none
    | _ => none
  property_make _ _ := rfl
  read_eq_some_iff p s v := by cases s <;> simp

namespace Reader

variable {α β : Type} (r : Reader α β) {p : α} {v : β} {entries : List Entry}

/-- The first value for a property among the entries. -/
def find? (entries : List Entry) (p : α) : Option β := entries.findSome? fun e => r.read p e.setting

/-- Where each property has one entry, a value is found exactly if an entry has it. -/
theorem find?_eq_some_iff (h : entries.Pairwise fun e e' => e.property ≠ e'.property) :
    r.find? entries p = some v ↔ ∃ e ∈ entries, e.setting = r.make p v := by
  -- A setting of another property has no value for this one.
  have hother : ∀ e : Entry, e.property ≠ r.property p → r.read p e.setting = none := by
    intro e hne
    cases hread : r.read p e.setting with
    | none => rfl
    | some w =>
        have hmade := (r.read_eq_some_iff p e.setting w).mp hread
        exact absurd ((congrArg Setting.property hmade).trans (r.property_make p w)) hne
  have hone : entries.Pairwise fun e e' =>
      r.read p e.setting = none ∨ r.read p e'.setting = none := by
    refine h.imp ?_
    intro e e' hne
    by_cases hp : e.property = r.property p
    · exact Or.inr (hother e' fun hp' => hne (hp.trans hp'.symm))
    · exact Or.inl (hother e hp)
  rw [find?, findSome?_eq_some_iff_of_pairwise hone]
  simp only [r.read_eq_some_iff]

/-- Then it does not matter from which end the value is looked for. -/
theorem find?_reverse (h : entries.Pairwise fun e e' => e.property ≠ e'.property) :
    r.find? entries.reverse p = r.find? entries p := by
  have hreverse : entries.reverse.Pairwise fun e e' => e.property ≠ e'.property :=
    List.pairwise_reverse.mpr (h.imp Ne.symm)
  refine Option.ext fun v => ?_
  rw [r.find?_eq_some_iff hreverse, r.find?_eq_some_iff h]
  simp only [List.mem_reverse]

end Reader

end Setting

/-! ## Entries -/

namespace Entry

variable {a : Assignment} {e : Entry} {assignments : List Assignment} {entries : List Entry}

/-- The entry for an assignment takes its value and its source, for the property of its name. -/
theorem ofAssignment?_eq_some_iff :
    ofAssignment? a = .ok (some e)
      ↔ ∃ p : Property, p.key = a.name ∧ p.read a.value = .ok e.setting
          ∧ e.raw = a.value ∧ e.source = a.source := by
  constructor
  · intro h
    cases hproperty : a.property? with
    | none =>
        rw [ofAssignment?_of_none hproperty] at h
        cases h
    | some p =>
        rw [ofAssignment?_of_some hproperty] at h
        obtain ⟨s, hread, hentry⟩ := map_eq_ok_iff.mp h
        rw [← Option.some.inj hentry]
        exact ⟨p, Property.ofKey?_eq_some_iff.mp hproperty, hread, rfl, rfl⟩
  · rintro ⟨p, hkey, hread, hraw, hsource⟩
    rw [ofAssignment?_of_some (Property.ofKey?_eq_some_iff.mpr hkey), hread, ← hraw, ← hsource]
    rfl

theorem mem_ofAssignments_iff (h : ofAssignments assignments = .ok entries) :
    e ∈ entries ↔ ∃ a ∈ assignments, ofAssignment? a = .ok (some e) := by
  induction assignments generalizing entries with
  | nil =>
      rw [← Except.ok.inj h]
      exact ⟨fun he => (nomatch he), fun ⟨_, ha, _⟩ => (nomatch ha)⟩
  | cons a rest ih =>
      obtain ⟨found, others, hfirst, hrest, rfl⟩ := ofAssignments_cons h
      rw [List.mem_append, ih hrest, Option.mem_toList]
      constructor
      · rintro (hfound | ⟨b, hb, hentry⟩)
        · exact ⟨a, List.mem_cons_self .., hfirst.trans (congrArg Except.ok hfound)⟩
        · exact ⟨b, List.mem_cons_of_mem _ hb, hentry⟩
      · rintro ⟨b, hb, hentry⟩
        rcases List.mem_cons.mp hb with rfl | hb
        · exact Or.inl (Except.ok.inj (hfirst.symm.trans hentry))
        · exact Or.inr ⟨b, hb, hentry⟩

/-- An assignment is refused only if it is for a property that cannot take the value. -/
theorem exists_ofAssignment?_eq_ok_iff :
    (∃ found, ofAssignment? a = .ok found)
      ↔ ∀ p : Property, p.key = a.name → ∃ s, p.read a.value = .ok s := by
  constructor
  · rintro ⟨found, hfound⟩ p hkey
    rw [ofAssignment?_of_some (Property.ofKey?_eq_some_iff.mpr hkey)] at hfound
    obtain ⟨s, hread, -⟩ := map_eq_ok_iff.mp hfound
    exact ⟨s, hread⟩
  · intro h
    cases hproperty : a.property? with
    | none => exact ⟨none, ofAssignment?_of_none hproperty⟩
    | some p =>
        obtain ⟨s, hread⟩ := h p (Property.ofKey?_eq_some_iff.mp hproperty)
        rw [ofAssignment?_of_some hproperty, hread]
        exact ⟨_, rfl⟩

/-- A reading succeeds exactly if every assignment does. -/
theorem exists_ofAssignments_iff :
    (∃ entries, ofAssignments assignments = .ok entries)
      ↔ ∀ a ∈ assignments, ∃ found, ofAssignment? a = .ok found := by
  induction assignments with
  | nil => exact ⟨fun _ a ha => (nomatch ha), fun _ => ⟨[], rfl⟩⟩
  | cons a rest ih =>
      rw [List.forall_mem_cons, ← ih]
      constructor
      · rintro ⟨entries, h⟩
        obtain ⟨found, others, hfirst, hrest, -⟩ := ofAssignments_cons h
        exact ⟨⟨found, hfirst⟩, ⟨others, hrest⟩⟩
      · rintro ⟨⟨found, hfirst⟩, ⟨others, hrest⟩⟩
        rw [ofAssignments_cons_of_ok hfirst, hrest]
        exact ⟨_, rfl⟩

/-- An assignment to a property that can be read has an entry. -/
theorem exists_ofAssignment? (h : ofAssignments assignments = .ok entries)
    (ha : a ∈ assignments) {p : Property} (hkey : p.key = a.name) :
    ∃ e ∈ entries, e.property = p := by
  have hp : p ∈ entries.map Entry.property := by
    rw [properties_of_ofAssignments h]
    exact List.mem_filterMap.mpr ⟨a, ha, Property.ofKey?_eq_some_iff.mpr hkey⟩
  exact List.mem_map.mp hp

/-- Entries stand in the order of the names. -/
theorem pairwise_key_of_ofAssignments (h : ofAssignments assignments = .ok entries)
    (hnames : assignments.Pairwise (·.name < ·.name)) :
    entries.Pairwise (·.key < ·.key) := by
  have hproperties : (entries.map Entry.property).Pairwise fun p q => p.key < q.key := by
    rw [properties_of_ofAssignments h, List.pairwise_filterMap]
    refine hnames.imp ?_
    intro a b hlt p hp q hq
    rw [Property.ofKey?_eq_some_iff.mp hp, Property.ofKey?_eq_some_iff.mp hq]
    exact hlt
  rw [List.pairwise_map] at hproperties
  exact hproperties

end Entry

/-! ## Snapshots -/

namespace Snapshot

variable {layers : List Layer} {s : Snapshot}

/-- **READABLE LAYERS** are those whose last values suit their properties. -/
theorem exists_ofLayers_iff (layers : List Layer) :
    (∃ s, ofLayers layers = .ok s)
      ↔ ∀ (p : Property) (a : Assignment), Assignment.last? layers p.key = some a →
          ∃ setting, p.read a.value = .ok setting := by
  have hentries : (∃ s, ofLayers layers = .ok s)
      ↔ ∃ entries, Entry.ofAssignments (Assignment.effective layers) = .ok entries := by
    constructor
    · rintro ⟨s, hs⟩
      exact ⟨s.entries, ofAssignments_of_ofLayers hs⟩
    · rintro ⟨entries, h⟩
      exact ⟨⟨entries⟩, map_eq_ok_iff.mpr ⟨entries, h, rfl⟩⟩
  rw [hentries, Entry.exists_ofAssignments_iff]
  simp only [Entry.exists_ofAssignment?_eq_ok_iff]
  constructor
  · intro h p a hlast
    have hname : a.name = p.key := Assignment.name_of_last? hlast
    rw [← hname] at hlast
    exact h a (Assignment.mem_effective_iff.mpr hlast) p hname.symm
  · intro h a ha p hkey
    refine h p a ?_
    rw [hkey]
    exact Assignment.mem_effective_iff.mp ha

/-- **ENTRIES**: there is one for each property that the layers set, with what they set last. -/
theorem mem_entries_iff (h : ofLayers layers = .ok s) (e : Entry) :
    e ∈ s.entries ↔ ∃ (p : Property) (a : Assignment), Assignment.last? layers p.key = some a
      ∧ p.read a.value = .ok e.setting ∧ e.raw = a.value ∧ e.source = a.source := by
  rw [Entry.mem_ofAssignments_iff (ofAssignments_of_ofLayers h)]
  constructor
  · rintro ⟨a, ha, hentry⟩
    obtain ⟨p, hkey, hread, hraw, hsource⟩ := Entry.ofAssignment?_eq_some_iff.mp hentry
    refine ⟨p, a, ?_, hread, hraw, hsource⟩
    rw [hkey]
    exact Assignment.mem_effective_iff.mp ha
  · rintro ⟨p, a, hlast, hread, hraw, hsource⟩
    have hname : a.name = p.key := Assignment.name_of_last? hlast
    refine ⟨a, ?_, Entry.ofAssignment?_eq_some_iff.mpr ⟨p, hname.symm, hread, hraw, hsource⟩⟩
    rw [← hname] at hlast
    exact Assignment.mem_effective_iff.mpr hlast

/-- A property that is set has an entry. -/
theorem exists_entry (h : ofLayers layers = .ok s) {p : Property} {a : Assignment}
    (hlast : Assignment.last? layers p.key = some a) : ∃ e ∈ s.entries, e.property = p := by
  have hname : a.name = p.key := Assignment.name_of_last? hlast
  rw [← hname] at hlast
  exact Entry.exists_ofAssignment? (ofAssignments_of_ofLayers h)
    (Assignment.mem_effective_iff.mpr hlast) hname.symm

/-- **ORDERED BY KEYS**. -/
theorem pairwise_key (h : ofLayers layers = .ok s) : s.entries.Pairwise (·.key < ·.key) :=
  Entry.pairwise_key_of_ofAssignments (ofAssignments_of_ofLayers h)
    (Assignment.pairwise_effective layers)

/-- No property has two entries. -/
theorem pairwise_property (h : ofLayers layers = .ok s) :
    s.entries.Pairwise fun e e' => e.property ≠ e'.property := by
  refine (pairwise_key h).imp ?_
  intro e e' hlt heq
  exact ne_of_lt hlt (congrArg Property.key heq)

end Snapshot

end BuildLayout
