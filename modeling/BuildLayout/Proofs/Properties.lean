import BuildLayout.Property.Snapshot

/-! # Which properties are set

    A snapshot has an entry for exactly the properties whose key some layer sets
    (`mem_properties_iff`): overriding a value never adds or drops a name, names of no
    property are passed over, and an entry belongs to the property that its name asks for.
    So whether a snapshot refuses removed properties can be read off the layers. -/

namespace BuildLayout

namespace Assignment

/-- The property that the assignment is for. -/
def property? (a : Assignment) : Option Property := Property.ofKey? a.name

/-! ## Names that count -/

theorem mem_insert_names {name : String} {a : Assignment} {kept : List Assignment} :
    name ∈ (insert a kept).map Assignment.name
      ↔ name = a.name ∨ name ∈ kept.map Assignment.name := by
  induction kept with
  | nil => exact List.mem_cons
  | cons b rest ih =>
      show name ∈ (if a.name = b.name then a :: rest
        else if a.name < b.name then a :: b :: rest
        else b :: insert a rest).map Assignment.name ↔ _
      by_cases heq : a.name = b.name
      · rw [if_pos heq, List.map_cons, List.map_cons, List.mem_cons, List.mem_cons, ← heq]
        exact ⟨fun h => h.imp id Or.inr, fun h => h.elim Or.inl id⟩
      · rw [if_neg heq]
        by_cases hlt : a.name < b.name
        · rw [if_pos hlt]
          exact List.mem_cons
        · rw [if_neg hlt, List.map_cons, List.map_cons, List.mem_cons, List.mem_cons, ih]
          exact or_left_comm

/-- Insertion after insertion, the names add up. -/
theorem mem_foldl_insert_names {name : String} {given kept : List Assignment} :
    name ∈ (given.foldl (fun kept a => insert a kept) kept).map Assignment.name
      ↔ name ∈ given.map Assignment.name ∨ name ∈ kept.map Assignment.name := by
  induction given generalizing kept with
  | nil => exact ⟨Or.inr, fun h => h.elim (fun h => nomatch h) id⟩
  | cons a rest ih =>
      show name ∈ (rest.foldl (fun kept a => insert a kept) (insert a kept)).map _ ↔ _
      rw [ih, mem_insert_names, List.map_cons, List.mem_cons, or_left_comm, or_assoc]

/-- A name counts if some layer gives it a value. -/
theorem mem_effective_names {name : String} {layers : List Layer} :
    name ∈ (effective layers).map Assignment.name
      ↔ ∃ l ∈ layers, name ∈ l.values.map Prod.fst := by
  have hlayer : ∀ l : Layer, l.assignments.map Assignment.name = l.values.map Prod.fst := by
    intro l
    show (l.values.map _).map Assignment.name = _
    rw [List.map_map]
    rfl
  show name ∈ ((layers.flatMap Layer.assignments).foldl _ []).map Assignment.name ↔ _
  rw [mem_foldl_insert_names, List.map_flatMap, List.mem_flatMap]
  simp only [hlayer, List.map_nil, List.not_mem_nil, or_false]

end Assignment

/-! ## Readings and what is made of them -/

section Readings

variable {ε α β : Type} {f : α → β} {x : Except ε α}

theorem map_eq_ok_iff {b : β} : x.map f = .ok b ↔ ∃ a, x = .ok a ∧ f a = b := by
  cases x with
  | error e => exact ⟨fun h => (nomatch h), fun ⟨_, h, _⟩ => (nomatch h)⟩
  | ok a =>
      constructor
      · exact fun h => ⟨a, rfl, Except.ok.inj h⟩
      · rintro ⟨_, ⟨rfl⟩, rfl⟩
        rfl

theorem map_eq_error_iff {e : ε} : x.map f = .error e ↔ x = .error e := by
  cases x with
  | error cause =>
      exact ⟨fun h => congrArg _ (Except.error.inj h), fun h => congrArg _ (Except.error.inj h)⟩
  | ok a => exact ⟨fun h => (nomatch h), fun h => (nomatch h)⟩

theorem mapError_eq_ok_iff {ε' : Type} {g : ε → ε'} {a : α} : x.mapError g = .ok a ↔ x = .ok a := by
  cases x with
  | error e => exact ⟨fun h => (nomatch h), fun h => (nomatch h)⟩
  | ok b => exact ⟨fun h => congrArg _ (Except.ok.inj h), fun h => congrArg _ (Except.ok.inj h)⟩

theorem toOption_eq_some_iff {a : α} : x.toOption = some a ↔ x = .ok a := by
  cases x with
  | error e => exact ⟨fun h => (nomatch h), fun h => (nomatch h)⟩
  | ok b => exact ⟨fun h => congrArg _ (Option.some.inj h), fun h => congrArg _ (Except.ok.inj h)⟩

end Readings

/-! ## Entries -/

private theorem match_eq_ok_iff {setting? : Option Setting} {e : PropertyError} {s : Setting} :
    (match setting? with
      | some t => Except.ok t
      | none => Except.error e) = Except.ok s ↔ setting? = some s := by
  cases setting? with
  | none => exact ⟨fun h => (nomatch h), fun h => (nomatch h)⟩
  | some t =>
      exact ⟨fun h => congrArg some (Except.ok.inj h), fun h => congrArg _ (Option.some.inj h)⟩

/-- A reading is a setting of the property that was asked for. -/
theorem Property.property_of_read {p : Property} {v : RawValue} {s : Setting}
    (h : p.read v = .ok s) : s.property = p := by
  cases p with
  | number q =>
      have hread : v.number?.map (Setting.number q) = some s := match_eq_ok_iff.mp h
      obtain ⟨n, -, rfl⟩ := Option.map_eq_some_iff.mp hread
      rfl
  | flag q =>
      have hread : v.flag?.map (Setting.flag q) = some s := match_eq_ok_iff.mp h
      obtain ⟨b, -, rfl⟩ := Option.map_eq_some_iff.mp hread
      rfl
  | text q =>
      have hread : v.textual?.map (Setting.text q) = some s := match_eq_ok_iff.mp h
      obtain ⟨t, -, rfl⟩ := Option.map_eq_some_iff.mp hread
      rfl

/-- A number property reads a value as the number that the value gives. -/
theorem Property.read_number_eq_ok_iff {p : NumberProperty} {v : RawValue} {n : Int32} :
    (Property.number p).read v = .ok (.number p n) ↔ v.number? = some n :=
  calc (Property.number p).read v = .ok (.number p n)
      ↔ v.number?.map (Setting.number p) = (some n).map (Setting.number p) := match_eq_ok_iff
    _ ↔ v.number? = some n := Option.map_inj_right fun _ _ h => (Setting.number.inj h).2

/-- A text property reads a value as the text that the value gives. -/
theorem Property.read_text_eq_ok_iff {p : TextProperty} {v : RawValue} {t : String} :
    (Property.text p).read v = .ok (.text p t) ↔ v.textual? = some t :=
  calc (Property.text p).read v = .ok (.text p t)
      ↔ v.textual?.map (Setting.text p) = (some t).map (Setting.text p) := match_eq_ok_iff
    _ ↔ v.textual? = some t := Option.map_inj_right fun _ _ h => (Setting.text.inj h).2

namespace Entry

variable {a : Assignment} {p : Property} {found : Option Entry} {rest : List Assignment}

/-- An assignment to no property is passed over. -/
theorem ofAssignment?_of_none (h : a.property? = none) : ofAssignment? a = .ok none := by
  have hkey : Property.ofKey? a.name = none := h
  simp only [ofAssignment?, hkey]

/-- An assignment to a property is read as the property asks. -/
theorem ofAssignment?_of_some (h : a.property? = some p) :
    ofAssignment? a = (p.read a.value).map fun s => some ⟨s, a.value, a.source⟩ := by
  have hkey : Property.ofKey? a.name = some p := h
  simp only [ofAssignment?, hkey]
  cases p.read a.value with
  | error e => rfl
  | ok s => rfl

/-- An assignment gives an entry for the property with its name, if there is one. -/
theorem property_of_ofAssignment? (h : ofAssignment? a = .ok found) :
    found.map Entry.property = a.property? := by
  cases hproperty : a.property? with
  | none =>
      rw [ofAssignment?_of_none hproperty] at h
      rw [← Except.ok.inj h]
      rfl
  | some p =>
      rw [ofAssignment?_of_some hproperty] at h
      obtain ⟨s, hread, rfl⟩ := map_eq_ok_iff.mp h
      exact congrArg some (Property.property_of_read hread)

/-- A refusal ends the reading. -/
theorem ofAssignments_cons_of_error {e : PropertyError} (h : ofAssignment? a = .error e) :
    ofAssignments (a :: rest) = .error e := by
  simp only [ofAssignments, h]
  rfl

theorem ofAssignments_cons_of_ok (h : ofAssignment? a = .ok found) :
    ofAssignments (a :: rest) = (ofAssignments rest).map (found.toList ++ ·) := by
  simp only [ofAssignments, h]
  cases ofAssignments rest with
  | error e => rfl
  | ok others => rfl

/-- Every part of a reading that succeeds does. -/
theorem ofAssignments_cons {entries : List Entry} (h : ofAssignments (a :: rest) = .ok entries) :
    ∃ found others, ofAssignment? a = .ok found ∧ ofAssignments rest = .ok others
      ∧ entries = found.toList ++ others := by
  cases hfirst : ofAssignment? a with
  | error e =>
      rw [ofAssignments_cons_of_error hfirst] at h
      exact nomatch h
  | ok found =>
      rw [ofAssignments_cons_of_ok hfirst] at h
      obtain ⟨others, hrest, rfl⟩ := map_eq_ok_iff.mp h
      exact ⟨found, others, rfl, hrest, rfl⟩

/-- The entries belong to the properties that the assignments name, in their order. -/
theorem properties_of_ofAssignments {assignments : List Assignment} {entries : List Entry}
    (h : ofAssignments assignments = .ok entries) :
    entries.map Entry.property = assignments.filterMap Assignment.property? := by
  induction assignments generalizing entries with
  | nil =>
      rw [← Except.ok.inj h]
      rfl
  | cons a rest ih =>
      obtain ⟨found, others, hfirst, hrest, rfl⟩ := ofAssignments_cons h
      rw [List.map_append, ih hrest]
      have hkey := property_of_ofAssignment? hfirst
      cases found with
      | none =>
          rw [List.filterMap_cons_none hkey.symm]
          rfl
      | some entry =>
          rw [List.filterMap_cons_some hkey.symm]
          rfl

/-- An entry calls for a refusal exactly if its property was removed. -/
theorem error?_notice? (e : Entry) :
    e.notice?.bind Notice.error? = none ↔ e.stage.isRemoved = false := by
  simp only [notice?]
  cases e.stage with
  | stable => exact ⟨fun _ => rfl, fun _ => rfl⟩
  | experimental => exact ⟨fun _ => rfl, fun _ => rfl⟩
  | removed since advice => exact ⟨fun h => (nomatch h), fun h => (nomatch h)⟩

end Entry

/-! ## Snapshots -/

namespace Snapshot

variable {layers : List Layer} {s : Snapshot}

/-- A snapshot holds the entries for the assignments that count. -/
theorem ofAssignments_of_ofLayers (h : ofLayers layers = .ok s) :
    Entry.ofAssignments (Assignment.effective layers) = .ok s.entries := by
  obtain ⟨entries, hentries, rfl⟩ := map_eq_ok_iff.mp h
  exact hentries

/-- **WHAT IS SET**: the properties of a snapshot are those that the layers name. -/
theorem mem_properties_iff (h : ofLayers layers = .ok s) (q : Property) :
    q ∈ s.entries.map Entry.property
      ↔ ∃ l ∈ layers, ∃ name ∈ l.values.map Prod.fst, Property.ofKey? name = some q := by
  rw [Entry.properties_of_ofAssignments (ofAssignments_of_ofLayers h), List.mem_filterMap]
  constructor
  · rintro ⟨a, ha, hkey⟩
    have hname : a.name ∈ (Assignment.effective layers).map Assignment.name :=
      List.mem_map_of_mem ha
    obtain ⟨l, hl, hmem⟩ := Assignment.mem_effective_names.mp hname
    exact ⟨l, hl, a.name, hmem, hkey⟩
  · rintro ⟨l, hl, name, hmem, hkey⟩
    obtain ⟨a, ha, rfl⟩ := List.mem_map.mp (Assignment.mem_effective_names.mpr ⟨l, hl, hmem⟩)
    exact ⟨a, ha, hkey⟩

/-- No entry is refused if no property that is set was removed. -/
theorem removed?_eq_none_iff (s : Snapshot) :
    s.removed? = none ↔ ∀ q ∈ s.entries.map Entry.property, q.stage.isRemoved = false := by
  show (s.entries.filterMap Entry.notice?).findSome? Notice.error? = none ↔ _
  rw [List.findSome?_eq_none_iff, List.forall_mem_map]
  constructor
  · intro h e he
    refine (Entry.error?_notice? e).mp ?_
    cases hnotice : e.notice? with
    | none => rfl
    | some n => exact h n (List.mem_filterMap.mpr ⟨e, he, hnotice⟩)
  · intro h n hn
    obtain ⟨e, he, hnotice⟩ := List.mem_filterMap.mp hn
    have hnone := (Entry.error?_notice? e).mpr (h e he)
    rw [hnotice] at hnone
    exact hnone

/-- **REMOVED PROPERTIES** are refused exactly if a layer names one. -/
theorem removed?_eq_none_iff_layers (h : ofLayers layers = .ok s) :
    s.removed? = none ↔ ∀ l ∈ layers, ∀ name ∈ l.values.map Prod.fst,
      ∀ q, Property.ofKey? name = some q → q.stage.isRemoved = false := by
  rw [removed?_eq_none_iff]
  constructor
  · intro hall l hl name hname q hkey
    exact hall q ((mem_properties_iff h q).mpr ⟨l, hl, name, hname, hkey⟩)
  · intro hall q hq
    obtain ⟨l, hl, name, hname, hkey⟩ := (mem_properties_iff h q).mp hq
    exact hall l hl name hname q hkey

end Snapshot

end BuildLayout
