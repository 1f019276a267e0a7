import BuildLayout.Property.Collected
import BuildLayout.Proofs.Snapshots

/-! # Five collections, one meaning

    The pass over the assignments fills its five collections side by side.  A step adds at most
    one entry (`visit_eq`), since at most one family has a property of a name, and so the run
    adds the entries of the snapshot one after the other (`foldlM_visit`).  Tables keep what is
    written last and a snapshot finds what stands first; no property has two entries, so they
    agree, and the pass collects what the snapshot shows (`ofLayers_eq`).

    `Reflects` says what that is in terms of the layers, and `meaning_of_layers` that every pass
    collects it. -/

namespace BuildLayout

/-! ## Families -/

theorem NumberProperty.key_of_ofKey? {key : String} {p : NumberProperty}
    (h : ofKey? key = some p) : (Property.number p).key = key :=
  key_of_find? (x := p) h

theorem FlagProperty.key_of_ofKey? {key : String} {p : FlagProperty}
    (h : ofKey? key = some p) : (Property.flag p).key = key :=
  key_of_find? (x := p) h

theorem TextProperty.key_of_ofKey? {key : String} {p : TextProperty}
    (h : ofKey? key = some p) : (Property.text p).key = key :=
  key_of_find? (x := p) h

namespace Property

theorem ofKey?_eq_or (key : String) :
    ofKey? key = ((NumberProperty.ofKey? key).map number).or
      (((FlagProperty.ofKey? key).map flag).or ((TextProperty.ofKey? key).map text)) := by
  show List.find? _ (_ ++ _ ++ _) = _
  rw [List.find?_append, List.find?_append, List.find?_map, List.find?_map, List.find?_map,
    Option.or_assoc]
  rfl

/-- **ONE FAMILY FOR A NAME**: asking one family after the other finds what asking for the
    property does. -/
theorem withKey_eq (key : String) : withKey key = (ofKey? key).toList := by
  -- Two families with a property of the name would have the same property.
  have hsame : ∀ {p q : Property}, p.key = key → q.key = key → p = q :=
    fun hp hq => key_injective (hp.trans hq.symm)
  rw [ofKey?_eq_or, withKey]
  cases hN : NumberProperty.ofKey? key with
  | some p =>
      have hp : (number p).key = key := NumberProperty.key_of_ofKey? hN
      have hF : FlagProperty.ofKey? key = none := by
        refine Option.eq_none_iff_forall_not_mem.mpr fun q hq => ?_
        exact nomatch hsame hp (FlagProperty.key_of_ofKey? hq)
      have hT : TextProperty.ofKey? key = none := by
        refine Option.eq_none_iff_forall_not_mem.mpr fun q hq => ?_
        exact nomatch hsame hp (TextProperty.key_of_ofKey? hq)
      rw [hF, hT]
      rfl
  | none =>
      cases hF : FlagProperty.ofKey? key with
      | some p =>
          have hp : (flag p).key = key := FlagProperty.key_of_ofKey? hF
          have hT : TextProperty.ofKey? key = none := by
            refine Option.eq_none_iff_forall_not_mem.mpr fun q hq => ?_
            exact nomatch hsame hp (TextProperty.key_of_ofKey? hq)
          rw [hT]
          rfl
      | none =>
          cases TextProperty.ofKey? key with
          | some p => rfl
          | none => rfl

end Property

/-! ## The pass -/

namespace Collected

variable {c : Collected} {layers : List Layer}

/-- **STEP OF THE PASS**: an assignment adds its entry, if it has one. -/
theorem visit_eq (c : Collected) (a : Assignment) :
    c.visit a = (Entry.ofAssignment? a).map fun found => found.elim c c.add := by
  show (Property.withKey a.name).foldlM (fun c p => c.record a p) c = _
  rw [Property.withKey_eq]
  simp only [Entry.ofAssignment?]
  cases Property.ofKey? a.name with
  | none => rfl
  | some p =>
      show (c.record a p >>= pure) = _
      rw [bind_pure]
      dsimp only [record]
      cases p.read a.value with
      | error e => rfl
      | ok s => rfl

/-- **RUN OF THE PASS**: it adds the entries of the assignments one after the other. -/
theorem foldlM_visit (assignments : List Assignment) (c : Collected) :
    assignments.foldlM visit c
      = (Entry.ofAssignments assignments).map fun entries => entries.foldl add c := by
  induction assignments generalizing c with
  | nil => rfl
  | cons a rest ih =>
      rw [List.foldlM_cons, visit_eq]
      simp only [Entry.ofAssignments]
      cases Entry.ofAssignment? a with
      | error e => rfl
      | ok found =>
          show rest.foldlM visit (found.elim c c.add) = _
          rw [ih]
          cases Entry.ofAssignments rest with
          | error e => rfl
          | ok others =>
              cases found with
              | none => rfl
              | some e => rfl

/-! ## Agreement -/

theorem numbers_add (c : Collected) (e : Entry) (p : NumberProperty) :
    (c.add e).numbers p = (Setting.numbers.read p e.setting).or (c.numbers p) := by
  show (c.put e.setting).numbers p = _
  cases e.setting with
  | number q n => by_cases h : q = p <;> simp [put, Setting.numbers, h]
  | flag q b => rfl
  | text q t => rfl

theorem flags_add (c : Collected) (e : Entry) (p : FlagProperty) :
    (c.add e).flags p = (Setting.flags.read p e.setting).or (c.flags p) := by
  show (c.put e.setting).flags p = _
  cases e.setting with
  | number q n => rfl
  | flag q b => by_cases h : q = p <;> simp [put, Setting.flags, h]
  | text q t => rfl

theorem texts_add (c : Collected) (e : Entry) (p : TextProperty) :
    (c.add e).texts p = (Setting.texts.read p e.setting).or (c.texts p) := by
  show (c.put e.setting).texts p = _
  cases e.setting with
  | number q n => rfl
  | flag q b => rfl
  | text q t => by_cases h : q = p <;> simp [put, Setting.texts, h]

theorem entries_foldl_add (entries : List Entry) (c : Collected) :
    (entries.foldl add c).entries = c.entries ++ entries := by
  induction entries generalizing c with
  | nil => exact (List.append_nil _).symm
  | cons e rest ih =>
      rw [List.foldl_cons, ih]
      exact List.append_assoc c.entries [e] rest

theorem notices_foldl_add (entries : List Entry) (c : Collected) :
    (entries.foldl add c).notices = c.notices ++ entries.filterMap Entry.notice? := by
  induction entries generalizing c with
  | nil => exact (List.append_nil _).symm
  | cons e rest ih =>
      rw [List.foldl_cons, ih]
      show (c.notices ++ e.notice?.toList) ++ _ = _
      rw [List.append_assoc]
      cases hnotice : e.notice? with
      | none => rw [List.filterMap_cons_none hnotice]; rfl
      | some n => rw [List.filterMap_cons_some hnotice]; rfl

/-- A table that each entry of its family writes to shows, where no property has two entries,
    what is found among the entries. -/
theorem table_foldl_add {α β : Type} (r : Setting.Reader α β) {table : Collected → α → Option β}
    (hadd : ∀ c e p, table (c.add e) p = (r.read p e.setting).or (table c p))
    (hempty : ∀ p, table {} p = none) {entries : List Entry}
    (h : entries.Pairwise fun e e' => e.property ≠ e'.property) :
    table (entries.foldl add {}) = r.find? entries := by
  funext p
  -- The table has what was written last, the search finds what stands first.
  have hlast := read_foldl (f := fun c => table c p) (fun c e => hadd c e p) {} entries
  rw [hempty, Option.or_none] at hlast
  exact hlast.trans (r.find?_reverse h)

/-- **AGREEMENT**: where no property has two entries, all collections show the entries. -/
theorem foldl_add_eq {entries : List Entry}
    (h : entries.Pairwise fun e e' => e.property ≠ e'.property) :
    entries.foldl add {} = (Snapshot.mk entries).collected := by
  refine Collected.ext ?_ ?_ ?_ ?_ ?_
  · exact table_foldl_add Setting.numbers numbers_add (fun _ => rfl) h
  · exact table_foldl_add Setting.flags flags_add (fun _ => rfl) h
  · exact table_foldl_add Setting.texts texts_add (fun _ => rfl) h
  · exact (entries_foldl_add entries {}).trans (List.nil_append _)
  · exact (notices_foldl_add entries {}).trans (List.nil_append _)

/-- **WHAT THE PASS COLLECTS** is what the snapshot shows. -/
theorem ofLayers_eq (layers : List Layer) :
    ofLayers layers = (Snapshot.ofLayers layers).map Snapshot.collected := by
  show (Assignment.effective layers).foldlM visit {} = _
  rw [foldlM_visit]
  cases hentries : Entry.ofAssignments (Assignment.effective layers) with
  | error e => simp only [Snapshot.ofLayers, hentries]; rfl
  | ok entries =>
      have hsnapshot : Snapshot.ofLayers layers = .ok ⟨entries⟩ := by
        simp only [Snapshot.ofLayers, hentries]
        rfl
      rw [hsnapshot]
      exact congrArg Except.ok (foldl_add_eq (Snapshot.pairwise_property hsnapshot))

end Collected

/-! ## Notices -/

/-- The notice that an entry calls for. -/
inductive Notice.On (e : Entry) : Notice → Prop where
  | experimental (h : e.stage = .experimental) : On e (.experimental e.key e.raw.shown e.source)
  | removed {since : Release} {advice : String} (h : e.stage = .removed since advice) :
      On e (.removed e.key since advice e.source)

/-- Each entry for a property that is not stable has one notice, in the same order. -/
theorem Notice.forall₂_on (entries : List Entry) :
    List.Forall₂ Notice.On (entries.filter fun e => e.stage ≠ .stable)
      (entries.filterMap Entry.notice?) := by
  induction entries with
  | nil => exact .nil
  | cons e rest ih =>
      cases hstage : e.stage with
      | stable =>
          have hnotice : e.notice? = none := by simp only [Entry.notice?, hstage]
          rw [List.filter_cons_of_neg (by simp [hstage]), List.filterMap_cons_none hnotice]
          exact ih
      | experimental =>
          have hnotice : e.notice? = some (.experimental e.key e.raw.shown e.source) := by
            simp only [Entry.notice?, hstage]
          rw [List.filter_cons_of_pos (by simp [hstage]), List.filterMap_cons_some hnotice]
          exact .cons (.experimental hstage) ih
      | removed since advice =>
          have hnotice : e.notice? = some (.removed e.key since advice e.source) := by
            simp only [Entry.notice?, hstage]
          rw [List.filter_cons_of_pos (by simp [hstage]), List.filterMap_cons_some hnotice]
          exact .cons (.removed hstage) ih

/-! ## The meaning of layers -/

namespace Collected

variable {c : Collected} {layers : List Layer}

/-- What is collected from layers. -/
structure Reflects (c : Collected) (layers : List Layer) : Prop where
  /-- Each entry is about a property that is set, and has what is set last. -/
  entry : ∀ e ∈ c.entries, ∃ (p : Property) (a : Assignment),
    Assignment.last? layers p.key = some a ∧ e.key = p.key ∧ e.stage = p.stage
      ∧ p.read a.value = .ok e.setting ∧ e.raw = a.value ∧ e.source = a.source
  /-- Each property that is set has an entry. -/
  complete : ∀ (p : Property) (a : Assignment), Assignment.last? layers p.key = some a →
    ∃ e ∈ c.entries, e.key = p.key
  ordered : c.entries.Pairwise fun e e' => bytes e.key < bytes e'.key
  numbers : ∀ p n, c.numbers p = some n ↔ ∃ e ∈ c.entries, e.setting = .number p n
  texts : ∀ p t, c.texts p = some t ↔ ∃ e ∈ c.entries, e.setting = .text p t
  flag : ∀ p, ∀ e ∈ c.entries, ∀ b, e.setting = .flag p b → c.flag p = b
  flag_default : ∀ p, (∀ e ∈ c.entries, e.key ≠ (Property.flag p).key) → c.flag p = p.default
  /-- Experimental and removed properties have their notices, in the order of the entries. -/
  notices : List.Forall₂ Notice.On (c.entries.filter fun e => e.stage ≠ .stable) c.notices

/-- What a pass collects reflects the layers. -/
theorem reflects_of_ofLayers (h : ofLayers layers = .ok c) : c.Reflects layers := by
  rw [ofLayers_eq] at h
  obtain ⟨s, hlayers, rfl⟩ := map_eq_ok_iff.mp h
  have hone := Snapshot.pairwise_property hlayers
  have hflags : ∀ p b, s.flag? p = some b ↔ ∃ e ∈ s.entries, e.setting = .flag p b :=
    fun p b => Setting.flags.find?_eq_some_iff hone
  refine ⟨?_, ?_, ?_, ?_, ?_, ?_, ?_, Notice.forall₂_on s.entries⟩
  · intro e he
    obtain ⟨p, a, hlast, hread, hraw, hsource⟩ := (Snapshot.mem_entries_iff hlayers e).mp he
    have hp : e.property = p := Property.property_of_read hread
    exact ⟨p, a, hlast, congrArg Property.key hp, congrArg Property.stage hp, hread, hraw,
      hsource⟩
  · intro p a hlast
    obtain ⟨e, he, hp⟩ := Snapshot.exists_entry hlayers hlast
    exact ⟨e, he, congrArg Property.key hp⟩
  · exact (Snapshot.pairwise_key hlayers).imp bytes_lt
  · exact fun p n => Setting.numbers.find?_eq_some_iff hone
  · exact fun p t => Setting.texts.find?_eq_some_iff hone
  · intro p e he b hset
    show (s.flag? p).getD p.default = b
    rw [(hflags p b).mpr ⟨e, he, hset⟩]
    rfl
  · intro p hunset
    have hnone : s.flag? p = none := by
      refine Option.eq_none_iff_forall_not_mem.mpr fun b hb => ?_
      obtain ⟨e, he, hset⟩ := (hflags p b).mp hb
      exact hunset e he (congrArg (fun s => s.property.key) hset)
    show (s.flag? p).getD p.default = p.default
    rw [hnone]
    rfl

/-- **MEANING OF LAYERS**: the pass succeeds exactly if the last value of each property that is
    set suits it, and then what it collects reflects the layers. -/
theorem meaning_of_layers (layers : List Layer) :
    ((∃ c, ofLayers layers = .ok c)
        ↔ ∀ (p : Property) (a : Assignment), Assignment.last? layers p.key = some a →
            ∃ s, p.read a.value = .ok s)
      ∧ ∀ c, ofLayers layers = .ok c → c.Reflects layers := by
  refine ⟨?_, fun c h => reflects_of_ofLayers h⟩
  rw [← Snapshot.exists_ofLayers_iff, ofLayers_eq]
  constructor
  · rintro ⟨c, hc⟩
    cases hlayers : Snapshot.ofLayers layers with
    | error e =>
        rw [hlayers] at hc
        cases hc
    | ok s => exact ⟨s, rfl⟩
  · rintro ⟨s, hs⟩
    refine ⟨s.collected, ?_⟩
    rw [hs]
    rfl

/-- Two layers that set a removed, an experimental and a stable property and a name of none; the
    second one overrides a value of the first. -/
def sampleLayers : List Layer :=
  [⟨"project file",
     [("android.threadPoolSize", .integer 4), ("android.r8.maxWorkers", .integer 2),
      ("android.useAndroidX", .boolean true), ("org.example.unknown", .text "x")]⟩,
   ⟨"command line", [("android.r8.maxWorkers", .text "8")]⟩]

theorem reflects_sampleLayers :
    ∃ c, ofLayers sampleLayers = .ok c ∧ c.entries.length = 3 ∧ c.notices.length = 2
      ∧ c.Reflects sampleLayers := by
  have hpass : ofLayers sampleLayers = .ok _ := rfl
  exact ⟨_, hpass, rfl, rfl, (meaning_of_layers sampleLayers).2 _ hpass⟩

end Collected

end BuildLayout
