import BuildLayout.Proofs.Arguments
import BuildLayout.Proofs.Collected
import BuildLayout.Proofs.Numerals
import BuildLayout.Proofs.Reports

/-! # Replaying what was resolved

    What a build resolved can be handed to another build: every entry of a snapshot, written as
    an argument `key=value`, is an argument that is taken (`givenProperty_append`), its text is
    read by the property as the value that was written (`Setting.read_shown`), and since the
    entries come in the order of their keys, one layer of them is taken in as it stands
    (`ofLayers_settings`).  The new snapshot has the same settings, and the values that a snapshot
    knows follow from its settings (`values_eq_of_settings`), and the place of packages from
    these (`overrides_eq_of_values`). -/

namespace BuildLayout

/-! ## Keys as names -/

/-- The key of a property can be written in front of an equals sign. -/
theorem Property.key_of_argument (p : Property) : p.key ≠ "" ∧ '=' ∉ p.key.toList := by
  -- A key is quicker to look through by its bytes than by its characters.
  have hbytes : ∀ q ∈ all, q.key ≠ "" ∧ 0x3D ∉ bytes q.key := by decide +kernel
  obtain ⟨hne, hnot⟩ := hbytes p (mem_all p)
  refine ⟨hne, fun hmem => hnot ?_⟩
  rw [bytes_eq_flatMap]
  exact List.mem_flatMap.mpr ⟨'=', hmem, by decide⟩

/-! ## Settings -/

namespace RawValue

theorem toInt_range (n : Int32) : -2147483648 ≤ n.toInt ∧ n.toInt ≤ 2147483647 := by
  have hlow : -2 ^ 31 ≤ n.toInt := n.le_toInt
  have hhigh : n.toInt < 2 ^ 31 := n.toInt_lt
  omega

theorem fitInt32?_eq_some_iff {n : Int32} {z : Int} :
    fitInt32? z = some n ↔ -2147483648 ≤ z ∧ z ≤ 2147483647 ∧ n.toInt = z := by
  rw [fitInt32?]
  constructor
  · intro h
    obtain ⟨⟨hlow, hhigh⟩, hn⟩ := Option.ite_none_right_eq_some.mp h
    refine ⟨hlow, hhigh, ?_⟩
    rw [← Option.some.inj hn]
    exact Int32.toInt_ofInt_of_le hlow (by omega)
  · rintro ⟨hlow, hhigh, rfl⟩
    rw [if_pos ⟨hlow, hhigh⟩, Int32.ofInt_toInt]

theorem fitInt32?_toInt (n : Int32) : fitInt32? n.toInt = some n :=
  fitInt32?_eq_some_iff.mpr ⟨(toInt_range n).1, (toInt_range n).2, rfl⟩

end RawValue

namespace Setting

/-- **VALUES READ BACK**: a property reads the text of a setting of its own as that setting. -/
theorem read_shown (s : Setting) : s.property.read (.text s.shown) = .ok s := by
  cases s with
  | number p n =>
      have hread : (RawValue.text n.toInt.repr).number? = some n := by
        show (Numeral.integer? n.toInt.repr.toList).bind RawValue.fitInt32? = some n
        rw [Numeral.integer?_repr, Option.bind_some, RawValue.fitInt32?_toInt]
      exact Property.read_number_eq_ok_iff.mpr hread
  | flag p b =>
      have hread : (RawValue.text (if b then "true" else "false")).flag? = some b := by
        cases b <;> decide
      show Property.read (.flag p) (.text (if b then "true" else "false")) = _
      simp only [Property.read, hread, Option.map_some]
  | text p t => rfl

/-- The setting as a property value given for a run. -/
def given (s : Setting) : String × RawValue := (s.property.key, .text s.shown)

/-- The entry that a setting leaves when its text is given by a source. -/
def entry (source : String) (s : Setting) : Entry := ⟨s, .text s.shown, source⟩

end Setting

/-! ## Entries -/

namespace Entry

/-- The entry as an argument of a command. -/
def argument (e : Entry) : String := e.key ++ "=" ++ e.setting.shown

theorem givenProperty_argument (e : Entry) : givenProperty e.argument = .ok e.setting.given :=
  givenProperty_append e.property.key_of_argument.1 e.property.key_of_argument.2 e.setting.shown

/-- The assignment of a setting's text is read as the setting. -/
theorem ofAssignment?_given (source : String) (s : Setting) :
    ofAssignment? ⟨s.property.key, .text s.shown, source⟩ = .ok (some (s.entry source)) :=
  ofAssignment?_eq_some_iff.mpr ⟨s.property, rfl, s.read_shown, rfl, rfl⟩

/-- **ENTRIES READ BACK**: assignments of the texts of settings give these settings. -/
theorem ofAssignments_given (source : String) (settings : List Setting) :
    ofAssignments (settings.map fun s => ⟨s.property.key, .text s.shown, source⟩)
      = .ok (settings.map (Setting.entry source)) := by
  induction settings with
  | nil => rfl
  | cons s rest ih =>
      rw [List.map_cons]
      simp only [ofAssignments, ofAssignment?_given, ih]
      rfl

end Entry

/-! ## Snapshots -/

namespace Snapshot

variable {layers : List Layer} {s t : Snapshot}

/-- **ONE LAYER OF SETTINGS**: settings in the order of their keys are taken in as they stand. -/
theorem ofLayers_settings {settings : List Setting}
    (h : settings.Pairwise fun x y => x.property.key < y.property.key) (source : String) :
    ofLayers [⟨source, settings.map Setting.given⟩]
      = .ok ⟨settings.map (Setting.entry source)⟩ := by
  have hassignments : [Layer.mk source (settings.map Setting.given)].flatMap Layer.assignments
      = settings.map fun s => ⟨s.property.key, .text s.shown, source⟩ := by
    rw [List.flatMap_singleton]
    show (settings.map Setting.given).map _ = _
    rw [List.map_map]
    rfl
  have hordered : ([Layer.mk source (settings.map Setting.given)].flatMap
      Layer.assignments).Pairwise (·.name < ·.name) := by
    rw [hassignments, List.pairwise_map]
    exact h
  simp only [ofLayers, Assignment.effective_of_pairwise hordered, hassignments,
    Entry.ofAssignments_given]
  rfl

end Snapshot

/-! ## What follows from the settings -/

/-- What is found among entries depends on their settings only. -/
theorem Setting.Reader.find?_eq_of_settings {α β : Type} (r : Setting.Reader α β)
    {entries others : List Entry} (h : others.map Entry.setting = entries.map Entry.setting) :
    r.find? others = r.find? entries := by
  have hfind : ∀ (xs : List Entry) (p : α),
      r.find? xs p = (xs.map Entry.setting).findSome? (r.read p) := by
    intro xs p
    rw [List.findSome?_map]
    rfl
  funext p
  rw [hfind, hfind, h]

namespace Snapshot

variable {layers : List Layer} {s t : Snapshot}

/-- Snapshots of the same settings have the same values. -/
theorem values_eq_of_settings (h : t.entries.map Entry.setting = s.entries.map Entry.setting) :
    t.number? = s.number? ∧ t.flag? = s.flag? ∧ t.text? = s.text? :=
  ⟨Setting.numbers.find?_eq_of_settings h, Setting.flags.find?_eq_of_settings h,
    Setting.texts.find?_eq_of_settings h⟩

/-- The place of packages depends on the values of numbers and texts only. -/
theorem overrides_eq_of_values (hnumbers : t.number? = s.number?) (htexts : t.text? = s.text?) :
    t.overrides = s.overrides := by
  funext directory
  simp only [overrides, hnumbers, htexts]

/-- What the pass collects where the snapshot is known. -/
theorem collected_of_ofLayers (h : ofLayers layers = .ok s) :
    Collected.ofLayers layers = .ok s.collected := by
  rw [Collected.ofLayers_eq, h]
  rfl

/-- **WHAT WAS RESOLVED REPLAYS**: the entries of a snapshot, written as arguments, are all
    taken, and a single layer of what they give, whatever it is called, is read without refusal
    into the same values, the same settings of the same stages in the same order, and the same
    place of packages for every project directory. -/
theorem resolved_settings_replay (h : ofLayers layers = .ok s) :
    Collected.ofLayers layers = .ok s.collected
      ∧ ∃ given : List (String × RawValue),
          s.entries.mapM (fun e => givenProperty e.argument) = .ok given
          ∧ ∀ source : String, ∃ t, ofLayers [⟨source, given⟩] = .ok t
              ∧ Collected.ofLayers [⟨source, given⟩] = .ok t.collected
              ∧ t.collected.numbers = s.collected.numbers
              ∧ t.collected.flags = s.collected.flags
              ∧ t.collected.texts = s.collected.texts
              ∧ t.collected.entries.map (fun e => (e.key, e.stage, e.setting))
                  = s.collected.entries.map (fun e => (e.key, e.stage, e.setting))
              ∧ ∀ directory, t.overrides directory = s.overrides directory := by
  have hordered : (s.entries.map Entry.setting).Pairwise
      fun x y => x.property.key < y.property.key :=
    List.pairwise_map.mpr (pairwise_key h)
  refine ⟨collected_of_ofLayers h, (s.entries.map Entry.setting).map Setting.given, ?_, ?_⟩
  · rw [List.map_map]
    exact mapM_eq_ok fun e _ => e.givenProperty_argument
  · intro source
    have hread := ofLayers_settings hordered source
    have hsettings : (((s.entries.map Entry.setting).map (Setting.entry source)).map Entry.setting)
        = s.entries.map Entry.setting := by
      rw [List.map_map]
      exact List.map_id _
    obtain ⟨hnumbers, hflags, htexts⟩ := values_eq_of_settings
      (t := ⟨(s.entries.map Entry.setting).map (Setting.entry source)⟩) hsettings
    refine ⟨_, hread, collected_of_ofLayers hread, hnumbers, hflags, htexts, ?_, ?_⟩
    · -- Key and stage of an entry are those of its setting.
      have hviews : ∀ entries : List Entry, entries.map (fun e => (e.key, e.stage, e.setting))
          = (entries.map Entry.setting).map fun x => (x.property.key, x.property.stage, x) := by
        intro entries
        rw [List.map_map]
        rfl
      exact (hviews _).trans ((congrArg _ hsettings).trans (hviews _).symm)
    · exact congrFun (overrides_eq_of_values hnumbers htexts)

/-- Layers with values of every shape: an integer that wraps, a flag, a float and a text for
    texts, an empty one among them, and a value that the second layer overrides. -/
def mixedLayers : List Layer :=
  [⟨"project file",
     [("android.r8.maxWorkers", .integer 4294967293), ("android.useAndroidX", .boolean true),
      ("android.injected.build.density", .float ⟨0x407E080000000000⟩),
      ("android.injected.apk.location", .text "old"), ("org.example.unknown", .text "x")]⟩,
   ⟨"command line",
     [("android.injected.apk.location", .text "out=a=b"), ("android.injected.build.abi", .text ""),
      ("android.threadPoolSize", .text "-007")]⟩]

theorem resolved_settings_replay_mixedLayers :
    ∃ s, ofLayers mixedLayers = .ok s
      ∧ s.entries.map Entry.argument
          = ["android.injected.apk.location=out=a=b", "android.injected.build.abi=",
             "android.injected.build.density=480.5", "android.r8.maxWorkers=-3",
             "android.threadPoolSize=-7", "android.useAndroidX=true"]
      ∧ ∃ given : List (String × RawValue),
          s.entries.mapM (fun e => givenProperty e.argument) = .ok given
          ∧ ∃ t, ofLayers [⟨"command line", given⟩] = .ok t
              ∧ t.collected.numbers = s.collected.numbers
              ∧ t.collected.flags = s.collected.flags
              ∧ t.collected.texts = s.collected.texts
              ∧ ∀ directory, t.overrides directory = s.overrides directory := by
  have hread : ofLayers mixedLayers = .ok _ := rfl
  obtain ⟨-, given, hgiven, hreplay⟩ := resolved_settings_replay hread
  obtain ⟨t, ht, -, hnumbers, hflags, htexts, -, hoverrides⟩ := hreplay "command line"
  exact ⟨_, hread, by decide +kernel, given, hgiven, t, ht, hnumbers, hflags, htexts, hoverrides⟩

end Snapshot

end BuildLayout
