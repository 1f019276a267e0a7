import Mathlib.Data.List.Sort
import BuildLayout.Project.Basic
import BuildLayout.Proofs.Collected

/-! # Only last values count

    A pass over the properties reads what each of them is set to last.  It fails exactly if one
    of these values does not suit its property, on account of the first such property in the
    order of keys (`ofLayers_eq_error_iff`): the assignments are visited in this order, and a
    search of an ordered list finds what comes first in it.

    Nothing else in the layers matters.  Two lists of assignments in the order of their names
    are the same if the same assignments are in them, and names of no property may be left out
    (`ofAssignments_filter`); so layers that set every property to the same value from the same
    source have the same outcome (`only_last_values_count`).

    A project and a run are two such layers.  What they say last is found among their values,
    those given for the run behind the project's own (`map_value_last?_layers`). -/

namespace BuildLayout

/-! ## Refused values -/

/-- A refusal names the property and the value. -/
theorem Property.eq_of_read_eq_error {p : Property} {v : RawValue} {e : PropertyError}
    (h : p.read v = .error e) : e = .invalidValue p v := by
  simp only [Property.read] at h
  split at h
  · exact nomatch h
  · exact (Except.error.inj h).symm

/-- A value is refused if it does not suit, on account of the property and the value. -/
theorem Property.read_eq_error_iff {p : Property} {v : RawValue} {e : PropertyError} :
    p.read v = .error e ↔ (∀ s, p.read v ≠ .ok s) ∧ e = .invalidValue p v := by
  constructor
  · intro h
    refine ⟨fun s hs => ?_, Property.eq_of_read_eq_error h⟩
    rw [h] at hs
    exact nomatch hs
  · rintro ⟨hunsuitable, rfl⟩
    cases hread : p.read v with
    | ok s => exact absurd hread (hunsuitable s)
    | error e => rw [Property.eq_of_read_eq_error hread]

namespace Assignment

/-- The layers set the property at last to a value that does not suit it. -/
def Unsuitable (layers : List Layer) (p : Property) (v : RawValue) : Prop :=
  (last? layers p.key).map Assignment.value = some v ∧ ∀ s, p.read v ≠ .ok s

/-- The unsuitable value of the property that comes first in the order of keys. -/
def FirstUnsuitable (layers : List Layer) (p : Property) (v : RawValue) : Prop :=
  Unsuitable layers p v ∧ ∀ q w, Unsuitable layers q w → q = p ∨ bytes p.key < bytes q.key

end Assignment

namespace Entry

/-- An assignment is refused if the property of its name refuses its value. -/
theorem ofAssignment?_eq_error_iff {a : Assignment} {e : PropertyError} :
    ofAssignment? a = .error e ↔ ∃ p : Property, p.key = a.name ∧ p.read a.value = .error e := by
  constructor
  · intro h
    cases hproperty : a.property? with
    | none =>
        rw [ofAssignment?_of_none hproperty] at h
        exact nomatch h
    | some p =>
        rw [ofAssignment?_of_some hproperty, map_eq_error_iff] at h
        exact ⟨p, Property.ofKey?_eq_some_iff.mp hproperty, h⟩
  · rintro ⟨p, hkey, hread⟩
    rw [ofAssignment?_of_some (Property.ofKey?_eq_some_iff.mpr hkey), hread]
    rfl

/-- The refusal of an assignment. -/
def refusal? (a : Assignment) : Option PropertyError :=
  match ofAssignment? a with
  | .ok _ => none
  | .error e => some e

theorem refusal?_eq_some_iff {a : Assignment} {e : PropertyError} :
    refusal? a = some e ↔ ∃ p : Property, p.key = a.name ∧ p.read a.value = .error e := by
  rw [← ofAssignment?_eq_error_iff, refusal?]
  cases ofAssignment? a with
  | error cause =>
      exact ⟨fun h => congrArg Except.error (Option.some.inj h),
        fun h => congrArg some (Except.error.inj h)⟩
  | ok found => exact ⟨fun h => (nomatch h), fun h => (nomatch h)⟩

/-- Reading assignments fails with the first refusal. -/
theorem ofAssignments_eq_error_iff {assignments : List Assignment} {e : PropertyError} :
    ofAssignments assignments = .error e ↔ assignments.findSome? refusal? = some e := by
  induction assignments with
  | nil => exact ⟨fun h => (nomatch h), fun h => (nomatch h)⟩
  | cons a rest ih =>
      cases hfirst : ofAssignment? a with
      | error cause =>
          have hrefusal : refusal? a = some cause := by simp only [refusal?, hfirst]
          rw [ofAssignments_cons_of_error hfirst, List.findSome?_cons, hrefusal]
          exact ⟨fun h => congrArg some (Except.error.inj h),
            fun h => congrArg Except.error (Option.some.inj h)⟩
      | ok found =>
          have hrefusal : refusal? a = none := by simp only [refusal?, hfirst]
          rw [ofAssignments_cons_of_ok hfirst, map_eq_error_iff, ih, List.findSome?_cons, hrefusal]

/-- Names of no property play no part. -/
theorem ofAssignments_filter (assignments : List Assignment) :
    ofAssignments (assignments.filter fun a => a.property?.isSome) = ofAssignments assignments := by
  induction assignments with
  | nil => rfl
  | cons a rest ih =>
      cases hproperty : a.property? with
      | some p =>
          rw [List.filter_cons_of_pos (by rw [hproperty]; rfl)]
          simp only [ofAssignments, ih]
      | none =>
          rw [List.filter_cons_of_neg (by rw [hproperty]; exact Bool.false_ne_true), ih,
            ofAssignments_cons_of_ok (ofAssignment?_of_none hproperty)]
          cases ofAssignments rest with
          | error e => rfl
          | ok others => rfl

end Entry

/-! ## Outcomes -/

namespace Assignment

variable {layers layers' : List Layer}

/-- The assignments that count and are for a property are settled by what each property is set
    to last. -/
theorem filter_effective_eq
    (h : ∀ p : Property, last? layers' p.key = last? layers p.key) :
    (effective layers').filter (fun a => a.property?.isSome)
      = (effective layers).filter fun a => a.property?.isSome := by
  have hirrefl : Std.Irrefl fun a b : Assignment => a.name < b.name :=
    ⟨fun a => String.lt_irrefl a.name⟩
  refine ((pairwise_effective layers').filter _).eq_of_mem_iff
    ((pairwise_effective layers).filter _) ?_
  intro a
  rw [List.mem_filter, List.mem_filter, mem_effective_iff, mem_effective_iff]
  refine and_congr_left fun hproperty => ?_
  obtain ⟨p, hp⟩ := Option.isSome_iff_exists.mp hproperty
  have hkey : p.key = a.name := Property.ofKey?_eq_some_iff.mp hp
  rw [← hkey, h p]

/-- An assignment that counts is refused for a value that does not suit its property. -/
theorem unsuitable_of_refusal? {a : Assignment} (ha : a ∈ effective layers) {e : PropertyError}
    (h : Entry.refusal? a = some e) :
    ∃ p : Property, p.key = a.name ∧ Unsuitable layers p a.value ∧ e = .invalidValue p a.value := by
  obtain ⟨p, hkey, hread⟩ := Entry.refusal?_eq_some_iff.mp h
  obtain ⟨hunsuitable, he⟩ := Property.read_eq_error_iff.mp hread
  refine ⟨p, hkey, ⟨?_, hunsuitable⟩, he⟩
  rw [hkey, mem_effective_iff.mp ha]
  rfl

/-- An unsuitable value stands in an assignment that counts and is refused. -/
theorem Unsuitable.exists_refusal? {p : Property} {v : RawValue} (h : Unsuitable layers p v) :
    ∃ a ∈ effective layers, a.name = p.key
      ∧ Entry.refusal? a = some (.invalidValue p v) := by
  obtain ⟨hvalue, hunsuitable⟩ := h
  obtain ⟨a, hlast, rfl⟩ := Option.map_eq_some_iff.mp hvalue
  have hname : a.name = p.key := name_of_last? hlast
  refine ⟨a, ?_, hname, ?_⟩
  · rw [mem_effective_iff, hname]
    exact hlast
  · exact Entry.refusal?_eq_some_iff.mpr
      ⟨p, hname.symm, Property.read_eq_error_iff.mpr ⟨hunsuitable, rfl⟩⟩

end Assignment

namespace Snapshot

variable {layers layers' : List Layer}

/-- **THE FIRST UNSUITABLE VALUE** in the order of keys is what a snapshot fails for. -/
theorem ofLayers_eq_error_iff {e : PropertyError} :
    ofLayers layers = .error e
      ↔ ∃ p v, Assignment.FirstUnsuitable layers p v ∧ e = .invalidValue p v := by
  rw [ofLayers, map_eq_error_iff, Entry.ofAssignments_eq_error_iff,
    findSome?_eq_some_iff_of_order (fun a b => String.lt_asymm)
      (Assignment.pairwise_effective layers)]
  constructor
  · rintro ⟨a, ha, hrefusal, hfirst⟩
    obtain ⟨p, hkey, hunsuitable, he⟩ := Assignment.unsuitable_of_refusal? ha hrefusal
    refine ⟨p, a.value, ⟨hunsuitable, ?_⟩, he⟩
    intro q w hother
    obtain ⟨b, hb, hname, hrefused⟩ := hother.exists_refusal?
    rcases hfirst b hb ⟨_, hrefused⟩ with rfl | hlt
    · exact Or.inl (Property.key_injective (hname.symm.trans hkey.symm))
    · rw [← hkey, hname] at hlt
      exact Or.inr (bytes_lt hlt)
  · rintro ⟨p, v, ⟨hunsuitable, hfirst⟩, rfl⟩
    obtain ⟨a, ha, hname, hrefusal⟩ := hunsuitable.exists_refusal?
    refine ⟨a, ha, hrefusal, ?_⟩
    rintro b hb ⟨cause, hrefused⟩
    obtain ⟨q, hkey, hother, -⟩ := Assignment.unsuitable_of_refusal? hb hrefused
    rcases hfirst q b.value hother with rfl | hlt
    · -- One name has one assignment that counts.
      have hlast := Assignment.mem_effective_iff.mp hb
      rw [← hkey, ← hname, Assignment.mem_effective_iff.mp ha] at hlast
      exact Or.inl (Option.some.inj hlast).symm
    · rw [hname, ← hkey]
      exact Or.inr (lt_of_bytes_lt hlt)

/-- A snapshot fails exactly if some property is set at last to a value that does not suit. -/
theorem exists_ofLayers_eq_error_iff (layers : List Layer) :
    (∃ e, ofLayers layers = .error e) ↔ ∃ p v, Assignment.Unsuitable layers p v := by
  constructor
  · rintro ⟨e, he⟩
    obtain ⟨p, v, hfirst, -⟩ := ofLayers_eq_error_iff.mp he
    exact ⟨p, v, hfirst.1⟩
  · rintro ⟨p, v, hvalue, hunsuitable⟩
    cases hlayers : ofLayers layers with
    | error e => exact ⟨e, rfl⟩
    | ok s =>
        obtain ⟨a, hlast, rfl⟩ := Option.map_eq_some_iff.mp hvalue
        obtain ⟨setting, hread⟩ := (exists_ofLayers_iff layers).mp ⟨s, hlayers⟩ p a hlast
        exact absurd hread (hunsuitable setting)

/-- **NOTHING ELSE MATTERS**: layers that set each property to the same value from the same
    source have the same snapshot, or fail for the same reason. -/
theorem ofLayers_eq_of_last?
    (h : ∀ p : Property, Assignment.last? layers' p.key = Assignment.last? layers p.key) :
    ofLayers layers' = ofLayers layers := by
  simp only [ofLayers]
  rw [← Entry.ofAssignments_filter, Assignment.filter_effective_eq h, Entry.ofAssignments_filter]

end Snapshot

namespace Collected

/-- **ONLY LAST VALUES COUNT**: a pass fails exactly if some property is set at last to a value
    that does not suit it, for the first such property in the order of the bytes of the keys.
    Layers that set each property to the same value from the same source have the same outcome,
    whatever else is in them. -/
theorem only_last_values_count (layers : List Layer) :
    ((∃ e, ofLayers layers = .error e) ↔ ∃ p v, Assignment.Unsuitable layers p v)
      ∧ (∀ e, ofLayers layers = .error e
          ↔ ∃ p v, Assignment.FirstUnsuitable layers p v ∧ e = .invalidValue p v)
      ∧ ∀ layers' : List Layer,
          (∀ p : Property, Assignment.last? layers' p.key = Assignment.last? layers p.key) →
          ofLayers layers' = ofLayers layers := by
  simp only [ofLayers_eq layers, map_eq_error_iff]
  refine ⟨Snapshot.exists_ofLayers_eq_error_iff layers,
    fun e => Snapshot.ofLayers_eq_error_iff, ?_⟩
  intro layers' h
  rw [ofLayers_eq, Snapshot.ofLayers_eq_of_last? h]

/-- Layers in which two properties have unsuitable values at last, one of them in place of a
    suitable value. -/
def refusedLayers : List Layer :=
  [⟨"project file",
     [("android.threadPoolSize", .boolean true), ("android.r8.maxWorkers", .integer 2)]⟩,
   ⟨"command line",
     [("android.r8.maxWorkers", .text "8"), ("android.r8.maxWorkers", .text "many")]⟩]

/-- The same last values in another order, with a name of no property and with values that are
    overridden, one of them unsuitable. -/
def shuffledLayers : List Layer :=
  [⟨"command line",
     [("android.r8.maxWorkers", .boolean false), ("android.r8.maxWorkers", .text "many")]⟩,
   ⟨"project file",
     [("org.example.unknown", .text "x"), ("android.threadPoolSize", .boolean true)]⟩]

theorem only_last_values_count_refusedLayers :
    Assignment.Unsuitable refusedLayers (.number .threads) (.boolean true)
      ∧ Assignment.FirstUnsuitable refusedLayers (.number .shrinkerWorkers) (.text "many")
      ∧ ofLayers refusedLayers
        = .error (.invalidValue (.number .shrinkerWorkers) (.text "many"))
      ∧ (∀ p : Property,
          Assignment.last? shuffledLayers p.key = Assignment.last? refusedLayers p.key)
      ∧ ofLayers shuffledLayers
        = .error (.invalidValue (.number .shrinkerWorkers) (.text "many")) := by
  have hrefused : ofLayers refusedLayers
      = .error (.invalidValue (.number .shrinkerWorkers) (.text "many")) := rfl
  have hsame : ∀ p ∈ Property.all,
      Assignment.last? shuffledLayers p.key = Assignment.last? refusedLayers p.key := by
    decide +kernel
  obtain ⟨-, hfirst, hothers⟩ := only_last_values_count refusedLayers
  obtain ⟨p, v, hfound, he⟩ := (hfirst _).mp hrefused
  obtain ⟨rfl, rfl⟩ := PropertyError.invalidValue.inj he
  refine ⟨⟨rfl, fun s hs => (nomatch hs)⟩, hfound, hrefused,
    fun p => hsame p (Property.mem_all p), ?_⟩
  rw [hothers shuffledLayers fun p => hsame p (Property.mem_all p), hrefused]

end Collected

/-! ## Values of a project and a run -/

/-- The value found last among the layers is the one found last among their values. -/
theorem Assignment.last?_map_value (layers : List Layer) (name : String) :
    (last? layers name).map Assignment.value
      = ((layers.flatMap Layer.values).reverse.find? (·.1 == name)).map Prod.snd := by
  have hvalues : layers.flatMap Layer.values
      = (layers.flatMap Layer.assignments).map fun a => (a.name, a.value) := by
    rw [List.map_flatMap]
    congr 1
    funext l
    show l.values = (l.values.map _).map _
    rw [List.map_map]
    exact (List.map_id _).symm
  rw [hvalues, ← List.map_reverse, List.find?_map, Option.map_map]
  rfl

namespace Project

variable {p : Project} {given : List (String × RawValue)} {q : Property} {v : RawValue}

/-- The value that a name has at last, the values given for the run following the project's. -/
def lastValue? (p : Project) (given : List (String × RawValue)) (name : String) :
    Option RawValue :=
  ((p.properties ++ given).reverse.find? (·.1 == name)).map Prod.snd

theorem map_value_last?_layers (p : Project) (given : List (String × RawValue)) (name : String) :
    (Assignment.last? (p.layers given) name).map Assignment.value = p.lastValue? given name := by
  rw [Assignment.last?_map_value]
  show (((p.properties ++ (given ++ [])).reverse.find? _).map _) = _
  rw [List.append_nil]
  rfl

/-- The project and the run set the property at last to a value that does not suit it. -/
def SetsUnsuitable (p : Project) (given : List (String × RawValue)) (q : Property)
    (v : RawValue) : Prop :=
  p.lastValue? given q.key = some v ∧ ∀ s, q.read v ≠ .ok s

theorem unsuitable_layers_iff :
    Assignment.Unsuitable (p.layers given) q v ↔ p.SetsUnsuitable given q v := by
  rw [Assignment.Unsuitable, map_value_last?_layers]
  rfl

/-- The layers say something of a name exactly if the project or the run does. -/
theorem isSome_last?_layers_iff (name : String) :
    (Assignment.last? (p.layers given) name).isSome = true
      ↔ name ∈ (p.properties ++ given).map Prod.fst := by
  rw [← Option.isSome_map (f := Assignment.value), map_value_last?_layers, lastValue?,
    Option.isSome_map, Option.isSome_iff_ne_none, Ne, find?_reverse_eq_none_iff Prod.fst, not_not]

end Project

end BuildLayout
