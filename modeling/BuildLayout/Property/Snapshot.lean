import BuildLayout.Property.Layer
import BuildLayout.Property.Setting

/-! # Snapshot of the properties

    A snapshot holds what one configuration pass knows about its properties: every property
    that some layer sets, with the setting read from the value that counts.  Names that belong
    to no property are passed over.  The entries are ordered by key, and reading stops at the
    first value that its property refuses.

    Values, defaults and notices are views of the entries, so they cannot disagree. -/

namespace BuildLayout

/-- A property that was set: its setting, the raw value behind it and where it came from. -/
structure Entry where
  setting : Setting
  raw : RawValue
  source : String
  deriving DecidableEq, Repr

/-- Something that users should know about a property they set. -/
inductive Notice where
  | experimental (key value source : String)
  | removed (key : String) (since : Release) (advice source : String)
  deriving DecidableEq, Repr

namespace Notice

/-- The notice in words. -/
def message : Notice → String
  | experimental key value source =>
    s!"The option setting '{key}={value}' ({source}) is experimental."
  | removed key since advice source =>
    s!"The option '{key}' ({source}) was removed in version {since.number}. {advice}"

/-- The refusal that the notice becomes where supported properties are insisted on. -/
def error? : Notice → Option PropertyError
  | experimental .. => none
  | removed key since advice _ => some (.removed key since advice)

end Notice

namespace Entry

/-- The property that is set. -/
def property (e : Entry) : Property := e.setting.property

/-- The key of the property that is set. -/
def key (e : Entry) : String := e.property.key

/-- The stage of the property that is set. -/
def stage (e : Entry) : Stage := e.property.stage

/-- The notice that the entry calls for: none for a stable property. -/
def notice? (e : Entry) : Option Notice :=
  match e.stage with
  | .stable => none
  | .experimental => some (.experimental e.key e.raw.shown e.source)
  | .removed since advice => some (.removed e.key since advice e.source)

/-- The entry for an assignment, or nothing if its name belongs to no property. -/
def ofAssignment? (a : Assignment) : Except PropertyError (Option Entry) :=
  match Property.ofKey? a.name with
  | none => .ok none
  | some p =>
    match p.read a.value with
    | .ok s => .ok (some ⟨s, a.value, a.source⟩)
    | .error e => .error e

/-- The entries for the assignments, in order, up to the first that is refused. -/
def ofAssignments : List Assignment → Except PropertyError (List Entry)
  | [] => .ok []
  | a :: rest => do
    let entry? ← ofAssignment? a
    let entries ← ofAssignments rest
    return entry?.toList ++ entries

end Entry

/-- The properties that one configuration pass sets. -/
structure Snapshot where
  entries : List Entry
  deriving DecidableEq, Repr

namespace Snapshot

/-- The snapshot of the layers, the later ones taking precedence. -/
def ofLayers (layers : List Layer) : Except PropertyError Snapshot :=
  (Entry.ofAssignments (Assignment.effective layers)).map Snapshot.mk

/-! ## Values -/

/-- The value of a number property, if it is set. -/
def number? (s : Snapshot) (p : NumberProperty) : Option Int32 :=
  s.entries.findSome? fun e =>
    match e.setting with
    | .number q n => if q = p then some n else none
    | _ => none

/-- The value of a flag property, if it is set. -/
def flag? (s : Snapshot) (p : FlagProperty) : Option Bool :=
  s.entries.findSome? fun e =>
    match e.setting with
    | .flag q b => if q = p then some b else none
    | _ => none

/-- The value of a flag property: the one set, or else its default. -/
def flag (s : Snapshot) (p : FlagProperty) : Bool := (s.flag? p).getD p.default

/-- The value of a text property, if it is set. -/
def text? (s : Snapshot) (p : TextProperty) : Option String :=
  s.entries.findSome? fun e =>
    match e.setting with
    | .text q t => if q = p then some t else none
    | _ => none

/-! ## Notices -/

/-- The notices that the entries call for, in order. -/
def notices (s : Snapshot) : List Notice := s.entries.filterMap Entry.notice?

/-- The refusal of the first removed property that is set, if there is one. -/
def removed? (s : Snapshot) : Option PropertyError := s.notices.findSome? Notice.error?

end Snapshot

end BuildLayout
