import BuildLayout.Property.Snapshot

/-! # One pass over the properties

    A snapshot is taken in one pass over the assignments that count.  The pass fills five
    collections side by side: a table of values for each family, the entries, and the notices.
    It offers every assignment to the three families in turn; a family with a property of that
    name reads the value, and the first value that is refused ends the pass. -/

namespace BuildLayout

def NumberProperty.ofKey? (key : String) : Option NumberProperty :=
  all.find? (·.declaration.key == key)

def FlagProperty.ofKey? (key : String) : Option FlagProperty :=
  all.find? (·.declaration.key == key)

def TextProperty.ofKey? (key : String) : Option TextProperty :=
  all.find? (·.declaration.key == key)

/-- The properties with the given key, one family after the other. -/
def Property.withKey (key : String) : List Property :=
  (NumberProperty.ofKey? key).toList.map number ++ (FlagProperty.ofKey? key).toList.map flag
    ++ (TextProperty.ofKey? key).toList.map text

/-- What a pass over the assignments has collected. -/
@[ext]
structure Collected where
  numbers : NumberProperty → Option Int32 := fun _ => none
  flags : FlagProperty → Option Bool := fun _ => none
  texts : TextProperty → Option String := fun _ => none
  entries : List Entry := []
  notices : List Notice := []

namespace Collected

/-- Puts a setting into the table of its family. -/
def put (c : Collected) : Setting → Collected
  | .number p n => { c with numbers := fun q => if p = q then some n else c.numbers q }
  | .flag p b => { c with flags := fun q => if p = q then some b else c.flags q }
  | .text p t => { c with texts := fun q => if p = q then some t else c.texts q }

/-- Adds an entry everywhere: to the entries, with the notice that it calls for to the notices,
    and to the table of its family. -/
def add (c : Collected) (e : Entry) : Collected :=
  { c.put e.setting with
    entries := c.entries ++ [e]
    notices := c.notices ++ e.notice?.toList }

/-- Reads the value of an assignment for a property and records what it is set to. -/
def record (c : Collected) (a : Assignment) (p : Property) : Except PropertyError Collected := do
  let s ← p.read a.value
  return c.add ⟨s, a.value, a.source⟩

/-- One step of the pass. -/
def visit (c : Collected) (a : Assignment) : Except PropertyError Collected :=
  (Property.withKey a.name).foldlM (fun c p => c.record a p) c

/-- The pass over the assignments that count. -/
def ofLayers (layers : List Layer) : Except PropertyError Collected :=
  (Assignment.effective layers).foldlM visit {}

/-- The value of a flag property: the one set, or else its default. -/
def flag (c : Collected) (p : FlagProperty) : Bool := (c.flags p).getD p.default

end Collected

/-- The collections of a snapshot, as views of its entries. -/
def Snapshot.collected (s : Snapshot) : Collected where
  numbers := s.number?
  flags := s.flag?
  texts := s.text?
  entries := s.entries
  notices := s.notices

end BuildLayout
