import BuildLayout.Property.Raw

/-! # Layers of values

    Values come in layers, one for each source, in rising precedence.  A name may be set many
    times, within a layer and across them; what counts is the last value given, with the
    source that gave it.  `effective` keeps exactly these, ordered by name. -/

namespace BuildLayout

/-- The values that one source gives, in order. -/
structure Layer where
  source : String
  values : List (String × RawValue)
  deriving DecidableEq, Repr

/-- A name with its value and the source that gave it. -/
structure Assignment where
  name : String
  value : RawValue
  source : String
  deriving DecidableEq, Repr

/-- The assignments of a layer, in order. -/
def Layer.assignments (l : Layer) : List Assignment :=
  l.values.map fun (name, value) => ⟨name, value, l.source⟩

namespace Assignment

/-- Puts an assignment into a list ordered by name, in place of one with the same name. -/
def insert (a : Assignment) : List Assignment → List Assignment
  | [] => [a]
  | b :: rest =>
    if a.name = b.name then a :: rest
    else if a.name < b.name then a :: b :: rest
    else b :: insert a rest

/-- The assignments that count: for each name the last one, ordered by name. -/
def effective (layers : List Layer) : List Assignment :=
  (layers.flatMap Layer.assignments).foldl (fun kept a => insert a kept) []

end Assignment

end BuildLayout
