/-! # The life of a property

    A property is stable, experimental, or removed: a removed one no longer has an effect,
    and it still carries the release it went in and advice on what to do instead. -/

namespace BuildLayout

/-- A release in which properties were removed. -/
inductive Release where
  /-- Some release before 4.0; which one is not known. -/
  | before4
  | v7
  | v8
  deriving DecidableEq, Repr

/-- The number that users know the release by. -/
def Release.number : Release → String
  | .before4 => "4.0"
  | .v7 => "7.0"
  | .v8 => "8.0"

/-- The release as data files tag it. -/
def Release.tag : Release → String
  | .before4 => "Before4_0"
  | .v7 => "V7_0"
  | .v8 => "V8_0"

/-- How far a property may be relied on. -/
inductive Stage where
  /-- Accepted silently. -/
  | stable
  /-- Accepted with a notice. -/
  | experimental
  /-- Without effect since a release; values are still read. -/
  | removed (since : Release) (advice : String)
  deriving DecidableEq, Repr

/-- The stage in one word. -/
def Stage.label : Stage → String
  | .stable => "stable"
  | .experimental => "experimental"
  | .removed .. => "removed"

/-- Whether the property has been removed. -/
def Stage.isRemoved : Stage → Bool
  | .removed .. => true
  | _ => false

/-- Whether the property is experimental. -/
def Stage.isExperimental : Stage → Bool
  | .experimental => true
  | _ => false

end BuildLayout
