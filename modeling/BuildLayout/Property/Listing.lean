import BuildLayout.Property.Snapshot
import BuildLayout.Text.Json

/-! # Listings of properties

    The properties of a snapshot and the notices on them, as lines for readers or as JSON for
    other programs.  The fields of a JSON object stand in the order of their names. -/

namespace BuildLayout

open Text

/-- The line on a property that is set. -/
def Entry.line (e : Entry) : String :=
  s!"{e.key} = {e.setting.shown} [{e.stage.label}, from {e.source}]"

/-- The value of a setting. -/
def Setting.json : Setting → JsonValue
  | .number _ n => .integer n.toInt
  | .flag _ b => .boolean b
  | .text _ s => .text s

/-- A stage, with what belongs to a removal. -/
def Stage.json : Stage → JsonValue
  | .removed since advice =>
    .object [("message", .text advice), ("since", .text since.tag), ("stage", .text "removed")]
  | s => .object [("stage", .text s.label)]

/-- A property that is set. -/
def Entry.json (e : Entry) : JsonValue :=
  .object [("property", .text e.key), ("source", .text e.source), ("stage", e.stage.json),
    ("value", e.setting.json)]

/-- A notice. -/
def Notice.json : Notice → JsonValue
  | .experimental key value source =>
    .object [("kind", .text "experimental_option_used"), ("property", .text key),
      ("source", .text source), ("value", .text value)]
  | .removed key since advice source =>
    .object [("kind", .text "removed_option_used"), ("message", .text advice),
      ("property", .text key), ("since", .text since.tag), ("source", .text source)]

namespace Snapshot

/-- The lines on all properties that are set, and then the notices as warnings. -/
def lines (s : Snapshot) : List String :=
  s.entries.map Entry.line ++ s.notices.map fun n => "warning: " ++ n.message

/-- All properties that are set, and the notices. -/
def json (s : Snapshot) : JsonValue :=
  .object [("diagnostics", .array (s.notices.map Notice.json)),
    ("options", .array (s.entries.map Entry.json))]

end Snapshot

end BuildLayout
