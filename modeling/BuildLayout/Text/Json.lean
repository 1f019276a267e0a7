/-! # JSON texts

    Data for other programs is written as JSON, spread over lines with two spaces for each
    level of nesting.  Only what has to be is escaped: quotes, backslashes and controls. -/

namespace BuildLayout.Text

/-- A value that can be written as JSON. -/
inductive JsonValue where
  | null
  | boolean (b : Bool)
  | integer (n : Int)
  | text (s : String)
  | array (items : List JsonValue)
  | object (fields : List (String × JsonValue))

namespace JsonValue

/-- How a character is written between quotes. -/
def escaped (c : Char) : List Char :=
  if c = '"' then ['\\', '"']
  else if c = '\\' then ['\\', '\\']
  else if c = '\x08' then ['\\', 'b']
  else if c = '\x0c' then ['\\', 'f']
  else if c = '\n' then ['\\', 'n']
  else if c = '\r' then ['\\', 'r']
  else if c = '\t' then ['\\', 't']
  else if c.toNat < 0x20 then
    ['\\', 'u', '0', '0', Nat.digitChar (c.toNat / 16), Nat.digitChar (c.toNat % 16)]
  else [c]

/-- A text between quotes. -/
def quoted (s : String) : String := "\"" ++ String.ofList (s.toList.flatMap escaped) ++ "\""

/-- The start of a line at the given level. -/
def indent (level : Nat) : String := String.ofList (List.replicate (2 * level) ' ')

/-- Parts between two brackets, each on a line of its own one level further in. -/
def block (level : Nat) (opening closing : String) (parts : List String) : String :=
  if parts.isEmpty then opening ++ closing
  else
    opening ++ "\n" ++ ",\n".intercalate (parts.map (indent (level + 1) ++ ·)) ++ "\n" ++
      indent level ++ closing

mutual

/-- The value as text, with its later lines at the given level. -/
def render (level : Nat) : JsonValue → String
  | null => "null"
  | boolean b => if b then "true" else "false"
  | integer n => n.repr
  | text s => quoted s
  | array items => block level "[" "]" (renderItems (level + 1) items)
  | object fields => block level "\x7b" "\x7d" (renderFields (level + 1) fields)

/-- The items of an array as texts. -/
def renderItems (level : Nat) : List JsonValue → List String
  | [] => []
  | v :: rest => render level v :: renderItems level rest

/-- The fields of an object as texts. -/
def renderFields (level : Nat) : List (String × JsonValue) → List String
  | [] => []
  | (k, v) :: rest => (quoted k ++ ": " ++ render level v) :: renderFields level rest

end

/-- The value as a text of its own. -/
def pretty (v : JsonValue) : String := v.render 0

end JsonValue

end BuildLayout.Text
