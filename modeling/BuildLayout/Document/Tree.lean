import BuildLayout.Document.Value

/-! # Tables in the making

    A document spreads a table over many lines: assignments with dotted keys, and sections that
    each belong to a table named by a header.  A tree holds the tables made so far and how each
    came about, for that decides what may still be added:

    * no key is given a value twice;
    * a header names a table that is new, or one that only later headers have implied;
    * a dotted key goes through tables that were made by dotted keys or implied by headers, and
      the table it ends in was made by dotted keys;
    * a list of tables grows by one with each of its headers, and paths through it lead into
      its last table. -/

namespace BuildLayout.Document

/-- How a table came about. -/
inductive Origin where
  /-- It is a section, an item of a list of tables, or the document itself. -/
  | section
  /-- The header of a table further down implies it. -/
  | implied
  /-- A dotted key leads through it. -/
  | dotted
  deriving DecidableEq, Repr

/-- A place in a tree. -/
inductive Node where
  | leaf (v : Value)
  | table (origin : Origin) (entries : List (String × Node))
  /-- A list of tables; only the last one can still grow. -/
  | tables (earlier : List Value) (last : List (String × Node))

/-- The entries of a table in the making. -/
abbrev Entries := List (String × Node)

mutual

/-- The value that a place holds. -/
def Node.value : Node → Value
  | .leaf v => v
  | .table _ entries => .table (entryValues entries)
  | .tables earlier last => .array (earlier ++ [.table (entryValues last)])

/-- The values of the entries, each under its key. -/
def entryValues : List (String × Node) → List (String × Value)
  | [] => []
  | (k, n) :: rest => (k, n.value) :: entryValues rest

end

/-- Sets the place under a key, which keeps its position if there is one already. -/
def Entries.put (k : String) (n : Node) : Entries → Entries
  | [] => [(k, n)]
  | (j, m) :: rest => if j = k then (k, n) :: rest else (j, m) :: Entries.put k n rest

/-- An assignment: the tables that a dotted key leads through, the last key and the value. -/
structure Pair where
  path : List String
  key : String
  value : Value

/-- Changes the table at the end of a path, making the tables on the way that are missing.
    The change is told how the table came about. -/
def within (made : Origin) (change : Origin → Entries → Option Entries) :
    List String → Origin → Entries → Option Entries
  | [], origin, entries => change origin entries
  | k :: rest, _, entries =>
    match entries.lookup k with
    | none => do
      let inner ← within made change rest made []
      return Entries.put k (.table made inner) entries
    | some (.leaf _) => none
    | some (.table origin inner) =>
      if made = .dotted ∧ origin = .section then none
      else do
        let inner ← within made change rest origin inner
        return Entries.put k (.table origin inner) entries
    | some (.tables earlier last) => do
      let last ← within made change rest .section last
      return Entries.put k (.tables earlier last) entries

/-- Adds an assignment to the entries of a section. -/
def Pair.addTo (p : Pair) (entries : Entries) : Option Entries :=
  within .dotted
    (fun origin inner =>
      if p.path ≠ [] ∧ origin ≠ .dotted then none
      else if (inner.lookup p.key).isSome then none
      else some (Entries.put p.key (.leaf p.value) inner))
    p.path .section entries

/-- Adds assignments one after the other. -/
def addPairs (entries : Entries) (pairs : List Pair) : Option Entries :=
  pairs.foldlM (fun es p => p.addTo es) entries

/-- What a header names: a table, or a further item of a list of tables, under the last key
    of a path. -/
structure Header where
  isItem : Bool
  path : List String
  key : String

/-- A header with the assignments below it. -/
structure Section where
  header : Header
  pairs : List Pair

/-- Adds a section to the entries of a document. -/
def Section.addTo (s : Section) (entries : Entries) : Option Entries :=
  within .implied
    (fun _ inner =>
      let place (n : Node) : Entries := Entries.put s.header.key n inner
      match s.header.isItem, inner.lookup s.header.key with
      | false, none => (addPairs [] s.pairs).map fun t => place (.table .section t)
      | false, some (.table .implied t) =>
        (addPairs t s.pairs).map fun t => place (.table .section t)
      | true, none => (addPairs [] s.pairs).map fun t => place (.tables [] t)
      | true, some (.tables earlier last) =>
        (addPairs [] s.pairs).map fun t =>
          place (.tables (earlier ++ [.table (entryValues last)]) t)
      | _, _ => none)
    s.header.path .section entries

/-- The entries of a document: its leading assignments and then its sections. -/
def assemble (leading : List Pair) (sections : List Section) : Option (List (String × Value)) := do
  let entries ← addPairs [] leading
  let entries ← sections.foldlM (fun es s => s.addTo es) entries
  return entryValues entries

/-- The table of an inline list of assignments. -/
def inlineTable (pairs : List Pair) : Option Value :=
  (addPairs [] pairs).map fun entries => .table (entryValues entries)

end BuildLayout.Document
