import BuildLayout.Document.Atom
import BuildLayout.Document.Tree

/-! # Documents

    A document is a sequence of lines: assignments and headers, with comments and empty lines
    between them.  Values nest, lists and inline tables in one another, below a fixed depth. -/

namespace BuildLayout.Document

/-! ## Values with parts -/

/-- The items of a list up to its closing bracket.  Line ends and comments may stand between
    them, and a comma behind the last. -/
def readItems (item : Reader Value) (s : List Char) : Option (List Value × List Char) :=
  match skipFiller false s with
  | ']' :: rest => some ([], rest)
  | start => do
    let (v, rest) ← item start
    match skipFiller false rest with
    | ']' :: rest => return ([v], rest)
    | ',' :: rest =>
      if rest.length < s.length then
        let (vs, rest) ← readItems item rest
        return (v :: vs, rest)
      else none
    | _ => none
termination_by s.length

/-- The greatest number of keys in a dotted key. -/
def mostKeys : Nat := 79

/-- An assignment: a dotted key, an equals sign and a value. -/
def readPair (value : Reader Value) : Reader Pair := fun s => do
  let ((path, key), rest) ← dottedKey mostKeys s
  let '=' :: rest := skipBlanks rest | none
  let (v, rest) ← value (skipBlanks rest)
  return (⟨path, key, v⟩, rest)

/-- The assignments of an inline table, from the first on, up to its closing brace. -/
def readPairs (value : Reader Value) (s : List Char) : Option (List Pair × List Char) := do
  let (p, rest) ← readPair value s
  match skipBlanks rest with
  | '\x7d' :: rest => return ([p], rest)
  | ',' :: rest =>
    if rest.length < s.length then
      let (ps, rest) ← readPairs value rest
      return (p :: ps, rest)
    else none
  | _ => none
termination_by s.length

/-- The assignments of an inline table, of which there may be none. -/
def readInline (value : Reader Value) (s : List Char) : Option (List Pair × List Char) :=
  match skipBlanks s with
  | '\x7d' :: rest => some ([], rest)
  | start => readPairs value start

/-- A value with lists and inline tables nested in it at most so deep. -/
def readValue : Nat → Reader Value
  | 0, s => scalar s
  | depth + 1, s =>
    match s with
    | '[' :: rest => do
      let (items, rest) ← readItems (readValue depth) rest
      return (.array items, rest)
    | '\x7b' :: rest => do
      let (pairs, rest) ← readInline (readValue depth) rest
      return (← inlineTable pairs, rest)
    | s => scalar s

/-- The greatest depth of nesting. -/
def mostNested : Nat := 79

/-! ## Lines -/

/-- A line that says something. -/
inductive Statement where
  | pair (p : Pair)
  | header (h : Header)

/-- A header, behind its first bracket. -/
def readHeader : Reader Header := fun s =>
  match s with
  | '[' :: rest => do
    let ((path, key), rest) ← dottedKey mostKeys rest
    let ']' :: ']' :: rest := skipBlanks rest | none
    return (⟨true, path, key⟩, rest)
  | s => do
    let ((path, key), rest) ← dottedKey mostKeys s
    let ']' :: rest := skipBlanks rest | none
    return (⟨false, path, key⟩, rest)

/-- A header or an assignment. -/
def readStatement : Reader Statement := fun s =>
  match s with
  | '[' :: rest => (readHeader rest).map fun (h, rest) => (.header h, rest)
  | s => (readPair (readValue mostNested) s).map fun (p, rest) => (.pair p, rest)

/-- What the lines of a text say, in order. -/
def readStatements (s : List Char) : Option (List Statement) :=
  match skipFiller false s with
  | [] => some []
  | start => do
    let (statement, rest) ← readStatement start
    let rest ← lineEnd? rest
    if rest.length < s.length then
      return statement :: (← readStatements rest)
    else none
termination_by s.length

/-- The assignments in front of the first header, and the sections. -/
def sections : List Statement → List Pair × List Section
  | [] => ([], [])
  | .pair p :: rest => (p :: (sections rest).1, (sections rest).2)
  | .header h :: rest => ([], ⟨h, (sections rest).1⟩ :: (sections rest).2)

/-- The text without a byte order mark at its start. -/
def withoutMark : List Char → List Char
  | '\ufeff' :: rest => rest
  | s => s

/-- The entries of the document that the text holds. -/
def read (text : String) : Option (List (String × Value)) := do
  let statements ← readStatements (withoutMark text.toList)
  let (leading, rest) := sections statements
  assemble leading rest

end BuildLayout.Document
