import BuildLayout.Command.Basic

/-! # The command line

    `rdroid-variants [-v] paths|options [project] [-P name=value]… [--json]`, and for `paths`
    also `--variant name`.  Flags may be run together behind one dash, and a value may follow
    its option at once, behind an equals sign, or as the next argument, which then may not
    look like an option.  No option but `-P` may be repeated on one level, and none may be
    shortened.  Behind `--` everything is a project.

    What `-v` asks for are messages about the work.  They are no part of the outcome. -/

namespace BuildLayout.CommandLine

/-- What the arguments ask for. -/
inductive Reading where
  | run (r : Request)
  | version
  | help
  /-- The arguments do not follow the grammar. -/
  | misuse
  deriving DecidableEq, Repr

/-- An option that takes a value. -/
inductive Valued where
  | property
  | variant
  deriving DecidableEq, Repr

/-- What the arguments behind the name of a command have said so far. -/
structure Draft where
  /-- Whether variants are to be printed, not properties. -/
  ofVariants : Bool
  verbose : Bool := false
  json : Bool := false
  variant : Option String := none
  arguments : List String := []
  project : Option String := none
  /-- The option that the next argument is the value of. -/
  awaiting : Option Valued := none
  /-- Whether only projects can follow. -/
  closed : Bool := false
  deriving DecidableEq, Repr

namespace Draft

/-- The request that the arguments make, once there are no more. -/
def request (d : Draft) : Reading :=
  if d.awaiting.isSome then .misuse
  else
    .run {
      topic := if d.ofVariants then .paths d.variant else .properties
      project := ⟨d.project.getD "."⟩
      arguments := d.arguments
      style := if d.json then .json else .lines }

/-- The draft with a value for an option; a variant can be named once. -/
def give (d : Draft) (option : Valued) (value : String) : Except Reading Draft :=
  match option with
  | .property => .ok { d with arguments := d.arguments ++ [value], awaiting := none }
  | .variant =>
    if d.variant.isSome then .error .misuse
    else .ok { d with variant := some value, awaiting := none }

/-- The draft with a project; there can be one, and its name is not empty. -/
def place (d : Draft) (argument : String) : Except Reading Draft :=
  if d.project.isSome ∨ argument = "" then .error .misuse
  else .ok { d with project := some argument }

/-- The draft after a letter that asks for more messages. -/
def louder (d : Draft) : Except Reading Draft :=
  if d.verbose then .error .misuse else .ok { d with verbose := true }

/-- The draft after the letters behind one dash. -/
def letters (d : Draft) : List Char → Except Reading Draft
  | [] => .ok d
  | 'v' :: rest => do (← d.louder).letters rest
  | 'h' :: _ => .error .help
  | ['P'] => .ok { d with awaiting := some .property }
  | 'P' :: '=' :: value => d.give .property (String.ofList value)
  | 'P' :: value => d.give .property (String.ofList value)
  | _ => .error .misuse

/-- The draft after the word behind two dashes, with the value behind its equals sign. -/
def word (d : Draft) (name : String) (value : Option String) : Except Reading Draft :=
  match name, value with
  | "verbose", none => d.louder
  | "json", none => if d.json then .error .misuse else .ok { d with json := true }
  | "help", none => .error .help
  | "variant", value =>
    if !d.ofVariants then .error .misuse
    else
      match value with
      | some value => d.give .variant value
      | none => .ok { d with awaiting := some .variant }
  | _, _ => .error .misuse

/-- The draft after one more argument. -/
def next (d : Draft) (argument : String) : Except Reading Draft :=
  if d.closed then d.place argument
  else
    match argument.toList, d.awaiting with
    | '-' :: _ :: _, some _ => .error .misuse
    | ['-', '-'], none => .ok { d with closed := true }
    | '-' :: '-' :: rest, none =>
      let name := String.ofList (rest.takeWhile (· != '='))
      match rest.dropWhile (· != '=') with
      | _ :: value => d.word name (some (String.ofList value))
      | [] => d.word name none
    | '-' :: c :: rest, none => d.letters (c :: rest)
    | _, some option => d.give option argument
    | _, none => d.place argument

/-- What the arguments behind the name of a command ask for. -/
def read (d : Draft) : List String → Reading
  | [] => d.request
  | argument :: rest =>
    match d.next argument with
    | .ok d => d.read rest
    | .error reading => reading

end Draft

/-- The letters behind one dash in front of the command: whether more messages are asked for,
    or what else is. -/
def leadingLetters (verbose : Bool) : List Char → Except Reading Bool
  | [] => .ok verbose
  | 'v' :: rest => if verbose then .error .misuse else leadingLetters true rest
  | 'V' :: _ => .error .version
  | 'h' :: _ => .error .help
  | _ => .error .misuse

/-- What the arguments ask for, `verbose` telling whether more messages have been asked for. -/
def readFrom (verbose : Bool) : List String → Reading
  | [] => .misuse
  | "paths" :: rest => ({ ofVariants := true } : Draft).read rest
  | "options" :: rest => ({ ofVariants := false } : Draft).read rest
  | "help" :: rest => if rest ∈ [[], ["help"], ["paths"], ["options"]] then .help else .misuse
  | "--verbose" :: rest => if verbose then .misuse else readFrom true rest
  | "--version" :: _ => .version
  | "--help" :: _ => .help
  | argument :: rest =>
    match argument.toList with
    | '-' :: c :: letters =>
      match leadingLetters verbose (c :: letters) with
      | .ok verbose => readFrom verbose rest
      | .error reading => reading
    | _ => .misuse

/-- What the arguments ask for. -/
def read (arguments : List String) : Reading := readFrom false arguments

/-! ## Outcomes -/

/-- What a run of the program leaves behind. -/
structure Outcome where
  code : UInt8
  stdout : String := ""
  stderr : String := ""
  deriving DecidableEq, Repr

/-- How the program is called. -/
def usage : String :=
  "Usage: rdroid-variants [-v] paths [--variant NAME] [-P NAME=VALUE]... [--json] [PROJECT]\n" ++
  "       rdroid-variants [-v] options [-P NAME=VALUE]... [--json] [PROJECT]\n" ++
  "       rdroid-variants --version\n"

/-- The name and version of the program. -/
def versionLine : String := "rdroid-variants 0.1.0\n"

/-- The causes of a failure, one to a line: numbered if there are several. -/
def causeLines : List String → List String
  | [cause] => ["    " ++ cause]
  | causes => causes.zipIdx.map fun (cause, k) => "    " ++ k.repr ++ ": " ++ cause

/-- A failure in words, its causes below it. -/
def failureText (e : CommandError) : String :=
  let first := "Error: " ++ e.message
  if e.causes.isEmpty then closedLines [first]
  else closedLines ([first, "", "Caused by:"] ++ causeLines e.causes)

/-- What the program does with its arguments. -/
def run (files : Files) (arguments : List String) : Outcome :=
  match read arguments with
  | .misuse => { code := 2, stderr := usage }
  | .help => { code := 0, stdout := usage }
  | .version => { code := 0, stdout := versionLine }
  | .run request =>
    match request.run files with
    | .ok text => { code := 0, stdout := text }
    | .error e => { code := 1, stderr := failureText e }

end BuildLayout.CommandLine
