import BuildLayout.Files.Basic
import BuildLayout.Project.Reading
import BuildLayout.Property.Listing
import BuildLayout.Session.Basic
import BuildLayout.Text.Quoted

/-! # Commands

    A command takes a project and property values given for this run, opens a session and
    prints what it knows: the reports on all variants or on one, or the properties.  The values
    are looked at first, so a malformed one is refused whatever the project is. -/

namespace BuildLayout

/-- Why a command gives no answer. -/
inductive CommandError where
  | malformedProperty (argument : String)
  | unreadableProject (project : Location) (cause : ProjectError)
  | refused (cause : ProjectError)
  | unknownVariant (name : String)
  | unreportable (cause : VariantError)
  deriving DecidableEq, Repr

namespace CommandError

/-- The reason in words. -/
def message : CommandError → String
  | malformedProperty argument =>
    s!"Expected a project property as name=value, got '{argument}'"
  | unreadableProject project _ =>
    "Failed to load project configuration from " ++ Text.quoted project.text
  | refused cause => cause.userMessage
  | unknownVariant name => s!"No variant named '{name}'"
  | unreportable cause => cause.message

/-- What lies beneath the reason, outermost first. -/
def causes : CommandError → List String
  | unreadableProject _ cause => cause.chain
  | _ => []

end CommandError

/-! ## Property values given for a run -/

/-- The name and the text value that an argument gives: what stands before the first equals
    sign, which may not be empty, and what stands behind it. -/
def givenProperty (argument : String) : Except CommandError (String × RawValue) :=
  let name := argument.toList.takeWhile (· != '=')
  match argument.toList.dropWhile (· != '=') with
  | _ :: value =>
    if name.isEmpty then .error (.malformedProperty argument)
    else .ok (String.ofList name, .text (String.ofList value))
  | [] => .error (.malformedProperty argument)

/-! ## Opening a project -/

/-- The name of the file that describes a project, in its directory. -/
def projectFileName : String := "rdroid-variants.toml"

/-- The file that describes the project at a location: the location itself, or the file of the
    usual name in a directory. -/
def projectFile (files : Files) (project : Location) : Location :=
  match files project with
  | .directory => project.join projectFileName
  | _ => project

/-- The project that a file describes; relative paths start from the file's directory. -/
def Project.ofFile (files : Files) (file : Location) : Except ProjectError Project :=
  match files.text file with
  | .error fault => .error (.file fault)
  | .ok text => Project.ofText text file.parent

/-- The session over the project at a location. -/
def openSession (files : Files) (project : Location) (given : List (String × RawValue)) :
    Except CommandError Session :=
  match Project.ofFile files (projectFile files project) with
  | .error cause => .error (.unreadableProject project cause)
  | .ok p => (Session.configure p given).mapError .refused

/-! ## Answers -/

/-- How an answer is written. -/
inductive Style where
  | lines
  | json
  deriving DecidableEq, Repr

/-- Lines as one text, each closed by a line end. -/
def closedLines (lines : List String) : String := String.join (lines.map (· ++ "\n"))

/-- Reports as text. -/
def renderReports (style : Style) (reports : List Report) : String :=
  match style with
  | .lines => closedLines (reports.flatMap Report.lines)
  | .json => (Text.JsonValue.array (reports.map Report.json)).pretty

/-- Properties as text. -/
def renderProperties (style : Style) (s : Snapshot) : String :=
  match style with
  | .lines => closedLines s.lines
  | .json => s.json.pretty

/-- The reports on all variants of the session, or on the first one of the given name. -/
def Session.selected (s : Session) : Option String → Except CommandError (List Report)
  | none => s.reports.mapError .unreportable
  | some name =>
    match s.resolver? name with
    | none => .error (.unknownVariant name)
    | some r => ((s.report r).mapError .unreportable).map fun report => [report]

/-- Prints the names and places of variants, of all or of the one named. -/
def pathsCommand (files : Files) (project : Location) (given : List (String × RawValue))
    (variant : Option String) (style : Style) : Except CommandError String := do
  let session ← openSession files project given
  return renderReports style (← session.selected variant)

/-- Prints the properties that are set. -/
def propertiesCommand (files : Files) (project : Location) (given : List (String × RawValue))
    (style : Style) : Except CommandError String := do
  let session ← openSession files project given
  return renderProperties style session.snapshot

/-! ## Requests -/

/-- What a command is to print. -/
inductive Topic where
  | paths (variant : Option String)
  | properties
  deriving DecidableEq, Repr

/-- A command as it is asked for, its property values still in their written form. -/
structure Request where
  topic : Topic
  project : Location
  arguments : List String
  style : Style
  deriving DecidableEq, Repr

/-- What the request is answered. -/
def Request.run (files : Files) (r : Request) : Except CommandError String := do
  let given ← r.arguments.mapM givenProperty
  match r.topic with
  | .paths variant => pathsCommand files r.project given variant r.style
  | .properties => propertiesCommand files r.project given r.style

end BuildLayout
