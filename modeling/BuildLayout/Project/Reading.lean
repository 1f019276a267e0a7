import BuildLayout.Document.Basic
import BuildLayout.Project.Basic
import BuildLayout.Project.Error

/-! # Reading a project

    A project is described by a document.  Every field may be left out and then has its
    default; a field of another kind than its own is refused.  Keys that name no field are
    passed over, except in a custom component, which has to have exactly its two tokens.

    A record may also be written as the list of its fields in declared order, and a choice as
    a table with the choice as its one key. -/

namespace BuildLayout

open Document

/-! ## Fields -/

namespace Document.Value

/-- The fields of a record, by position and name: a list has them by position, a table by
    name. -/
def record? : Value → Option (Nat → String → Option Value)
  | .array items => some fun position _ => items[position]?
  | v => v.entries?.map fun entries _ name => entries.lookup name

/-- The choice that the value names: a text, or the one key of a table with nothing in it. -/
def choice? : Value → Option String
  | .text s => some s
  | .table [(key, .table [])] | .table [(key, .array [])] => some key
  | _ => none

/-- The value of a property: a flag, a number or a text. -/
def raw? : Value → Option RawValue
  | .boolean b => some (.boolean b)
  | .integer n => some (.integer n)
  | .float d => some (.float d)
  | .text s => some (.text s)
  | _ => none

end Document.Value

/-- A field that may be left out: its default, or what the value stands for. -/
def fieldOr {α : Type} (default : α) (read : Value → Option α) : Option Value → Option α
  | none => some default
  | some v => read v

/-! ## Parts of a project -/

/-- The naming policy that the value names. -/
def Naming.ofValue? (v : Value) : Option Naming :=
  v.choice?.bind fun tag => [Naming.dimensionAware, .splitOnly].find? (·.tag == tag)

/-- The policy on signing: a table or a list that starts with the name of the policy. -/
def Signing.ofValue? : Value → Option Signing
  | .array [.text "always-unsigned"] => some .alwaysUnsigned
  | .array [.text "readiness", .boolean signed, .boolean baseModule] =>
    some (.readiness signed baseModule)
  | .array _ => none
  | v => do
    let entries ← v.entries?
    match ← (← entries.lookup "policy").text? with
    | "always-unsigned" => return .alwaysUnsigned
    | "readiness" =>
      let signed ← (← entries.lookup "signed").boolean?
      let baseModule ← (← entries.lookup "base_module").boolean?
      return .readiness signed baseModule
    | _ => none

/-- The component without tokens of its own that the text names. -/
def Component.ofTag? : String → Option Component
  | "main" => some .main
  | "unit-test" => some .unitTest
  | "android-test" => some .androidTest
  | "test-fixtures" => some .testFixtures
  | _ => none

/-- A component with the tokens that the value holds. -/
def Component.nested? : Value → Option Component
  | .array (.text lead :: .text tail :: _) => some (.nested lead tail)
  | .table entries => do
    if entries.any fun (key, _) => key != "prefix" && key != "suffix" then none
    let lead ← (← entries.lookup "prefix").text?
    let tail ← (← entries.lookup "suffix").text?
    return .nested lead tail
  | _ => none

/-- The component that the value names. -/
def Component.ofValue? : Value → Option Component
  | .table [("nested", tokens)] => nested? tokens
  | v => v.choice?.bind ofTag?

/-- The flavor that the value holds. -/
def Flavor.ofValue? (v : Value) : Option Flavor := do
  let field ← v.record?
  let dimension ← (← field 0 "dimension").text?
  let name ← (← field 1 "name").text?
  return ⟨dimension, name⟩

/-- The identity that the value holds. -/
def Identity.ofValue? (v : Value) : Option Identity := do
  let field ← v.record?
  let buildType ← fieldOr none (fun v => v.text?.map some) (field 0 "build_type")
  let flavors ← fieldOr [] (fun v => v.items?.bind (·.mapM Flavor.ofValue?)) (field 1 "flavors")
  let component ← fieldOr .main Component.ofValue? (field 2 "component")
  let split ← fieldOr none (fun v => v.text?.map some) (field 3 "split")
  return { buildType, flavors, component, split }

/-- The property values that the value holds. -/
def properties? (v : Value) : Option (List (String × RawValue)) := do
  (← v.entries?).mapM fun (key, v) => v.raw?.map (key, ·)

/-! ## The project -/

namespace Project

/-- The project that the entries of a document describe. -/
def ofEntries? (directory : Location) (entries : List (String × Value)) : Option Project := do
  let archivesName ← fieldOr "app" Value.text? (entries.lookup "archives_base_name")
  let buildDirectory ← fieldOr "build" Value.text? (entries.lookup "build_dir")
  let naming ← fieldOr .dimensionAware Naming.ofValue? (entries.lookup "naming")
  let signing ← fieldOr .alwaysUnsigned Signing.ofValue? (entries.lookup "signing")
  let strict ← fieldOr false Value.boolean? (entries.lookup "strict_options")
  let properties ← fieldOr [] properties? (entries.lookup "options")
  let variants ←
    fieldOr [] (fun v => v.items?.bind (·.mapM Identity.ofValue?)) (entries.lookup "variants")
  return {
    directory, archivesName, buildDirectory, naming, signing, strict, properties, variants }

/-- The project that decoded entries give: none if they do not describe one, and none with an
    empty start of package file names. -/
def ofDecoded : Option Project → Except ProjectError Project
  | none => .error .unreadable
  | some p =>
    if p.archivesName = "" then .error (.rejected "archives_base_name must not be empty")
    else .ok p

/-- The project in the given directory that the text of a document describes. -/
def ofText (text : String) (directory : Location) : Except ProjectError Project :=
  ofDecoded ((Document.read text).bind (ofEntries? directory))

end Project

end BuildLayout
