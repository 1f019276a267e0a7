import BuildLayout.Property.Setting
import BuildLayout.Variant.Directory

/-! # Why a project cannot be laid out

    Every refusal names its cause; `message` puts it into words, `userMessage` into words for
    those who wrote the project.  A refusal is the user's to mend unless the file system or
    the calling program is at fault. -/

namespace BuildLayout

/-- Why a file cannot be read as text. -/
inductive FileFault where
  | absent
  | throughFile
  | directory
  | nameTooLong
  | nullInName
  | notText
  | other (reason : String)
  deriving DecidableEq, Repr

/-- The fault in the words of the system. -/
def FileFault.message : FileFault → String
  | .absent => "No such file or directory (os error 2)"
  | .throughFile => "Not a directory (os error 20)"
  | .directory => "Is a directory (os error 21)"
  | .nameTooLong => "File name too long (os error 36)"
  | .nullInName => "file name contained an unexpected NUL byte"
  | .notText => "stream did not contain valid UTF-8"
  | .other reason => reason

/-- Why a project is refused. -/
inductive ProjectError where
  | file (fault : FileFault)
  | rejected (reason : String)
  /-- The text does not describe a project. -/
  | unreadable
  | property (cause : PropertyError)
  | variant (cause : VariantError)
  | duplicateVariant (name : String)
  /-- Two variants that are no splits of one share a directory. -/
  | sharedDirectory (dirName first second : String)
  deriving DecidableEq, Repr

namespace ProjectError

/-- The refusal in words. -/
def message : ProjectError → String
  | file fault => s!"IO error: {fault.message}"
  | rejected reason => s!"Configuration error: {reason}"
  | unreadable => "TOML parse error: the text does not describe a project"
  | property cause => cause.message
  | variant cause => cause.message
  | duplicateVariant name => s!"Variant '{name}' is declared more than once"
  | sharedDirectory dirName first second =>
    s!"Variants '{first}' and '{second}' both use directory '{dirName}'"

/-- The refusal in words for those who wrote the project. -/
def userMessage : ProjectError → String
  | file fault => s!"File operation failed: {fault.message}"
  | unreadable => "Invalid project file: the text does not describe a project"
  | property cause => s!"Invalid project option: {cause.message}"
  | e => e.message

/-- Whether those who wrote the project can mend it. -/
def isUserError : ProjectError → Bool
  | file _ | variant (.dottedSegment ..) | variant (.noManifest ..) => false
  | _ => true

/-- The texts of the refusal and of what lies beneath it, outermost first. -/
def chain : ProjectError → List String
  | file fault => [(file fault).message, fault.message]
  | e => [e.message]

end ProjectError

end BuildLayout
