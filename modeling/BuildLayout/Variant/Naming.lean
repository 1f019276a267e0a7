import BuildLayout.Variant.Identity

/-! # Names of a variant

    A variant has two names.  The base name joins flavors, build type and component token with
    dashes and goes into file names; the full name runs them together in camel case and names
    tasks and outputs.  In the name of a split the split stands like one more flavor, after
    the others and before the build type. -/

namespace BuildLayout

namespace Text

/-- Camel case: the first word that is not empty stands as it is, the later ones are
    capitalized. -/
def camelCaseFrom (acc : String) : List String → String
  | [] => acc
  | word :: rest =>
    camelCaseFrom (if acc = "" then word else acc ++ capitalized word) rest

/-- The words run together in camel case. -/
def camelCase (words : List String) : String := camelCaseFrom "" words

end Text

open Text

namespace Identity

/-- The name of an identity without any names in it. -/
def mainName : String := "main"

/-- The flavors run together in camel case, if there are any. -/
def flavorName? (i : Identity) : Option String :=
  if i.flavors.isEmpty then none else some (camelCase i.flavorNames)

/-- The pieces of the base name behind the flavors: the build type and the component token. -/
def baseEnd (i : Identity) : List String := i.buildType.toList ++ i.component.lead?.toList

/-- The pieces of the base name. -/
def baseTokens (i : Identity) : List String := i.flavorNames ++ i.baseEnd

/-- The pieces of the base name of a split. -/
def baseTokensWithSplit (i : Identity) (split : String) : List String :=
  i.flavorNames ++ split :: i.baseEnd

/-- The base name: flavors, build type and component token joined by dashes. -/
def baseName (i : Identity) : String :=
  if i.baseTokens.isEmpty then mainName else "-".intercalate i.baseTokens

/-- The base name with a split before the build type. -/
def baseNameWithSplit (i : Identity) (split : String) : String :=
  "-".intercalate (i.baseTokensWithSplit split)

/-- The flavors and the build type in camel case: the front of the full name. -/
def fullStart (i : Identity) : String :=
  camelCaseFrom (i.flavorName?.getD "") i.buildType.toList

/-- The full name: flavors and build type in camel case and then the component's tail.  A
    component that leads the name gives its other token, which starts in lower case. -/
def fullName (i : Identity) : String :=
  let start := i.fullStart
  let name :=
    if start = "" then i.component.lead?.getD ""
    else start ++ i.component.tail?.getD ""
  if name = "" then mainName else name

/-- The full name with a split between the flavors and the build type. -/
def fullNameWithSplit (i : Identity) (split : String) : String :=
  let flavors := i.flavorName?.getD ""
  let start := if flavors = "" then split else flavors ++ capitalized split
  start ++ (i.buildType.map capitalized).getD "" ++ i.component.tail?.getD ""

end Identity

end BuildLayout
