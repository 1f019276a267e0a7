import BuildLayout.Text.Uppercase

/-! # Variant identities

    A build makes variants: one for each choice of a flavor in every dimension, a build type,
    a component (the deliverable itself or something nested in it, such as its tests) and
    perhaps a split.  An identity is such a choice.

    An identity is well formed if its names can stand as path segments and as pieces of joined
    names, and if none of them could be taken for a test component. -/

namespace BuildLayout

/-- The part that a variant plays in the build. -/
inductive Component where
  /-- The main deliverable. -/
  | main
  | unitTest
  | androidTest
  | testFixtures
  /-- Any other nested component, with name tokens of its own. -/
  | nested (lead : String) (tail : String)
  deriving DecidableEq, Repr

namespace Component

/-- Whether the component is nested in the main one. -/
def isNested (c : Component) : Bool := c != .main

/-- Whether the component holds tests. -/
def isTest : Component → Bool
  | unitTest | androidTest => true
  | _ => false

/-- Whether the component is packaged on its own. -/
def isPackaged : Component → Bool
  | main | androidTest => true
  | _ => false

/-- The token for dash-joined names and for directories. -/
def lead? : Component → Option String
  | main => none
  | unitTest => some "unitTest"
  | androidTest => some "androidTest"
  | testFixtures => some "testFixtures"
  | nested lead _ => some lead

/-- The token that ends camel-case names. -/
def tail? : Component → Option String
  | main => none
  | unitTest => some "UnitTest"
  | androidTest => some "AndroidTest"
  | testFixtures => some "TestFixtures"
  | nested _ tail => some tail

/-- The name of the component. -/
def name (c : Component) : String := c.lead?.getD "main"

end Component

/-- The flavor chosen in one dimension. -/
structure Flavor where
  dimension : String
  name : String
  deriving DecidableEq, Repr

/-- The choice that makes a variant; the flavors stand in the order of their dimensions. -/
structure Identity where
  buildType : Option String := none
  flavors : List Flavor := []
  component : Component := .main
  split : Option String := none
  deriving DecidableEq, Repr

namespace Identity

/-- The names of the flavors, in the order of their dimensions. -/
def flavorNames (i : Identity) : List String := i.flavors.map Flavor.name

/-- The variant that the identity is a split of. -/
def unsplit (i : Identity) : Identity := { i with split := none }

/-- Whether two identities are splits of one variant. -/
def SameVariant (i j : Identity) : Prop := i.unsplit = j.unsplit

instance (i j : Identity) : Decidable (i.SameVariant j) :=
  inferInstanceAs (Decidable (i.unsplit = j.unsplit))

end Identity

/-! ## Well-formed identities -/

/-- The part of an identity that a name stands in. -/
inductive NamePart where
  | flavor
  | buildType
  deriving DecidableEq, Repr

/-- The part in words. -/
def NamePart.label : NamePart → String
  | .flavor => "flavor"
  | .buildType => "build type"

/-- What is wrong with an identity. -/
inductive IdentityFault where
  | emptyName (part : NamePart)
  | separator (part : NamePart) (name : String)
  | reserved (part : NamePart) (name start : String)
  | emptyToken
  | tokenSeparator (lead : String)
  | emptySplit
  deriving DecidableEq, Repr

/-- The fault in words. -/
def IdentityFault.message : IdentityFault → String
  | .emptyName part => s!"empty {part.label} name"
  | .separator part name => s!"{part.label} name '{name}' contains a separator"
  | .reserved part name start => s!"{part.label} name '{name}' cannot start with '{start}'"
  | .emptyToken => "nested component needs a prefix and a suffix"
  | .tokenSeparator lead => s!"nested component '{lead}' contains a separator"
  | .emptySplit => "empty split name"

/-- Whether the character separates path segments or the pieces of joined names. -/
def isSeparator (c : Char) : Bool := c == '/' || c == '\\' || c == '.' || c == '-'

/-- Whether a separator occurs in the name. -/
def hasSeparator (name : String) : Bool := name.toList.any isSeparator

/-- The starts of names that are kept for test components. -/
def reservedStarts : List String := ["androidTest", "test"]

/-- What is wrong with the name of a flavor or a build type. -/
def NamePart.fault? (part : NamePart) (name : String) : Option IdentityFault :=
  if name = "" then some (.emptyName part)
  else if hasSeparator name then some (.separator part name)
  else (reservedStarts.find? fun start => start.toList.isPrefixOf name.toList).map
    (.reserved part name ·)

/-- What is wrong with the tokens of a component: those of a custom one have to be there and
    free of separators. -/
def Component.fault? : Component → Option IdentityFault
  | .nested lead tail =>
    if lead = "" ∨ tail = "" then some .emptyToken
    else if hasSeparator lead || hasSeparator tail then some (.tokenSeparator lead)
    else none
  | _ => none

namespace Identity

/-- The first fault of the identity: flavors first, then the build type, the component and
    the split. -/
def fault? (i : Identity) : Option IdentityFault :=
  i.flavorNames.findSome? NamePart.flavor.fault? <|>
  i.buildType.bind NamePart.buildType.fault? <|>
  i.component.fault? <|>
  if i.split = some "" then some .emptySplit else none

/-- An identity whose names can be used. -/
def WellFormed (i : Identity) : Prop := i.fault? = none

instance (i : Identity) : Decidable i.WellFormed := inferInstanceAs (Decidable (i.fault? = none))

end Identity

end BuildLayout
