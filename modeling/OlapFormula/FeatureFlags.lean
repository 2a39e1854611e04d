import OlapFormula.DataType

/-!
# Feature flags

Switches that the host of the compiler sets once. They decide which functions can be called, where
strings and dimensions may be arguments, and which types go together.
-/

namespace OlapFormula

/-- A family of functions that can be switched off. -/
inductive Feature
  | percentageFunctions
  | dateFunctions
deriving Repr, DecidableEq

structure FeatureFlags where
  stringArguments : Bool := true
  dimensionArguments : Bool := true
  percentageFunctions : Bool := true
  dateFunctions : Bool := true
  stringDimensionCompatibility : Bool := true
  dateDimensionCompatibility : Bool := true
  dimensionFilterCompatibility : Bool := true
deriving Repr, DecidableEq

def FeatureFlags.isEnabled (flags : FeatureFlags) : Feature → Bool
  | .percentageFunctions => flags.percentageFunctions
  | .dateFunctions => flags.dateFunctions

/-- Types whose values can stand for each other. -/
inductive CompatibilityGroup
  | stringLike
  | numberLike
  | dateLike
  | filterLike
deriving Repr, DecidableEq

namespace CompatibilityGroup

def all : List CompatibilityGroup := [stringLike, numberLike, dateLike, filterLike]

def members (flags : FeatureFlags) : CompatibilityGroup → List DataType
  | stringLike =>
    if flags.stringDimensionCompatibility then
      [.string, .dimensionAttribute, .dimension, .dimensionMember, .listOfString]
    else [.string, .dimensionAttribute, .listOfString]
  | numberLike => [.number, .integer, .measure, .listOfNumber]
  | dateLike => if flags.dateDimensionCompatibility then [.date, .dateDimension] else [.date]
  | filterLike =>
    if flags.dimensionFilterCompatibility then [.dimensionFilter, .dimension]
    else [.dimensionFilter]

/-- A type belongs to a group if it or a type above it is one of the members. -/
def covers (flags : FeatureFlags) (group : CompatibilityGroup) (type : DataType) : Bool :=
  type.ancestors.any (group.members flags).contains

end CompatibilityGroup

namespace FeatureFlags

def groupsOf (flags : FeatureFlags) (type : DataType) : List CompatibilityGroup :=
  CompatibilityGroup.all.filter (·.covers flags type)

/-- Equal types, or types with a group in common. -/
def areCompatible (flags : FeatureFlags) (a b : DataType) : Bool :=
  a == b || CompatibilityGroup.all.any fun group => group.covers flags a && group.covers flags b

/-- A place for `expected` takes a value of type `actual`. -/
def accepts (flags : FeatureFlags) (expected actual : DataType) : Bool :=
  expected == .any || !actual.isInformative || actual.isSubtypeOf expected ||
    flags.areCompatible actual expected

end FeatureFlags

end OlapFormula
