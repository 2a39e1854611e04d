import OlapFormula.Text.Case

/-!
# Types of values

The types form a forest: a type has at most one parent, and a type is a subtype of each of its
ancestors and of itself.
-/

namespace OlapFormula

inductive DataType
  | unknown
  | any
  | boolean
  | number
  | integer
  | measure
  | string
  | dimensionAttribute
  | date
  | dimension
  | dateDimension
  | dimensionMember
  | dimensionFilter
  | list
  | listOfString
  | listOfNumber
  | listOfMixed
deriving Repr, DecidableEq

namespace DataType

def all : List DataType :=
  [unknown, any, boolean, number, integer, measure, string, dimensionAttribute, date, dimension,
    dateDimension, dimensionMember, dimensionFilter, list, listOfString, listOfNumber,
    listOfMixed]

def name : DataType → String
  | unknown => "Unknown"
  | any => "Any"
  | boolean => "Boolean"
  | number => "Number"
  | integer => "Integer"
  | measure => "Measure"
  | string => "String"
  | dimensionAttribute => "Attribute"
  | date => "Date"
  | dimension => "Dimension"
  | dateDimension => "DateDimension"
  | dimensionMember => "DimensionMember"
  | dimensionFilter => "DimensionFilter"
  | list => "List"
  | listOfString => "ListOfString"
  | listOfNumber => "ListOfNumber"
  | listOfMixed => "ListOfMixed"

/-- The type of this name, in upper or lower case. -/
def ofName? (text : String) : Option DataType :=
  all.find? fun type => Text.equalIgnoringCase type.name.toList text.toList

def parent : DataType → Option DataType
  | integer | measure => some number
  | dimensionAttribute => some string
  | dateDimension | dimensionMember => some dimension
  | dimensionFilter => some boolean
  | listOfString | listOfNumber | listOfMixed => some list
  | _ => none

/-- The type itself and, as no parent has a parent, the type above it. -/
def ancestors (type : DataType) : List DataType := type :: type.parent.toList

def isSubtypeOf (type other : DataType) : Bool := type.ancestors.contains other

/-- Whether anything is known of a value of this type that a check could go by. -/
def isInformative (type : DataType) : Bool := type != unknown && type != any

def isNumeric (type : DataType) : Bool := type.isSubtypeOf number

def isBoolean (type : DataType) : Bool := type.isSubtypeOf boolean

def isList (type : DataType) : Bool := type.isSubtypeOf list

def isDimension (type : DataType) : Bool := type.isSubtypeOf dimension

def isString (type : DataType) : Bool := type.isSubtypeOf string || type == listOfString

/-- The type of a list, from the types of its elements. Elements of unknown type do not count. -/
def ofElements (types : List DataType) : DataType :=
  let known := types.filter (· != unknown)
  if known.isEmpty then list
  else if known.all isString then listOfString
  else if known.all fun type => type.isNumeric then listOfNumber
  else listOfMixed

end DataType

end OlapFormula
