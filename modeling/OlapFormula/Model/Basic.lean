import OlapFormula.DataType

/-!
# Members of a model

The dimensions and measures of an OLAP model, and the database that it lives in.
-/

namespace OlapFormula

/-- What goes wrong outside of a formula. Everything that can be wrong in a formula is a message about it
instead. -/
inductive Failure
  | unknownDataType (name : String)
  | unknownBackend (name : String)
  /-- The model was asked for before it was loaded. -/
  | modelNotLoaded
  /-- Needs an editor to draw on. -/
  | notProvided (what : String)
deriving Repr, DecidableEq

def Failure.message : Failure → String
  | unknownDataType name => "Unknown data type: " ++ name
  | unknownBackend name => "Unknown datasource backend: " ++ name
  | modelNotLoaded => "Structure member metadata has not been loaded yet"
  | notProvided what => "Not implemented here: " ++ what

inductive Backend
  | hana
  | bw
deriving Repr, DecidableEq

namespace Backend

def all : List Backend := [hana, bw]

def name : Backend → String
  | hana => "HANA"
  | bw => "BW"

/-- The backend of this name, in upper or lower case. -/
def ofName? (text : String) : Option Backend :=
  all.find? fun backend => Text.equalIgnoringCase backend.name.toList text.toList

def parse (text : String) : Except Failure Backend :=
  match ofName? text with
  | some backend => .ok backend
  | none => .error (.unknownBackend text)

end Backend

def DataType.parse (text : String) : Except Failure DataType :=
  match ofName? text with
  | some type => .ok type
  | none => .error (.unknownDataType text)

structure Dimension where
  id : String
  aliasName : Option String := none
  keyField : String := "ID"
  hierarchies : List String := []
  properties : List String := []
  /-- Its members are points in time, or periods. -/
  dateLike : Bool := false
  /-- It tells planning versions apart. -/
  version : Bool := false
deriving Repr, DecidableEq

/-- The type of a reference to the dimension itself. -/
def Dimension.dataType (dimension : Dimension) : DataType :=
  if dimension.dateLike then .dateDimension else .dimension

structure Measure where
  id : String
  aliasName : Option String := none
  valueType : DataType := .number
  hidden : Bool := false
  /-- The formula of a calculated measure. -/
  formula : Option String := none
deriving Repr, DecidableEq

end OlapFormula
