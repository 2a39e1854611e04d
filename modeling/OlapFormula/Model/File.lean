import OlapFormula.JsonValue.Reader
import OlapFormula.Model.Store

/-!
# Model files

A model as an object with the members `backend`, `dimensions` and `measures`. Everything but the backend
and the ids may be missing, and members that mean nothing are passed over.
-/

namespace OlapFormula

namespace JsonValue

/-- The members of an object with this key. -/
def withKey (key : String) (members : List (String × JsonValue)) : List JsonValue :=
  (members.filter (·.1 == key)).map (·.2)

/-- What a member of an object is, or `missing` if there is none. No key comes twice. -/
def field? {α : Type} (members : List (String × JsonValue)) (key : String) (missing : Option α)
    (read : JsonValue → Option α) : Option α :=
  match withKey key members with
  | [] => missing
  | [value] => read value
  | _ => none

def readAll {α : Type} (read : JsonValue → Option α) : List JsonValue → Option (List α)
  | [] => some []
  | value :: values => do return (← read value) :: (← readAll read values)

def string? : JsonValue → Option String
  | string value => some value
  | _ => none

def boolean? : JsonValue → Option Bool
  | boolean value => some value
  | _ => none

def list? {α : Type} (read : JsonValue → Option α) : JsonValue → Option (List α)
  | array items => readAll read items
  | _ => none

/-- A value that may be `null`. -/
def nullable? {α : Type} (read : JsonValue → Option α) : JsonValue → Option (Option α)
  | null => some none
  | value => (read value).map some

end JsonValue

namespace Model

open JsonValue

def readBackend? (value : JsonValue) : Option Backend :=
  match value with
  | .string "hana" => some .hana
  | .string "bw" => some .bw
  | _ => none

/-- Tells whether the measure is hidden. -/
def readVisibility? (value : JsonValue) : Option Bool :=
  match value with
  | .string "visible" => some false
  | .string "hidden" => some true
  | _ => none

def readType? (value : JsonValue) : Option DataType :=
  value.string?.bind fun name => DataType.all.find? (·.name == name)

def readDimension? (value : JsonValue) : Option Dimension :=
  match value with
  | .object members => do
    return {
      id := ← field? members "id" none string?
      aliasName := ← field? members "alias" (some none) (nullable? string?)
      keyField := ← field? members "key_field" (some "ID") string?
      hierarchies := ← field? members "hierarchies" (some []) (list? string?)
      properties := ← field? members "properties" (some []) (list? string?)
      dateLike := ← field? members "date_like" (some false) boolean?
      version := ← field? members "version" (some false) boolean? }
  | _ => none

def readMeasure? (value : JsonValue) : Option Measure :=
  match value with
  | .object members => do
    return {
      id := ← field? members "id" none string?
      aliasName := ← field? members "alias" (some none) (nullable? string?)
      valueType := ← field? members "value_type" (some .number) readType?
      hidden := ← field? members "visibility" (some false) readVisibility?
      formula := ← field? members "formula" (some none) (nullable? string?) }
  | _ => none

/-- The model that a file describes. -/
def ofFile? (text : String) : Option Model :=
  match JsonValue.parse? text with
  | some (.object members) => do
    let backend ← field? members "backend" none readBackend?
    let dimensions ← field? members "dimensions" (some []) (list? readDimension?)
    let measures ← field? members "measures" (some []) (list? readMeasure?)
    return .ofMembers backend dimensions measures
  | _ => none

end Model

end OlapFormula
