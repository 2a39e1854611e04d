import OlapFormula.FieldReference.Basic
import OlapFormula.Function.Kind
import OlapFormula.Model.Basic
import OlapFormula.Node.Literal
import OlapFormula.Text.Basic

/-!
# Nodes

A formula whose names are resolved in a model. The type of a node follows from the node, so that a
node which has been changed cannot carry a type from before.
-/

namespace OlapFormula

/-- A reference to a dimension, with what it stands for if the model knows it. -/
structure DimensionRef where
  reference : FieldReference
  dimension : Option Dimension
deriving DecidableEq

namespace DimensionRef

def type (ref : DimensionRef) : DataType :=
  match ref.dimension with
  | none => .unknown
  | some dimension =>
    if ref.reference.property.isSome then .dimensionAttribute else dimension.dataType

/-- The id in the model, or as written if the model has none. -/
def id (ref : DimensionRef) : String :=
  match ref.dimension with
  | none => ref.reference.id
  | some dimension => dimension.id

def isDateLike (ref : DimensionRef) : Bool := ref.dimension.any (·.dateLike)

def isVersion (ref : DimensionRef) : Bool := ref.dimension.any (·.version)

end DimensionRef

/-- A reference to a measure, with what it stands for if the model knows it. -/
structure MeasureRef where
  reference : FieldReference
  measure : Option Measure
deriving DecidableEq

namespace MeasureRef

def type (ref : MeasureRef) : DataType :=
  match ref.measure with
  | none => .unknown
  | some measure => if measure.valueType.isNumeric then .measure else measure.valueType

/-- The id in the model, or as written if the model has none. -/
def id (ref : MeasureRef) : String :=
  match ref.measure with
  | none => ref.reference.id
  | some measure => measure.id

end MeasureRef

/-- The members selected from one dimension. -/
structure MemberFilter where
  dimension : DimensionRef
  values : List Literal
deriving DecidableEq

namespace MemberFilter

def isMultiSelect (filter : MemberFilter) : Bool := 1 < filter.values.length

def text (filter : MemberFilter) : String :=
  match filter.values with
  | [value] => filter.dimension.reference.text ++ " = " ++ value.text
  | values =>
    filter.dimension.reference.text ++ " IN \x7b" ++
      Text.joined ", " (values.map Literal.text) ++ "\x7d"

end MemberFilter

/-- A measure under member filters, as a measure of its own. -/
structure RestrictedMeasure where
  id : String
  base : MeasureRef
  filters : List MemberFilter
deriving DecidableEq

def RestrictedMeasure.text (restricted : RestrictedMeasure) : String :=
  "RESTRICT(" ++
    Text.joined ", " (restricted.base.reference.text :: restricted.filters.map (·.text)) ++
    ")"

inductive Node
  | const (value : Literal)
  | constList (values : List Literal)
  | dimension (ref : DimensionRef)
  | measure (ref : MeasureRef)
  | call (kind : FunctionKind) (args : List Node)
  /-- A list that does not consist of constants only. -/
  | array (items : List Node)
  | restricted (derived : RestrictedMeasure)

namespace Node

def number (value : Decimal) : Node := const (.number value)

def string (value : String) : Node := const (.string value)

def boolean (value : Bool) : Node := const (.boolean value)

def null : Node := const .null

def literal? : Node → Option Literal
  | const value => some value
  | _ => none

def dimension? : Node → Option DimensionRef
  | dimension ref => some ref
  | _ => none

/-- The constants that the nodes are, if each is one. -/
def literals? : List Node → Option (List Literal)
  | [] => some []
  | node :: nodes => do return (← node.literal?) :: (← literals? nodes)

def list (items : List Node) : Node :=
  match literals? items with
  | some values => constList values
  | none => array items

/-- A constant or a list of constants. -/
def isLiteral : Node → Bool
  | const _ | constList _ => true
  | _ => false

def isNull : Node → Bool
  | const .null => true
  | _ => false

def key? (node : Node) : Option String := node.literal?.bind Literal.key?

mutual

/-- The node and everything below it, a node before what is in it. -/
def preorder : Node → List Node
  | call kind args => call kind args :: preorders args
  | array items => array items :: preorders items
  | node => [node]

def preorders : List Node → List Node
  | [] => []
  | node :: nodes => preorder node ++ preorders nodes

end

/-- The measures that a formula refers to, the bases of restricted ones among them. -/
def measureRefs (node : Node) : List MeasureRef :=
  node.preorder.filterMap fun
    | measure ref => some ref
    | restricted r => some r.base
    | _ => none

def restrictedMeasures (node : Node) : List RestrictedMeasure :=
  node.preorder.filterMap fun
    | restricted r => some r
    | _ => none

end Node

end OlapFormula
