import OlapFormula.Node.Basic

/-!
# Types of nodes
-/

namespace OlapFormula

/-- The type of a number computed from numbers: a measure if one of them is, and an integer if all of
them are and the operation keeps integers. -/
def numericType (keepsIntegers : Bool) (types : List DataType) : DataType :=
  if types.contains .measure then .measure
  else if keepsIntegers && !types.isEmpty && types.all (· == .integer) then .integer
  else .number

/-- A dimension compared with a constant selects members. -/
def isMemberComparison : List Node → Bool
  | [.dimension _, right] => right.isLiteral
  | _ => false

def startsWithDimension : List Node → Bool
  | .dimension _ :: _ => true
  | _ => false

/-- The type of a call, given the arguments and their types. -/
def callType (kind : FunctionKind) (args : List Node) (types : List DataType) : DataType :=
  match kind with
  | .add | .subtract | .multiply | .negate => numericType true types
  | .divide | .power => numericType false types
  | .equal | .notEqual | .less | .lessEqual | .greater | .greaterEqual =>
    if isMemberComparison args then .dimensionFilter else .boolean
  | .isIn | .notIn => if startsWithDimension args then .dimensionFilter else .boolean
  | .and | .or | .not =>
    if !types.isEmpty && types.all (· == .dimensionFilter) then .dimensionFilter else .boolean
  | .ifThen =>
    match types[1]?.getD .unknown, types[2]? with
    | .unknown, some otherwise => otherwise
    | type, _ => type
  | .isNullHana | .isNullBw => .boolean
  | .abs | .floor | .ceil | .mod | .min | .max => numericType true types
  | .round | .trunc => numericType true (types.take 1)
  | .sqrt | .log | .log10 | .exp => numericType false types
  | .int => .integer
  | .float => .number
  | .length => .integer
  | .like => .boolean
  | .upper | .lower | .concat | .substring | .replace => .string
  | .dateDiffHana | .dateDiffBw | .daysBetween | .monthsBetween | .yearsBetween => .integer
  | .restrict | .grandTotal | .subtotal | .subtotalByIds | .percentOfGrandTotal
  | .percentOfSubtotal => .measure

namespace Node

mutual

def type : Node → DataType
  | const value => value.type
  | constList values => DataType.ofElements (values.map Literal.type)
  | dimension ref => ref.type
  | measure ref => ref.type
  | call kind args => callType kind args (types args)
  | array items => DataType.ofElements (types items)
  | restricted _ => .measure

def types : List Node → List DataType
  | [] => []
  | node :: nodes => type node :: types nodes

end

end Node

end OlapFormula
