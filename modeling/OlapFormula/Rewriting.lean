import OlapFormula.MemberKey
import OlapFormula.Restriction

/-!
# Rewriting a node

Some calls stand for others: membership for a chain of comparisons, totals and differences for calls
that the backend knows, a restriction for a measure of its own.
-/

namespace OlapFormula

namespace Rewriting

/-- `a OR (b OR c)`, for one operand or more. -/
def joinRight (join : FunctionKind) (first : Node) : List Node → Node
  | [] => first
  | second :: rest => .call join [first, joinRight join second rest]

/-- `x IN {a, b}` is `x = a OR x = b`, and `x NOT IN {a, b}` is `x != a AND x != b`. -/
def ofMembership (excluded : Bool) (subject : Node) (elements : List Node) : Node :=
  let comparison := if excluded then FunctionKind.notEqual else .equal
  let join := if excluded then FunctionKind.and else .or
  match elements.map fun element => .call comparison [subject, element] with
  | [] => .boolean excluded
  | first :: rest => joinRight join first rest

def elements? : Node → Option (List Node)
  | .constList values => some (values.map .const)
  | .array items => some items
  | _ => none

def membership? (excluded : Bool) : List Node → Option Node
  | [subject, list] => (elements? list).map (ofMembership excluded subject)
  | _ => none

/-- A member of a date dimension is compared by its key. -/
def memberComparison? (order : DateOrder) (kind : FunctionKind) : List Node → Option Node
  | [.dimension ref, .const (.string value)] =>
    if ref.isDateLike then
      (memberKey? order value.toList).map fun key =>
        .call kind [.dimension ref, .string (String.ofList key)]
    else none
  | _ => none

def differenceKind : Granularity → FunctionKind
  | .day => .daysBetween
  | .month => .monthsBetween
  | .year => .yearsBetween

def dateDifference? : List Node → Option Node
  | [a, b] => some (.call .daysBetween [a, b])
  | [a, b, .const (.string unit)] =>
    (Granularity.ofName? unit).map fun granularity => .call (differenceKind granularity) [a, b]
  | _ => none

/-- The ids of the dimensions that the nodes refer to, as a list of strings. -/
def dimensionIds? : List Node → Option (List Literal)
  | [] => some []
  | .dimension ref :: nodes => (dimensionIds? nodes).map (.string ref.id :: ·)
  | _ :: _ => none

def subtotal? (measure : Node) (axes : List Node) : Option Node :=
  (dimensionIds? axes).map fun ids => .call .subtotalByIds [measure, .constList ids]

end Rewriting

open Rewriting

/-- The call that a call stands for, if it is not that call itself. -/
def Node.rewrite? (order : DateOrder) : Node → Option Node
  | .call kind args =>
    match kind, args with
    | .isIn, args => membership? false args
    | .notIn, args => membership? true args
    | .equal, args | .notEqual, args | .less, args | .lessEqual, args | .greater, args
    | .greaterEqual, args => memberComparison? order kind args
    | .dateDiffHana, args => dateDifference? args
    | .dateDiffBw, [a, b] => some (.call .daysBetween [a, b])
    | .restrict, base :: filters => (RestrictedMeasure.ofArgs? base filters).map .restricted
    | .subtotal, base :: axes => subtotal? base axes
    | .percentOfGrandTotal, base :: _ => some (.call .divide [base, .call .grandTotal [base]])
    | .percentOfSubtotal, base :: axes =>
      (subtotal? base axes).map fun total => .call .divide [base, total]
    | _, _ => none
  | _ => none

end OlapFormula
