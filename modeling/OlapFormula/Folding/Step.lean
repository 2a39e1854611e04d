import OlapFormula.Folding.Constants
import OlapFormula.MemberKey
import OlapFormula.Node.Basic

/-!
# Folding a node

A call whose value is known already is replaced by that value.
-/

namespace OlapFormula

namespace Folding

/-- Differences of two dates, written as strings. -/
def ofDates (order : DateOrder) (kind : FunctionKind) (a b : String) : Option Node := do
  let a ← Date.ofText? order a.toList
  let b ← Date.ofText? order b.toList
  let difference ← match kind with
    | .daysBetween => some (a.daysBetween b)
    | .monthsBetween => some (a.monthsBetween b)
    | .yearsBetween => some (a.yearsBetween b)
    | _ => none
  return .number (← Decimal.ofInt? difference)

/-- The branch that a condition takes. Without a value for the other case it is `NULL`. -/
def ofIf (condition : Bool) (value : Node) (otherwise : List Node) : Node :=
  if condition then value else otherwise.head?.getD .null

def ofIsNull : Node → Option Node
  | .const value => some (.boolean (value == .null))
  | .constList _ => some (.boolean false)
  | _ => none

end Folding

/-- The value of a call, if it is known. -/
def Node.fold? (order : DateOrder) : Node → Option Node
  | .call kind args =>
    match kind, args with
    | .ifThen, .const (.boolean condition) :: value :: otherwise =>
      some (Folding.ofIf condition value otherwise)
    | .isNullHana, [value] => Folding.ofIsNull value
    | .daysBetween, [.const (.string a), .const (.string b)]
    | .monthsBetween, [.const (.string a), .const (.string b)]
    | .yearsBetween, [.const (.string a), .const (.string b)] => Folding.ofDates order kind a b
    | _, [] => none
    | kind, args => do
      let values ← Node.literals? args
      return .const (← Folding.ofConstants kind values)
  | _ => none

end OlapFormula
