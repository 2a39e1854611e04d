import OlapFormula.MemberKey
import OlapFormula.Message
import OlapFormula.Node.Printer

/-!
# Constants as arguments

What can be said against a call because some of its arguments are constants: no function value exists
for them, or the function knows no such unit.
-/

namespace OlapFormula

namespace Node

mutual

/-- The number that a node is, be it under `FLOAT`. -/
def constantNumber? : Node → Option Decimal
  | const value => value.number?
  | call .float args => firstConstantNumber? args
  | _ => none

def firstConstantNumber? : List Node → Option Decimal
  | [] => none
  | node :: _ => constantNumber? node

end

end Node

namespace Checks

def isNegative (n : Decimal) : Bool := n.negative && !n.isZero

/-- The divisor of `/` or `MOD`. -/
def divisor (text : String) (node : Node) : List Message :=
  if node.constantNumber?.any Decimal.isZero then [{ code := .divideByZero, text }] else []

def power (base exponent : Node) : List Message :=
  match base.constantNumber?, exponent.constantNumber? with
  | some base, some exponent =>
    if base.isZero && isNegative exponent then
      [{ code := .powerZeroNegative, text := "Zero cannot be raised to a negative power" }]
    else if base.negative && exponent.toInt64?.isNone then
      [{ code := .powerNegativeFractional
         text := "A negative number cannot be raised to a fractional power" }]
    else []
  | _, _ => []

def squareRoot (node : Node) : List Message :=
  if node.constantNumber?.any isNegative then
    [{ code := .sqrtDomain, text := "SQRT is not defined for negative numbers" }]
  else []

def logarithm (kind : FunctionKind) (node : Node) : List Message :=
  if node.constantNumber?.any fun n => n.negative || n.isZero then
    [{ code := .logDomain, text := kind.name ++ " is only defined for positive numbers" }]
  else []

/-- The unit of a difference of dates is a constant that names one. -/
def granularity (unit : Node) : List Message :=
  let known := (unit.literal?.bind Literal.string?).bind Granularity.ofName?
  if known.isSome then []
  else
    [{ code := .invalidGranularity
       text := "Invalid granularity " ++ unit.text ++
         "; expected \"Day\", \"Month\" or \"Year\"" }]

def constants (kind : FunctionKind) (args : List Node) : List Message :=
  match kind, args with
  | .divide, [_, node] => divisor "Division by zero" node
  | .mod, [_, node] => divisor "MOD by zero" node
  | .power, [base, exponent] => power base exponent
  | .sqrt, [node] => squareRoot node
  | .log, [node] | .log10, [node] => logarithm kind node
  | .dateDiffHana, [_, _, unit] => granularity unit
  | _, _ => []

end Checks

end OlapFormula
