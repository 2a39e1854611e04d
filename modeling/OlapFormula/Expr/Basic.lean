import OlapFormula.FieldReference.Basic

/-!
# Expressions

A formula as it is written, before names are resolved. Numbers keep their spelling.
-/

namespace OlapFormula

inductive BinaryOperator
  | add
  | subtract
  | multiply
  | divide
  | power
  | equal
  | notEqual
  | less
  | lessEqual
  | greater
  | greaterEqual
  | isIn
  | notIn
  | and
  | or
deriving Repr, DecidableEq

/-- The name that the operator has in the catalog of functions. -/
def BinaryOperator.name : BinaryOperator → String
  | add => "+"
  | subtract => "-"
  | multiply => "*"
  | divide => "/"
  | power => "^"
  | equal => "="
  | notEqual => "!="
  | less => "<"
  | lessEqual => "<="
  | greater => ">"
  | greaterEqual => ">="
  | isIn => "IN"
  | notIn => "NOTIN"
  | and => "AND"
  | or => "OR"

inductive UnaryOperator
  | negate
  | not
deriving Repr, DecidableEq

def UnaryOperator.name : UnaryOperator → String
  | negate => "NEGATE"
  | not => "NOT"

inductive Expr
  | number (spelling : String)
  | string (value : String)
  | boolean (value : Bool)
  | null
  | field (reference : FieldReference)
  | binary (op : BinaryOperator) (left right : Expr)
  | unary (op : UnaryOperator) (operand : Expr)
  | call (name : String) (args : List Expr)
  | list (items : List Expr)
deriving Repr

namespace Expr

/-- The operands, arguments or items, in the order in which they are written. -/
def children : Expr → List Expr
  | binary _ left right => [left, right]
  | unary _ operand => [operand]
  | call _ args => args
  | list items => items
  | _ => []

mutual

/-- The number of expressions on the longest way down from this one. -/
def height : Expr → Nat
  | binary _ left right => 1 + max left.height right.height
  | unary _ operand => 1 + operand.height
  | call _ args => 1 + maxHeight args
  | list items => 1 + maxHeight items
  | _ => 1

def maxHeight : List Expr → Nat
  | [] => 0
  | e :: es => max e.height (maxHeight es)

end

/-- The name under which the catalog knows the expression, if it is an operation or a call. -/
def callName : Expr → Option String
  | binary op _ _ => some op.name
  | unary op _ => some op.name
  | call name _ => some name
  | _ => none

end Expr

end OlapFormula
