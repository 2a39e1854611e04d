import OlapFormula.Expr.Basic
import OlapFormula.FieldReference.Reader
import OlapFormula.Node.Basic

/-!
# The expression of a node

What the text of a node says, and which nodes have a text that says it.
-/

namespace OlapFormula

namespace FunctionKind

def binaryOperator? : FunctionKind → Option BinaryOperator
  | add => some .add
  | subtract => some .subtract
  | multiply => some .multiply
  | divide => some .divide
  | power => some .power
  | equal => some .equal
  | notEqual => some .notEqual
  | less => some .less
  | lessEqual => some .lessEqual
  | greater => some .greater
  | greaterEqual => some .greaterEqual
  | isIn => some .isIn
  | notIn => some .notIn
  | and => some .and
  | or => some .or
  | _ => none

def unaryOperator? : FunctionKind → Option UnaryOperator
  | negate => some .negate
  | not => some .not
  | _ => none

/-- The numbers of operands with which the kind is written. `AND` and `OR` take any number from two
on. -/
def takes (kind : FunctionKind) (count : Nat) : Prop :=
  match kind with
  | and | or => 2 ≤ count
  | _ =>
    match kind.spelling with
    | .call => True
    | .between _ _ _ => count = 2
    | .before _ _ => count = 1

end FunctionKind

/-- A negative number is the negation of its absolute value. -/
def Decimal.expr (a : Decimal) : Expr :=
  if a.negative && !a.isZero then .unary .negate (.number a.abs.text) else .number a.text

def Literal.expr : Literal → Expr
  | number value => value.expr
  | string value => .string value
  | boolean value => .boolean value
  | null => .null

def MemberFilter.expr (filter : MemberFilter) : Expr :=
  match filter.values with
  | [value] => .binary .equal (.field filter.dimension.reference) value.expr
  | values => .binary .isIn (.field filter.dimension.reference) (.list (values.map Literal.expr))

def RestrictedMeasure.expr (restricted : RestrictedMeasure) : Expr :=
  .call "RESTRICT" (.field restricted.base.reference :: restricted.filters.map MemberFilter.expr)

def callExpr (kind : FunctionKind) (args : List Expr) : Expr :=
  match kind.binaryOperator?, kind.unaryOperator?, args with
  | some op, _, [left, right] => .binary op left right
  | _, some op, [operand] => .unary op operand
  | _, _, args => .call kind.name args

namespace Node

mutual

/-- The expression that the node stands for. -/
def expr : Node → Expr
  | const value => value.expr
  | constList values => .list (values.map Literal.expr)
  | dimension ref => .field ref.reference
  | measure ref => .field ref.reference
  | call kind args => callExpr kind (exprs args)
  | array items => .list (exprs items)
  | restricted derived => derived.expr

def exprs : List Node → List Expr
  | [] => []
  | node :: nodes => expr node :: exprs nodes

end

theorem exprs_eq_map (nodes : List Node) : exprs nodes = nodes.map expr := by
  induction nodes with
  | nil => rfl
  | cons node nodes ih => simp [exprs, ih]

/-- The node has as many operands as its kind takes, and its references can be read. -/
def HasShape : Node → Prop
  | dimension ref => ∃ cs, FieldReference.parse? cs = some ref.reference
  | measure ref => ∃ cs, FieldReference.parse? cs = some ref.reference
  | call kind args => kind.takes args.length
  | restricted derived =>
    (∃ cs, FieldReference.parse? cs = some derived.base.reference) ∧
      ∀ filter ∈ derived.filters, ∃ cs, FieldReference.parse? cs = some filter.dimension.reference
  | _ => True

end Node

end OlapFormula
