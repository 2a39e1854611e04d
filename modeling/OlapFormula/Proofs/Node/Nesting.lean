import OlapFormula.Node.Printer
import OlapFormula.Proofs.Expr.Nesting

/-!
# Nesting of formula text

How many levels of nesting the text of a node has: signs, `NOT`, exponents, calls, lists and the parentheses
that the text needs are one level each.
-/

namespace OlapFormula

open OlapFormula.Expr (deepest)

def Literal.nesting : Literal → Nat
  | number value => if value.negative && !value.isZero then 1 else 0
  | _ => 0

def MemberFilter.nesting (filter : MemberFilter) : Nat :=
  match filter.values with
  | [value] => value.nesting
  | values => deepest (values.map Literal.nesting) + 1

def RestrictedMeasure.nesting (restricted : RestrictedMeasure) : Nat :=
  deepest (restricted.filters.map MemberFilter.nesting) + 1

/-- How strongly an operand holds together, and how many levels of nesting its text has. -/
structure NestedOperand where
  precedence : Nat
  nesting : Nat

def NestedOperand.inParentheses (operand : NestedOperand) (needed : Bool) : Nat :=
  if needed then operand.nesting + 1 else operand.nesting

/-- The levels of nesting in the text of a call. -/
def callNesting (kind : FunctionKind) (operands : List NestedOperand) : Nat :=
  match kind.spelling, operands with
  | .between _ precedence rightAssociative, [left, right] =>
    let before := left.inParentheses (left.precedence < precedence ||
      (left.precedence == precedence && rightAssociative))
    let after := right.inParentheses (right.precedence < precedence ||
      (right.precedence == precedence && !rightAssociative))
    max before (if rightAssociative then after + 1 else after)
  | .before _ precedence, [operand] => operand.inParentheses (operand.precedence < precedence) + 1
  | _, operands => deepest (operands.map (·.nesting)) + 1

namespace Node

mutual

/-- The levels of nesting in the text of the node. -/
def nesting : Node → Nat
  | const value => value.nesting
  | constList values => deepest (values.map Literal.nesting) + 1
  | dimension _ => 0
  | measure _ => 0
  | call kind args => callNesting kind (nestedOperands args)
  | array items => deepest ((nestedOperands items).map (·.nesting)) + 1
  | restricted derived => derived.nesting

def nestedOperands : List Node → List NestedOperand
  | [] => []
  | node :: nodes => ⟨node.precedence, nesting node⟩ :: nestedOperands nodes

end

lemma nestedOperands_eq_map (nodes : List Node) :
    nestedOperands nodes = nodes.map fun node => ⟨node.precedence, node.nesting⟩ := by
  induction nodes with
  | nil => rfl
  | cons node nodes ih => simp [nestedOperands, ih]

end Node

lemma Literal.nesting_le (value : Literal) : value.nesting ≤ 1 := by
  cases value with
  | number value =>
    dsimp only [nesting]
    split
    · exact le_rfl
    · exact Nat.zero_le 1
  | string _ | boolean _ | null => exact Nat.zero_le 1

lemma Literal.deepest_nesting_le (values : List Literal) : deepest (values.map nesting) ≤ 1 :=
  Expr.deepest_le (List.forall_mem_map.mpr fun value _ => value.nesting_le)

lemma MemberFilter.nesting_le (filter : MemberFilter) : filter.nesting ≤ 2 := by
  unfold nesting
  split
  · next value _ => exact value.nesting_le.trans (by decide)
  · exact Nat.succ_le_succ (Literal.deepest_nesting_le _)

lemma RestrictedMeasure.nesting_le (restricted : RestrictedMeasure) : restricted.nesting ≤ 3 :=
  Nat.succ_le_succ <|
    Expr.deepest_le (List.forall_mem_map.mpr fun filter _ => filter.nesting_le)

end OlapFormula
