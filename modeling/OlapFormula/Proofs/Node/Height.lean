import OlapFormula.Proofs.Node.Expression
import OlapFormula.Proofs.Node.Induction
import OlapFormula.Proofs.Node.Nesting

/-!
# How high the expression of a node is

The text of a node nests at most twice as deep as its expression is high: an operand may stand in parentheses
and behind a sign or in an exponent, and each argument of a call is one level deeper.
-/

namespace OlapFormula

open OlapFormula.Expr (deepest)

namespace Expr

lemma height_pos (e : Expr) : 0 < e.height := by
  cases e with
  | number _ | string _ | boolean _ | null | field _ => exact Nat.one_pos
  | binary _ _ _ | unary _ _ | call _ _ | list _ => exact Nat.add_pos_left Nat.one_pos _

lemma maxHeight_eq (es : List Expr) : maxHeight es = deepest (es.map height) := by
  induction es with
  | nil => rfl
  | cons e es ih => rw [maxHeight, ih, List.map_cons, deepest_cons]

lemma maxHeight_map_le {α : Type} {xs : List α} {f : α → Expr} {n : Nat}
    (h : ∀ x ∈ xs, (f x).height ≤ n) : maxHeight (xs.map f) ≤ n := by
  rw [maxHeight_eq, List.map_map]
  exact deepest_le (List.forall_mem_map.mpr h)

end Expr

lemma Decimal.height_expr_le (a : Decimal) : a.expr.height ≤ 2 := by
  unfold Decimal.expr
  split
  · exact le_rfl
  · exact (by decide : 1 ≤ 2)

lemma Literal.height_expr_le (value : Literal) : value.expr.height ≤ 2 := by
  cases value with
  | number value => exact value.height_expr_le
  | string _ | boolean _ | null => exact (by decide : 1 ≤ 2)

lemma Literal.maxHeight_expr_le (values : List Literal) : Expr.maxHeight (values.map expr) ≤ 2 :=
  Expr.maxHeight_map_le fun value _ => value.height_expr_le

lemma MemberFilter.height_expr_le (filter : MemberFilter) : filter.expr.height ≤ 4 := by
  unfold MemberFilter.expr
  split
  · next value hvalues =>
    have hvalue := value.height_expr_le
    simp only [Expr.height]
    omega
  · next values hvalues =>
    have hlist := Literal.maxHeight_expr_le filter.values
    simp only [Expr.height]
    omega

lemma RestrictedMeasure.height_expr_le (r : RestrictedMeasure) : r.expr.height ≤ 5 := by
  have hfilters : Expr.maxHeight (r.filters.map MemberFilter.expr) ≤ 4 :=
    Expr.maxHeight_map_le fun filter _ => filter.height_expr_le
  unfold RestrictedMeasure.expr
  simp only [Expr.height, Expr.maxHeight]
  omega

lemma height_callExpr (kind : FunctionKind) (es : List Expr) :
    (callExpr kind es).height = 1 + Expr.maxHeight es := by
  unfold callExpr
  split
  · rw [Expr.height, Expr.maxHeight, Expr.maxHeight, Expr.maxHeight, Nat.max_zero]
  · rw [Expr.height, Expr.maxHeight, Expr.maxHeight, Nat.max_zero]
  · rw [Expr.height]

namespace Node

/-- The height of the expression that the node stands for. -/
def height (node : Node) : Nat := node.expr.height

lemma height_pos (node : Node) : 0 < node.height := node.expr.height_pos

lemma height_const_le (value : Literal) : (const value).height ≤ 2 := value.height_expr_le

lemma height_call (kind : FunctionKind) (args : List Node) :
    (call kind args).height = 1 + deepest (args.map height) := by
  rw [height, expr, height_callExpr, exprs_eq_map, Expr.maxHeight_eq, List.map_map]
  rfl

lemma height_call_cons (kind : FunctionKind) (arg : Node) (args : List Node) :
    (call kind (arg :: args)).height = 1 + max arg.height (deepest (args.map height)) := height_call ..

lemma height_call_single (kind : FunctionKind) (arg : Node) : (call kind [arg]).height = 1 + arg.height := by
  rw [height_call_cons]
  exact congrArg (1 + ·) (Nat.max_zero _)

lemma height_call_pair (kind : FunctionKind) (a b : Node) :
    (call kind [a, b]).height = 1 + max a.height b.height := by
  rw [height_call_cons, List.map_singleton]
  exact congrArg (1 + max a.height ·) (Nat.max_zero _)

lemma height_constList (values : List Literal) :
    (constList values).height = 1 + deepest (values.map fun value => (const value).height) := by
  rw [height, expr, Expr.height, Expr.maxHeight_eq, List.map_map]
  rfl

lemma height_array (items : List Node) : (array items).height = 1 + deepest (items.map height) := by
  rw [height, expr, Expr.height, exprs_eq_map, Expr.maxHeight_eq, List.map_map]
  rfl

lemma height_list (items : List Node) : (list items).height = 1 + deepest (items.map height) := by
  unfold list
  split
  · next hliterals =>
    rw [height_constList, eq_map_const_of_literals? hliterals, List.map_map]
    rfl
  · exact height_array items

lemma height_lt_of_mem {kind : FunctionKind} {args : List Node} {arg : Node} (h : arg ∈ args) :
    arg.height < (call kind args).height := by
  rw [height_call, Nat.add_comm]
  exact Nat.lt_succ_of_le (Expr.le_deepest (List.mem_map_of_mem h))

lemma deepest_le_two_mul {α : Type} {xs : List α} {f g : α → Nat} (h : ∀ x ∈ xs, f x ≤ 2 * g x) :
    deepest (xs.map f) ≤ 2 * deepest (xs.map g) := by
  refine Expr.deepest_le (List.forall_mem_map.mpr fun x hx => (h x hx).trans ?_)
  exact Nat.mul_le_mul_left 2 (Expr.le_deepest (List.mem_map_of_mem hx))

lemma nesting_const_lt (value : Literal) : (const value).nesting + 1 ≤ 2 * (const value).height := by
  have hpos := (const value).height_pos
  have hnesting := value.nesting_le
  rw [nesting]
  omega

end Node

lemma NestedOperand.inParentheses_le (operand : NestedOperand) (needed : Bool) :
    operand.inParentheses needed ≤ operand.nesting + 1 := by
  unfold inParentheses
  split
  · exact le_rfl
  · exact Nat.le_succ _

/-- Parentheses make an operand one level deeper, and so does a sign before it or the operator of a power. -/
lemma callNesting_le (kind : FunctionKind) (operands : List NestedOperand) :
    callNesting kind operands ≤ deepest (operands.map (·.nesting + 1)) + 1 := by
  unfold callNesting
  split
  · next precedence rightAssociative left right _ =>
    have hleft := left.inParentheses_le (left.precedence < precedence ||
      (left.precedence == precedence && rightAssociative))
    have hright := right.inParentheses_le (right.precedence < precedence ||
      (right.precedence == precedence && !rightAssociative))
    simp only [List.map_cons, List.map_nil, Expr.deepest_cons]
    split <;> omega
  · next precedence operand _ =>
    have hoperand := operand.inParentheses_le (operand.precedence < precedence)
    simp only [List.map_cons, List.map_nil, Expr.deepest_cons]
    omega
  · refine Nat.succ_le_succ (Expr.deepest_le (List.forall_mem_map.mpr fun operand hoperand => ?_))
    exact (Nat.le_succ _).trans (Expr.le_deepest (List.mem_map_of_mem hoperand))

namespace Node

/-- The text of a node nests less than twice as deep as its expression is high. -/
theorem nesting_lt (node : Node) : node.nesting + 1 ≤ 2 * node.height := by
  induction node using Node.induction with
  | const value => exact nesting_const_lt value
  | constList values =>
    have hvalues : deepest (values.map Literal.nesting) ≤
        2 * deepest (values.map fun value => (const value).height) :=
      deepest_le_two_mul fun value _ => (Nat.le_succ _).trans (nesting_const_lt value)
    rw [height_constList, nesting]
    omega
  | dimension _ | measure _ => exact (by decide : 1 ≤ 2)
  | call kind args ih =>
    have hargs : deepest (args.map fun arg => arg.nesting + 1) ≤ 2 * deepest (args.map height) :=
      deepest_le_two_mul ih
    have hcall := callNesting_le kind (nestedOperands args)
    rw [nestedOperands_eq_map, List.map_map] at hcall
    rw [height_call, nesting, nestedOperands_eq_map]
    exact (Nat.succ_le_succ (hcall.trans (Nat.succ_le_succ hargs))).trans (by omega)
  | array items ih =>
    have hitems : deepest (items.map nesting) ≤ 2 * deepest (items.map height) :=
      deepest_le_two_mul fun item hitem => (Nat.le_succ _).trans (ih item hitem)
    rw [height_array, nesting, nestedOperands_eq_map, List.map_map]
    exact (Nat.add_le_add_right hitems 2).trans (by omega)
  | restricted derived =>
    have hnesting := derived.nesting_le
    have hheight : 2 ≤ (restricted derived).height :=
      Nat.add_le_add_left (Nat.le_max_left 1 _) 1
    rw [nesting]
    omega

end Node

end OlapFormula
