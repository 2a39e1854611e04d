import Mathlib.Algebra.Order.BigOperators.Group.List
import Mathlib.Algebra.Order.Ring.Nat
import OlapFormula.Proofs.Expr.Sound

/-!
# The weight of an expression

However an expression is written, it takes a word for each operand, operator, name and parenthesis of a call
and separator. Signs and parentheses that leave no trace may be added to them.
-/

namespace OlapFormula.Expr

mutual

/-- A number of words that the expression cannot be written without. -/
def weight : Expr → Nat
  | binary _ left right => 1 + left.weight + right.weight
  | unary _ operand => 1 + operand.weight
  | call _ args => 2 + weights args
  | list items => 1 + weights items
  | _ => 1

/-- The weight of items with one separator for each. -/
def weights : List Expr → Nat
  | [] => 0
  | e :: es => e.weight + 1 + weights es

end

lemma weights_eq_sum (es : List Expr) : weights es = (es.map weight).sum + es.length := by
  induction es with
  | nil => rfl
  | cons e es ih =>
    rw [weights, ih, List.map_cons, List.sum_cons, List.length_cons]
    omega

lemma weight_pos (e : Expr) : 0 < e.weight := by
  cases e <;> simp only [weight] <;> omega

lemma weight_call (name : String) (args : List Expr) :
    (call name args).weight = 2 + (args.map weight).sum + args.length := by
  rw [weight, weights_eq_sum, Nat.add_assoc]

lemma weight_list (items : List Expr) :
    (list items).weight = 1 + (items.map weight).sum + items.length := by
  rw [weight, weights_eq_sum, Nat.add_assoc]

/-- An operation or a call weighs more than its operands or arguments together. -/
lemma sum_weight_children_lt {e : Expr} {name : String} (h : e.callName = some name) :
    1 + (e.children.map weight).sum ≤ e.weight := by
  cases e with
  | binary op left right =>
    simp only [children, List.map_cons, List.map_nil, List.sum_cons, List.sum_nil, weight]
    omega
  | unary op operand =>
    simp only [children, List.map_cons, List.map_nil, List.sum_cons, List.sum_nil, weight]
    omega
  | call name args =>
    rw [children, weight_call]
    omega
  | number _ | string _ | boolean _ | null | field _ | list _ => cases h

lemma weight_le_sum {es : List Expr} {e : Expr} (h : e ∈ es) : e.weight ≤ (es.map weight).sum :=
  List.single_le_sum (by simp) _ (List.mem_map_of_mem h)

lemma length_le_sum_weight (es : List Expr) : es.length ≤ (es.map weight).sum := by
  rw [← List.length_map weight]
  exact List.length_le_sum_of_one_le _ (List.forall_mem_map.mpr fun e _ => e.weight_pos)

lemma weights_le_of_areMoreItems {items : List (List Word × Expr)} {ws : List Word}
    (hitems : ∀ item ∈ items, item.2.weight ≤ item.1.length)
    (h : AreMoreItems (items.map (·.1)) ws) : weights (items.map (·.2)) ≤ ws.length := by
  induction items generalizing ws with
  | nil => exact Nat.zero_le _
  | cons item items ih =>
    rw [List.forall_mem_cons] at hitems
    obtain - | ⟨-, hmore⟩ := h
    have hrest := ih hitems.2 hmore
    simp only [List.map_cons, weights, List.length_cons, List.length_append]
    omega

lemma weights_le_of_areItems {items : List (List Word × Expr)} {ws : List Word}
    (hitems : ∀ item ∈ items, item.2.weight ≤ item.1.length)
    (h : AreItems (items.map (·.1)) ws) : weights (items.map (·.2)) ≤ ws.length + 1 := by
  cases items with
  | nil => exact Nat.zero_le _
  | cons item items =>
    rw [List.forall_mem_cons] at hitems
    obtain - | hmore := h
    have hrest := weights_le_of_areMoreItems hitems.2 hmore
    simp only [List.map_cons, weights, List.length_append]
    omega

lemma Rule.HasOperator.length_pos {rule : Rule} {ws : List Word} {op : BinaryOperator}
    (h : rule.HasOperator ws op) : 0 < ws.length := by
  cases h <;> exact Nat.succ_pos _

/-- An expression weighs at most as much as any words that it is derived from. -/
theorem Derives.weight_le {rule : Rule} {ws : List Word} {e : Expr} (h : Derives rule ws e) :
    e.weight ≤ ws.length := by
  induction h with
  | operand _ _ ih | comparison _ _ ih | base _ ih | primary _ ih => exact ih
  | binary _ _ hop _ ihleft ihright =>
    have hlength := hop.length_pos
    simp only [weight, List.length_append]
    omega
  | power _ _ _ ihbase ihexponent =>
    simp only [weight, List.length_append, List.length_cons]
    omega
  | not _ _ ih | negate _ _ ih =>
    rw [weight, List.length_cons]
    omega
  | plus _ _ ih => exact ih.trans (Nat.le_succ _)
  | parens _ _ _ ih =>
    rw [List.length_cons, List.length_append]
    omega
  | number _ | string _ | field _ | true _ | false _ | null _ => exact Nat.le_refl 1
  | list _ _ hitems _ ih =>
    have hweights := weights_le_of_areItems ih hitems
    simp only [weight, List.length_cons, List.length_append, List.length_nil]
    omega
  | call _ _ hitems _ ih =>
    have hweights := weights_le_of_areItems ih hitems
    simp only [weight, List.length_cons, List.length_append, List.length_nil]
    omega

/-- What is read weighs at most as much as there are lexemes. -/
theorem weight_le_of_parse {limits : NestingLimits} {text : String} {e : Expr}
    (h : parse limits text = .ok e) : e.weight ≤ (Lexeme.scan text.toList).length := by
  rw [← Lexeme.length_words]
  exact (derives_of_parse h).weight_le

end OlapFormula.Expr
