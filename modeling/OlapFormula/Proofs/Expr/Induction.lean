import Mathlib.Data.List.Basic
import OlapFormula.Expr.Basic

/-!
# Induction on expressions

Expressions hold lists of expressions, as nodes hold lists of nodes. The induction principle gives a
property of a call or a list from the property of everything in it.
-/

namespace OlapFormula.Expr

@[elab_as_elim]
theorem induction {P : Expr → Prop} (number : ∀ spelling, P (.number spelling))
    (string : ∀ value, P (.string value)) (boolean : ∀ value, P (.boolean value)) (null : P .null)
    (field : ∀ reference, P (.field reference))
    (binary : ∀ op left right, P left → P right → P (.binary op left right))
    (unary : ∀ op operand, P operand → P (.unary op operand))
    (call : ∀ name args, (∀ arg ∈ args, P arg) → P (.call name args))
    (list : ∀ items, (∀ item ∈ items, P item) → P (.list items)) (e : Expr) : P e := by
  refine @Expr.rec P (fun es => ∀ e ∈ es, P e) number string boolean null field binary unary call
    list ?_ ?_ e
  · simp
  · intro head tail hhead htail e he
    rcases List.mem_cons.mp he with rfl | he
    · exact hhead
    · exact htail e he

/-- The same with one case for operations and calls. -/
@[elab_as_elim]
theorem induction_of_children {P : Expr → Prop} (number : ∀ spelling, P (.number spelling))
    (string : ∀ value, P (.string value)) (boolean : ∀ value, P (.boolean value)) (null : P .null)
    (field : ∀ reference, P (.field reference))
    (call : ∀ e name, e.callName = some name → (∀ child ∈ e.children, P child) → P e)
    (list : ∀ items, (∀ item ∈ items, P item) → P (.list items)) (e : Expr) : P e := by
  induction e using induction with
  | number spelling => exact number spelling
  | string value => exact string value
  | boolean value => exact boolean value
  | null => exact null
  | field reference => exact field reference
  | binary op left right ihleft ihright =>
    exact call _ _ rfl (List.forall_mem_cons.mpr ⟨ihleft, List.forall_mem_singleton.mpr ihright⟩)
  | unary op operand ih => exact call _ _ rfl (List.forall_mem_singleton.mpr ih)
  | call name args ih => exact call _ _ rfl ih
  | list items ih => exact list items ih

mutual

/-- The references in the expression. -/
def fields : Expr → List FieldReference
  | field reference => [reference]
  | binary _ left right => fields left ++ fields right
  | unary _ operand => fields operand
  | call _ args => fieldsOfAll args
  | list items => fieldsOfAll items
  | _ => []

def fieldsOfAll : List Expr → List FieldReference
  | [] => []
  | e :: es => fields e ++ fieldsOfAll es

end

lemma fieldsOfAll_eq (es : List Expr) : fieldsOfAll es = es.flatMap fields := by
  induction es with
  | nil => rfl
  | cons e es ih => rw [fieldsOfAll, List.flatMap_cons, ih]

lemma forall_fieldsOfAll {es : List Expr} {P : FieldReference → Prop} :
    (∀ r ∈ fieldsOfAll es, P r) ↔ ∀ e ∈ es, ∀ r ∈ e.fields, P r := by
  rw [fieldsOfAll_eq, List.forall_mem_flatMap]

lemma fields_of_callName {e : Expr} {name : String} (h : e.callName = some name) :
    e.fields = fieldsOfAll e.children := by
  cases e with
  | binary op left right => simp [fields, children, fieldsOfAll]
  | unary op operand => simp [fields, children, fieldsOfAll]
  | call name args => rfl
  | number _ | string _ | boolean _ | null | field _ | list _ => cases h

end OlapFormula.Expr
