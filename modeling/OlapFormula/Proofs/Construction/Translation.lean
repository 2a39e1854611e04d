import OlapFormula.Proofs.Checks.Surface
import OlapFormula.Proofs.Compiler.Normal
import OlapFormula.Proofs.Lowering.Measures

/-!
# Expressions and what is built of them

A relation between expressions and nodes that every step of the construction keeps holds between each
expression that is built without an error and its node.
-/

namespace OlapFormula

namespace Catalog

/-- Surface calls have longer names than operators. -/
lemma isSurface_of_length_le {name : String} (hname : (Text.upper name.toList).length ≤ 6) :
    ∀ item ∈ variants name, item.kind.isSurface = false := by
  have hall : ∀ item ∈ items, item.kind.isSurface = true → 6 < item.name.toList.length := by
    decide +kernel
  intro item hitem
  obtain ⟨hmem, heq⟩ := List.mem_filter.mp hitem
  rw [← Bool.not_eq_true]
  intro hsurface
  have hlong := hall item hmem hsurface
  rw [beq_iff_eq.mp heq] at hlong
  omega

end Catalog

namespace Construction

open Node

lemma exists_call_of_isSurface {e : Expr} {name : String} {item : FunctionItem}
    (hname : e.callName = some name) (hitem : item ∈ Catalog.variants name)
    (hsurface : item.kind.isSurface = true) : ∃ args, e = .call name args := by
  cases e with
  | binary op left right =>
    cases hname
    have hshort : (Text.upper op.name.toList).length ≤ 6 := by cases op <;> decide +kernel
    rw [Catalog.isSurface_of_length_le hshort item hitem] at hsurface
    cases hsurface
  | unary op operand =>
    cases hname
    have hshort : (Text.upper op.name.toList).length ≤ 6 := by cases op <;> decide +kernel
    rw [Catalog.isSurface_of_length_le hshort item hitem] at hsurface
    cases hsurface
  | call name args =>
    cases hname
    exact ⟨args, rfl⟩
  | number _ | string _ | boolean _ | null | field _ | list _ => cases hname

variable {settings : Settings} {model : Model} {Q : Expr → Node → Prop}

/-- Every step of the construction that finds no error keeps the relation. The nodes of operands, arguments
and items are given as a function. -/
structure IsTranslation (settings : Settings) (model : Model) (Q : Expr → Node → Prop) : Prop where
  const : ∀ e value, Q e (.const value)
  field : ∀ e reference, Q e (ofField model reference).1
  list : ∀ items (f : Expr → Node), (∀ item ∈ items, Q item (f item)) →
    Q (.list items) (.list (items.map f))
  call : ∀ e name item (f : Expr → Node), e.callName = some name → Resolves settings model name item →
    (∀ child ∈ e.children, Q child (f child)) →
    (∀ arg ∈ e.children.map f, IsNormal settings.dateOrder arg) →
    Q e ((Node.call item.kind (item.kind.prepare (e.children.map f))).lowerRoot settings.dateOrder)

lemma isNormal_build {e : Expr} (hmessages : Message.hasErrors (build settings model e).2 = false) :
    IsNormal settings.dateOrder (build settings model e).1 :=
  (invariant_isNormal settings model).build e (fun _ _ => trivial) (fun _ _ => trivial) hmessages

/-- Casts are no lists. -/
lemma mem_of_mem_prepare {kind : FunctionKind} {args elements : List Node} {node : Node}
    (hnode : node ∈ kind.prepare args) (h : Rewriting.elements? node = some elements) : node ∈ args :=
  forall_mem_prepare (P := fun arg => Rewriting.elements? arg = some elements → arg ∈ args)
    (fun _ _ hn => by cases hn) kind (fun _ harg _ => harg) node hnode h

/-- Where a call is lowered to a list, that list is the node of an operand or argument. -/
lemma exists_child_of_elements? {e : Expr} {kind : FunctionKind} {f : Expr → Node} {order : DateOrder}
    (hargs : ∀ arg ∈ e.children.map f, IsNormal order arg) {elements : List Node}
    (h : Rewriting.elements? ((Node.call kind (kind.prepare (e.children.map f))).lowerRoot order) =
      some elements) :
    ∃ child ∈ e.children,
      f child = (Node.call kind (kind.prepare (e.children.map f))).lowerRoot order :=
  List.mem_map.mp
    (mem_of_mem_prepare (mem_of_elements?_lowerRoot (isNormal_prepare kind hargs) h) h)

namespace IsTranslation

variable (h : IsTranslation settings model Q)

include h

lemma ofCall {e : Expr} {name : String} {item : Except Catalog.Unavailable FunctionItem}
    (hname : e.callName = some name) (hitem : ∀ found, item = .ok found → Resolves settings model name found)
    (ih : ∀ child ∈ e.children, Q child (build settings model child).1)
    (hchildren : ∀ child ∈ e.children, Message.hasErrors (build settings model child).2 = false)
    (hmessages : Message.hasErrors (Construction.ofCall settings name item
      (e.children.map fun child => (build settings model child).1)).2 = false) :
    Q e (Construction.ofCall settings name item
      (e.children.map fun child => (build settings model child).1)).1 := by
  obtain ⟨found, rfl⟩ := exists_item_of_hasErrors hmessages
  rw [ofCall_node (hasErrors_ofCall_iff.mp hmessages)]
  exact h.call e name found _ hname (hitem found rfl) ih
    (List.forall_mem_map.mpr fun child hchild => isNormal_build (hchildren child hchild))

/-- The relation holds between an expression and the node that is built of it without an error. -/
theorem build (e : Expr) (hmessages : Message.hasErrors (Construction.build settings model e).2 = false) :
    Q e (Construction.build settings model e).1 := by
  induction e using Expr.induction_of_children with
  | number spelling =>
    rw [Construction.build, ofSpelling]
    split
    · exact h.const _ _
    · exact h.const _ .null
  | string value => exact h.const _ _
  | boolean value => exact h.const _ _
  | null => exact h.const _ .null
  | field reference => exact h.field _ reference
  | call e name hname ih =>
    rw [build_eq_buildCall hname] at hmessages ⊢
    obtain ⟨hchildren, hcall⟩ := hasErrors_buildCall.mp hmessages
    exact h.ofCall hname (fun _ hitem => resolves_calledItem hname hitem)
      (fun child hchild => ih child hchild (hchildren child hchild)) hchildren hcall
  | list items ih =>
    rw [build_list] at hmessages ⊢
    have hitems := (hasErrors_buildAll items).mp hmessages
    exact h.list items _ fun item hitem => ih item hitem (hitems item hitem)

end IsTranslation

/-- At the root, at most two casts are added. -/
lemma measure_checkRoot_le {m : Node → Nat} (hm : IsMonotone m)
    (hcast : ∀ kind arg, m (.call kind [arg]) ≤ m arg + 1) (order : DateOrder) (root : Node) :
    m (checkRoot order root).1 ≤ m root + 2 := by
  have hint : m ((Node.call .int [root]).lowerRoot order) ≤ m root + 1 :=
    Nat.le_trans (hm.lowerRoot_le_of_none rfl) (hcast .int root)
  exact checkRoot_of_casts (P := fun node => m node ≤ m root + 2) (Nat.le_add_right ..)
    (Nat.le_trans hint (Nat.le_succ _))
    fun _ => Nat.le_trans (hcast .float _) (Nat.succ_le_succ hint)

end Construction

end OlapFormula
