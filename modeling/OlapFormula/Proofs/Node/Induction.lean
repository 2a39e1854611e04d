import Mathlib.Data.List.Basic
import OlapFormula.Node.Printer
import OlapFormula.Node.Typing

/-!
# Induction on nodes

Nodes hold lists of nodes. The induction principle gives a property of a call or a list from the
property of everything in it, and `Everywhere` says that a property holds at every node of a tree.
-/

namespace OlapFormula.Node

@[elab_as_elim]
theorem induction {P : Node → Prop} (const : ∀ value, P (.const value))
    (constList : ∀ values, P (.constList values)) (dimension : ∀ ref, P (.dimension ref))
    (measure : ∀ ref, P (.measure ref))
    (call : ∀ kind args, (∀ arg ∈ args, P arg) → P (.call kind args))
    (array : ∀ items, (∀ item ∈ items, P item) → P (.array items))
    (restricted : ∀ derived, P (.restricted derived)) (node : Node) : P node := by
  refine @Node.rec P (fun nodes => ∀ n ∈ nodes, P n) const constList dimension measure call array
    restricted ?_ ?_ node
  · simp
  · intro head tail hhead htail n hn
    rcases List.mem_cons.mp hn with rfl | hn
    · exact hhead
    · exact htail n hn

lemma preorders_eq_flatMap (nodes : List Node) : preorders nodes = nodes.flatMap preorder := by
  induction nodes with
  | nil => rfl
  | cons node nodes ih => simp [preorders, ih]

lemma operands_eq_map (nodes : List Node) :
    operands nodes = nodes.map fun node => ⟨node.precedence, node.text⟩ := by
  induction nodes with
  | nil => rfl
  | cons node nodes ih => simp [operands, ih]

lemma types_eq_map (nodes : List Node) : types nodes = nodes.map type := by
  induction nodes with
  | nil => rfl
  | cons node nodes ih => simp [types, ih]

lemma eq_map_const_of_literals? {nodes : List Node} {values : List Literal}
    (h : literals? nodes = some values) : nodes = values.map .const := by
  induction nodes generalizing values with
  | nil =>
    cases h
    rfl
  | cons node nodes ih =>
    simp only [literals?, Option.bind_eq_bind, Option.bind_eq_some_iff, Option.pure_def,
      Option.some.injEq] at h
    obtain ⟨value, hvalue, rest, hrest, rfl⟩ := h
    rw [ih hrest, List.map_cons]
    cases node <;> cases hvalue
    rfl

/-- The property holds at the node and everywhere below it. -/
def Everywhere (P : Node → Prop) (node : Node) : Prop := ∀ n ∈ node.preorder, P n

variable {P Q : Node → Prop}

lemma everywhere_of_preorder {node : Node} {children : List Node}
    (h : node.preorder = node :: preorders children) :
    Everywhere P node ↔ P node ∧ ∀ child ∈ children, Everywhere P child := by
  unfold Everywhere
  rw [h, preorders_eq_flatMap]
  constructor
  · intro hall
    refine ⟨hall node (List.mem_cons_self ..), fun child hchild n hn => hall n ?_⟩
    exact List.mem_cons_of_mem node (List.mem_flatMap.mpr ⟨child, hchild, hn⟩)
  · rintro ⟨hnode, hchildren⟩ n hn
    rcases List.mem_cons.mp hn with rfl | hn
    · exact hnode
    · obtain ⟨child, hchild, hn⟩ := List.mem_flatMap.mp hn
      exact hchildren child hchild n hn

lemma everywhere_call {kind : FunctionKind} {args : List Node} :
    Everywhere P (.call kind args) ↔ P (.call kind args) ∧ ∀ arg ∈ args, Everywhere P arg :=
  everywhere_of_preorder rfl

lemma everywhere_array {items : List Node} :
    Everywhere P (.array items) ↔ P (.array items) ∧ ∀ item ∈ items, Everywhere P item :=
  everywhere_of_preorder rfl

lemma everywhere_of_leaf {node : Node} (h : node.preorder = [node]) : Everywhere P node ↔ P node := by
  unfold Everywhere
  rw [h]
  exact List.forall_mem_singleton

lemma everywhere_const {value : Literal} : Everywhere P (.const value) ↔ P (.const value) :=
  everywhere_of_leaf rfl

lemma everywhere_constList {values : List Literal} :
    Everywhere P (.constList values) ↔ P (.constList values) :=
  everywhere_of_leaf rfl

lemma everywhere_dimension {ref : DimensionRef} :
    Everywhere P (.dimension ref) ↔ P (.dimension ref) :=
  everywhere_of_leaf rfl

lemma everywhere_measure {ref : MeasureRef} : Everywhere P (.measure ref) ↔ P (.measure ref) :=
  everywhere_of_leaf rfl

lemma everywhere_restricted {derived : RestrictedMeasure} :
    Everywhere P (.restricted derived) ↔ P (.restricted derived) :=
  everywhere_of_leaf rfl

lemma mem_preorder_self (node : Node) : node ∈ node.preorder := by
  cases node <;> exact List.mem_cons_self ..

lemma Everywhere.here {node : Node} (h : Everywhere P node) : P node := h node (mem_preorder_self node)

/-- What holds everywhere in a tree holds everywhere in its subtrees. -/
lemma Everywhere.of_mem {node n : Node} (h : Everywhere P node) (hn : n ∈ node.preorder) :
    Everywhere P n := by
  have hchildren {parent : Node} {children : List Node}
      (hparent : parent.preorder = parent :: preorders children)
      (ih : ∀ child ∈ children, Everywhere P child → n ∈ child.preorder → Everywhere P n)
      (hall : Everywhere P parent) (hmem : n ∈ parent.preorder) : Everywhere P n := by
    have hsplit := hmem
    rw [hparent, preorders_eq_flatMap] at hsplit
    rcases List.mem_cons.mp hsplit with rfl | hbelow
    · exact hall
    · obtain ⟨child, hchild, hin⟩ := List.mem_flatMap.mp hbelow
      exact ih child hchild ((everywhere_of_preorder hparent).mp hall |>.2 child hchild) hin
  induction node using Node.induction with
  | call kind args ih => exact hchildren rfl ih h hn
  | array items ih => exact hchildren rfl ih h hn
  | const _ | constList _ | dimension _ | measure _ | restricted _ =>
    obtain rfl := List.mem_singleton.mp hn
    exact h

lemma Everywhere.imp {node : Node} (h : Everywhere P node) (hPQ : ∀ n, P n → Q n) :
    Everywhere Q node :=
  fun n hn => hPQ n (h n hn)

end OlapFormula.Node
