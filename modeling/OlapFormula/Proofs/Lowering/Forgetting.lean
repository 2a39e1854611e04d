import OlapFormula.Proofs.Lowering.Normal
import OlapFormula.Proofs.Node.Forgetting

/-!
# Lowering without a measure

Lowering looks at constants, dimensions and calls, never at what measures are. So it does not matter
whether a measure is forgotten before or after it.
-/

namespace OlapFormula

namespace Node

variable (m : Measure)

lemma elements?_forget (node : Node) :
    Rewriting.elements? (forget m node) = (Rewriting.elements? node).map (List.map (forget m)) := by
  cases node with
  | constList values => simp [Rewriting.elements?, Function.comp_def]
  | const _ | dimension _ | measure _ | restricted _ | array _ | call _ _ => simp [Rewriting.elements?]

lemma joinRight_forget (join : FunctionKind) (first : Node) (rest : List Node) :
    forget m (Rewriting.joinRight join first rest) =
      Rewriting.joinRight join (forget m first) (rest.map (forget m)) := by
  induction rest generalizing first with
  | nil => rfl
  | cons second rest ih => simp [Rewriting.joinRight, ih]

lemma ofMembership_forget (excluded : Bool) (subject : Node) (elements : List Node) :
    forget m (Rewriting.ofMembership excluded subject elements) =
      Rewriting.ofMembership excluded (forget m subject) (elements.map (forget m)) := by
  cases elements with
  | nil => rfl
  | cons first rest => simp [Rewriting.ofMembership, joinRight_forget, Function.comp_def]

lemma membership?_forget (excluded : Bool) (args : List Node) :
    Rewriting.membership? excluded (args.map (forget m)) =
      (Rewriting.membership? excluded args).map (forget m) := by
  match args with
  | [] | [_] | _ :: _ :: _ :: _ => rfl
  | [subject, list] =>
    simp only [List.map_cons, List.map_nil, Rewriting.membership?, elements?_forget, Option.map_map,
      Function.comp_def, ofMembership_forget]

lemma memberComparison?_forget (order : DateOrder) (kind : FunctionKind) (args : List Node) :
    Rewriting.memberComparison? order kind (args.map (forget m)) =
      (Rewriting.memberComparison? order kind args).map (forget m) := by
  have hnone {args : List Node} (h : ∀ ref value, args ≠ [.dimension ref, .const (.string value)]) :
      Rewriting.memberComparison? order kind args = none := by
    unfold Rewriting.memberComparison?
    split
    · exact absurd rfl (h _ _)
    · rfl
  by_cases hpair : ∃ ref value, args = [.dimension ref, .const (.string value)]
  · obtain ⟨ref, value, rfl⟩ := hpair
    simp only [List.map_cons, List.map_nil, forget_dimension, forget_const, Rewriting.memberComparison?]
    split
    · cases memberKey? order value.toList <;> simp [Node.string]
    · rfl
  · rw [hnone fun ref value h => hpair ⟨ref, value, h⟩]
    exact hnone fun ref value h => hpair ⟨ref, value, (map_forget_eq_pair_iff m).mp h⟩

lemma dateDifference?_forget (args : List Node) :
    Rewriting.dateDifference? (args.map (forget m)) =
      (Rewriting.dateDifference? args).map (forget m) := by
  have hnone {a b unit : Node} (h : ∀ text, unit ≠ .const (.string text)) :
      Rewriting.dateDifference? [a, b, unit] = none := by
    unfold Rewriting.dateDifference?
    split
    · next hargs => cases hargs
    · next hargs =>
      cases hargs
      exact absurd rfl (h _)
    · rfl
  match args with
  | [] | [_] => rfl
  | [_, _] | _ :: _ :: _ :: _ :: _ => simp [Rewriting.dateDifference?]
  | [a, b, unit] =>
    by_cases hunit : ∃ text, unit = .const (.string text)
    · obtain ⟨text, rfl⟩ := hunit
      simp [Rewriting.dateDifference?, Function.comp_def]
    · rw [hnone fun text h => hunit ⟨text, h⟩]
      exact hnone fun text h => hunit ⟨text, (forget_eq_const_iff m).mp h⟩

lemma dimensionIds?_forget (nodes : List Node) :
    Rewriting.dimensionIds? (nodes.map (forget m)) = Rewriting.dimensionIds? nodes := by
  induction nodes with
  | nil => rfl
  | cons node nodes ih => cases node <;> simp [Rewriting.dimensionIds?, ih]

lemma subtotal?_forget (measure : Node) (axes : List Node) :
    Rewriting.subtotal? (forget m measure) (axes.map (forget m)) =
      (Rewriting.subtotal? measure axes).map (forget m) := by
  rw [Rewriting.subtotal?, Rewriting.subtotal?, dimensionIds?_forget, Option.map_map]
  simp [Function.comp_def]

theorem rewrite?_forget (order : DateOrder) (node : Node) :
    (forget m node).rewrite? order = (node.rewrite? order).map (forget m) := by
  cases node with
  | call kind args =>
    rw [forget_call]
    cases kind with
    | isIn => exact membership?_forget m false args
    | notIn => exact membership?_forget m true args
    | equal | notEqual | less | lessEqual | greater | greaterEqual =>
      exact memberComparison?_forget m order _ args
    | dateDiffHana => exact dateDifference?_forget m args
    | dateDiffBw =>
      match args with
      | [] | [_] | _ :: _ :: _ :: _ => rfl
      | [a, b] => simp [rewrite?]
    | restrict =>
      cases args with
      | nil => rfl
      | cons base filters =>
        simp [rewrite?, ofArgs?_forget, Function.comp_def]
    | subtotal =>
      cases args with
      | nil => rfl
      | cons base axes => exact subtotal?_forget m base axes
    | percentOfGrandTotal =>
      cases args with
      | nil => rfl
      | cons base _ => simp [rewrite?]
    | percentOfSubtotal =>
      cases args with
      | nil => rfl
      | cons base axes =>
        simp [rewrite?, subtotal?_forget, Function.comp_def]
    | _ => rfl
  | const _ | constList _ | dimension _ | measure _ | array _ | restricted _ => simp [rewrite?]

lemma ofIf_forget (condition : Bool) (value : Node) (otherwise : List Node) :
    forget m (Folding.ofIf condition value otherwise) =
      Folding.ofIf condition (forget m value) (otherwise.map (forget m)) := by
  cases condition with
  | true => rfl
  | false => cases otherwise <;> rfl

/-- The arguments begin with a condition that is known. -/
def StartsDecided (args : List Node) : Prop :=
  ∃ condition value otherwise, args = .const (.boolean condition) :: value :: otherwise

lemma startsDecided_forget {args : List Node} : StartsDecided (args.map (forget m)) ↔ StartsDecided args := by
  unfold StartsDecided
  match args with
  | [] | [_] => simp
  | condition :: value :: otherwise => simp [forget_eq_const_iff]

/-- Among arguments that are not all constants only a condition and a single one are looked at. -/
lemma fold?_eq_none {order : DateOrder} {kind : FunctionKind} {args : List Node}
    (h : literals? args = none) (hif : ¬(kind = .ifThen ∧ StartsDecided args))
    (hnull : ¬(kind = .isNullHana ∧ args.length = 1)) : (Node.call kind args).fold? order = none := by
  unfold fold?
  dsimp only
  split
  · exact absurd ⟨rfl, _, _, _, rfl⟩ hif
  · exact absurd ⟨rfl, rfl⟩ hnull
  · cases h
  · cases h
  · cases h
  · rfl
  · rw [h]
    rfl

lemma ofIsNull_forget (node : Node) :
    Folding.ofIsNull (forget m node) = (Folding.ofIsNull node).map (forget m) := by
  cases node <;> simp [Folding.ofIsNull, Node.boolean]

theorem fold?_forget (order : DateOrder) (node : Node) :
    (forget m node).fold? order = (node.fold? order).map (forget m) := by
  cases node with
  | call kind args =>
    rw [forget_call]
    cases hliterals : literals? args with
    | some values =>
      have hargs := eq_map_const_of_literals? hliterals
      have hsame : args.map (forget m) = args := by simp [hargs, Function.comp_def]
      rw [hsame]
      cases hfold : (Node.call kind args).fold? order with
      | none => rfl
      | some value =>
        rcases fold?_eq_some hfold with ⟨c, rfl⟩ | hmem
        · rfl
        · rw [hargs] at hmem
          obtain ⟨c, -, rfl⟩ := List.mem_map.mp hmem
          rfl
    | none =>
      by_cases hif : kind = .ifThen ∧ StartsDecided args
      · obtain ⟨rfl, condition, value, otherwise, rfl⟩ := hif
        simp [fold?, ofIf_forget]
      · by_cases hnull : kind = .isNullHana ∧ args.length = 1
        · obtain ⟨rfl, hlength⟩ := hnull
          obtain ⟨value, rfl⟩ := List.length_eq_one_iff.mp hlength
          exact ofIsNull_forget m value
        · rw [fold?_eq_none hliterals hif hnull, fold?_eq_none]
          · rfl
          · rw [literals?_forget, hliterals]
          · rwa [startsDecided_forget]
          · rwa [List.length_map]
  | const _ | constList _ | dimension _ | measure _ | array _ | restricted _ => simp [fold?]

lemma folded_forget (order : DateOrder) (node : Node) :
    folded order (forget m node) = forget m (folded order node) := by
  rw [folded, fold?_forget, folded]
  cases node.fold? order <;> rfl

lemma bottomUp_forget {finish : Node → Node}
    (hfinish : ∀ node, finish (forget m node) = forget m (finish node))
    (node : Node) : bottomUp finish (forget m node) = forget m (bottomUp finish node) := by
  have hall {nodes : List Node}
      (ih : ∀ n ∈ nodes, bottomUp finish (forget m n) = forget m (bottomUp finish n)) :
      (nodes.map (forget m)).map (bottomUp finish) = (nodes.map (bottomUp finish)).map (forget m) := by
    rw [List.map_map, List.map_map]
    exact List.map_congr_left ih
  induction node using Node.induction with
  | const value => exact hfinish (.const value)
  | constList values => exact hfinish (.constList values)
  | dimension ref => exact hfinish (.dimension ref)
  | measure ref => exact hfinish (.measure ref)
  | restricted r => exact hfinish (.restricted r)
  | call kind args ih =>
    rw [forget_call, bottomUp, bottomUp, bottomUps_eq_map, bottomUps_eq_map, hall ih, ← forget_call, hfinish]
  | array items ih =>
    rw [forget_array, bottomUp, bottomUp, bottomUps_eq_map, bottomUps_eq_map, hall ih, ← forget_list, hfinish]

lemma lowerWithin_forget (order : DateOrder) (budget : Nat) (node : Node) :
    lowerWithin order budget (forget m node) = forget m (lowerWithin order budget node) := by
  induction budget generalizing node with
  | zero => exact folded_forget m order node
  | succ budget ih =>
    rw [lowerWithin, rewrite?_forget, lowerWithin]
    cases node.rewrite? order with
    | none => exact folded_forget m order node
    | some rewritten => exact bottomUp_forget m ih rewritten

/-- What a node is lowered to does not depend on what is known of the measure. -/
theorem lowerRoot_forget (order : DateOrder) (node : Node) :
    lowerRoot order (forget m node) = forget m (lowerRoot order node) :=
  lowerWithin_forget m order maxRewrites node

end Node

end OlapFormula
