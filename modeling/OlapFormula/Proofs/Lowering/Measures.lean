import OlapFormula.Construction
import OlapFormula.Proofs.Lowering.Normal

/-!
# Lowering and measures of nodes

Once a call is rewritten, nothing grows any more: what it is rewritten to only becomes smaller while it is
lowered, by every measure of nodes that is monotone. And lowering makes no lists: where a call is lowered to
a list, that list is one of its arguments.
-/

namespace OlapFormula

open Node

/-- Only operands of calls that are never rewritten are cast. -/
lemma FunctionKind.prepare_eq_or (kind : FunctionKind) (args : List Node) :
    kind.prepare args = args ∨ kind.prepare args = castIntegers args ∧ IsPrimitive kind := by
  cases kind <;> first | exact Or.inl rfl | exact Or.inr ⟨rfl, fun _ _ => rfl⟩

namespace Node

variable {order : DateOrder} {m : Node → Nat}

/-- A call measures as much as each of its arguments and as a constant, and does not measure more if its
arguments measure less or if a member in it becomes a key. -/
structure IsMonotone (m : Node → Nat) : Prop where
  const : ∀ value kind {args}, args ≠ [] → m (.const value) ≤ m (.call kind args)
  arg : ∀ kind {args arg}, arg ∈ args → m arg ≤ m (.call kind args)
  map : ∀ kind {args f}, (∀ arg ∈ args, m (f arg) ≤ m arg) →
    m (.call kind (args.map f)) ≤ m (.call kind args)
  key : ∀ kind ref value key,
    m (.call kind [.dimension ref, .string key]) ≤ m (.call kind [.dimension ref, .string value])

lemma fold?_nil (order : DateOrder) (kind : FunctionKind) : (Node.call kind []).fold? order = none := by
  cases kind <;> rfl

namespace IsMonotone

variable (hm : IsMonotone m)

include hm

lemma folded_le (kind : FunctionKind) (args : List Node) :
    m (folded order (.call kind args)) ≤ m (.call kind args) := by
  unfold folded
  cases hfold : (Node.call kind args).fold? order with
  | none => exact Nat.le_refl _
  | some value =>
    rcases fold?_eq_some hfold with ⟨c, rfl⟩ | hmem
    · refine hm.const c kind ?_
      rintro rfl
      rw [fold?_nil] at hfold
      cases hfold
    · exact hm.arg kind hmem

lemma lowerWithin_comparison_le {kind : FunctionKind} (hkind : kind.isComparison) {args : List Node}
    (budget : Nat) : m (lowerWithin order budget (.call kind args)) ≤ m (.call kind args) := by
  rcases lowerWithin_comparison_eq hkind args budget with hlowered | ⟨ref, value, key, rfl, hlowered⟩
  · rw [hlowered]
    exact hm.folded_le kind args
  · rw [hlowered]
    exact hm.key kind ref value key

/-- What rewriting makes of normal forms does not grow while it is lowered. -/
theorem bottomUp_prepared_le {C : Node → Prop} {node : Node} (h : Prepared (IsNormal order) C node)
    (budget : Nat) : m (bottomUp (lowerWithin order budget) node) ≤ m node := by
  induction h with
  | part hnode => exact Nat.le_of_eq (congrArg m (hnode.bottomUp_eq budget))
  | @call kind args hkind _ ih =>
    rw [bottomUp, lowerWithin_of_rewrite? (hkind.isPrimitive order _), bottomUps_eq_map]
    exact Nat.le_trans (hm.folded_le kind _) (hm.map kind ih)
  | comparison hkind _ hargs =>
    rw [bottomUp, bottomUps_eq_self fun arg harg => (hargs arg harg).bottomUp_eq budget]
    exact hm.lowerWithin_comparison_le hkind budget

lemma lowerRoot_le_of_none {kind : FunctionKind} {args : List Node}
    (h : (Node.call kind args).rewrite? order = none) :
    m (lowerRoot order (.call kind args)) ≤ m (.call kind args) := by
  rw [lowerRoot, lowerWithin_of_rewrite? h]
  exact hm.folded_le kind args

lemma lowerRoot_le_of_some {kind : FunctionKind} {args : List Node} {rewritten : Node}
    (hargs : ∀ arg ∈ args, IsNormal order arg)
    (h : (Node.call kind args).rewrite? order = some rewritten) :
    m (lowerRoot order (.call kind args)) ≤ m rewritten := by
  rw [lowerRoot_of_rewrite? h]
  exact hm.bottomUp_prepared_le (prepared_of_rewrite? hargs h) 15

end IsMonotone

lemma elements?_list (items : List Node) : Rewriting.elements? (list items) = some items := by
  unfold list
  split
  · next hliterals => rw [Rewriting.elements?, eq_map_const_of_literals? hliterals]
  · rfl

lemma elements?_folded {kind : FunctionKind} (hkind : kind ≠ .ifThen) (args : List Node) :
    Rewriting.elements? (folded order (.call kind args)) = none := by
  unfold folded
  cases hfold : (Node.call kind args).fold? order with
  | none => rfl
  | some value =>
    obtain ⟨c, rfl⟩ := (foldsTo_of_fold? hfold).eq_const hkind
    rfl

lemma IsMade.ne_ifThen {kind : FunctionKind} {count : Nat} (h : IsMade kind count) : kind ≠ .ifThen := by
  rintro rfl
  cases h

lemma elements?_lowerWithin_comparison {kind : FunctionKind} (hkind : kind.isComparison)
    (args : List Node) (budget : Nat) :
    Rewriting.elements? (lowerWithin order budget (.call kind args)) = none := by
  rcases lowerWithin_comparison_eq hkind args budget with hlowered | ⟨ref, value, key, rfl, hlowered⟩
  · rw [hlowered]
    exact elements?_folded (by rintro rfl; cases hkind) args
  · rw [hlowered]
    rfl

/-- What is no list is not lowered to a list. -/
lemma elements?_bottomUp_prepared {C : Node → Prop} {node : Node}
    (h : Prepared (IsNormal order) C node) (hnode : Rewriting.elements? node = none) (budget : Nat) :
    Rewriting.elements? (bottomUp (lowerWithin order budget) node) = none := by
  cases h with
  | part hnormal => rwa [hnormal.bottomUp_eq]
  | call hkind _ =>
    rw [bottomUp, lowerWithin_of_rewrite? (hkind.isPrimitive order _)]
    exact elements?_folded hkind.ne_ifThen _
  | comparison hkind _ _ => exact elements?_lowerWithin_comparison hkind _ budget

lemma elements?_ofMembership (excluded : Bool) (subject : Node) (elements : List Node) :
    Rewriting.elements? (Rewriting.ofMembership excluded subject elements) = none := by
  cases elements with
  | nil => rfl
  | cons first rest =>
    cases rest with
    | nil => rfl
    | cons second rest => rfl

lemma elements?_of_rewrite? {kind : FunctionKind} {args : List Node} {rewritten : Node}
    (h : (Node.call kind args).rewrite? order = some rewritten) :
    Rewriting.elements? rewritten = none := by
  cases rewritesTo_of_rewrite? h with
  | isIn | notIn => exact elements?_ofMembership ..
  | key | difference | days | restrict | subtotal | shareOfGrandTotal | shareOfSubtotal => rfl

/-- A list that a call is lowered to is one of the arguments. -/
theorem mem_of_elements?_lowerRoot {kind : FunctionKind} {args : List Node}
    (hargs : ∀ arg ∈ args, IsNormal order arg) {elements : List Node}
    (h : Rewriting.elements? (lowerRoot order (.call kind args)) = some elements) :
    lowerRoot order (.call kind args) ∈ args := by
  cases hrewrite : (Node.call kind args).rewrite? order with
  | some rewritten =>
    rw [lowerRoot_of_rewrite? hrewrite, elements?_bottomUp_prepared
      (prepared_of_rewrite? hargs hrewrite) (elements?_of_rewrite? hrewrite) 15] at h
    cases h
  | none =>
    rw [lowerRoot, lowerWithin_of_rewrite? hrewrite, folded] at h ⊢
    cases hfold : (Node.call kind args).fold? order with
    | none =>
      rw [hfold] at h
      cases h
    | some value =>
      rw [hfold] at h
      rcases fold?_eq_some hfold with ⟨c, rfl⟩ | hmem
      · cases h
      · exact hmem

end Node

end OlapFormula
