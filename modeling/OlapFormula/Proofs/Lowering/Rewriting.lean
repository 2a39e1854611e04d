import Mathlib.Data.List.Basic
import OlapFormula.Rewriting

/-!
# What calls are rewritten to

One case for each rewriting: what the call looks like, and what it stands for.
-/

namespace OlapFormula.Node

open Rewriting

variable {order : DateOrder} {kind : FunctionKind} {args : List Node} {rewritten : Node}

/-- The call stands for the node. -/
inductive RewritesTo (order : DateOrder) : FunctionKind → List Node → Node → Prop
  | isIn {subject list : Node} {elements : List Node} : elements? list = some elements →
    RewritesTo order .isIn [subject, list] (ofMembership false subject elements)
  | notIn {subject list : Node} {elements : List Node} : elements? list = some elements →
    RewritesTo order .notIn [subject, list] (ofMembership true subject elements)
  | key {kind : FunctionKind} {ref : DimensionRef} {value : String} {key : List Char} :
    kind.isComparison → memberKey? order value.toList = some key →
    RewritesTo order kind [.dimension ref, .string value]
      (.call kind [.dimension ref, .string (String.ofList key)])
  | difference (a b : Node) (units : List Node) (granularity : Granularity) :
    RewritesTo order .dateDiffHana (a :: b :: units) (.call (differenceKind granularity) [a, b])
  | days (a b : Node) : RewritesTo order .dateDiffBw [a, b] (.call .daysBetween [a, b])
  | restrict {base : Node} {filters : List Node} {derived : RestrictedMeasure} :
    RestrictedMeasure.ofArgs? base filters = some derived →
    RewritesTo order .restrict (base :: filters) (.restricted derived)
  | subtotal {base : Node} {axes : List Node} {ids : List Literal} : dimensionIds? axes = some ids →
    RewritesTo order .subtotal (base :: axes) (.call .subtotalByIds [base, .constList ids])
  | shareOfGrandTotal (base : Node) (rest : List Node) :
    RewritesTo order .percentOfGrandTotal (base :: rest)
      (.call .divide [base, .call .grandTotal [base]])
  | shareOfSubtotal {base : Node} {axes : List Node} {ids : List Literal} :
    dimensionIds? axes = some ids →
    RewritesTo order .percentOfSubtotal (base :: axes)
      (.call .divide [base, .call .subtotalByIds [base, .constList ids]])

lemma memberComparison?_eq_some
    (h : memberComparison? order kind args = some rewritten) :
    ∃ ref value key, args = [.dimension ref, .const (.string value)] ∧
      memberKey? order value.toList = some key ∧
      rewritten = .call kind [.dimension ref, .string (String.ofList key)] := by
  unfold memberComparison? at h
  split at h
  · split at h
    · obtain ⟨key, hkey, rfl⟩ := Option.map_eq_some_iff.mp h
      exact ⟨_, _, key, rfl, hkey, rfl⟩
    · simp at h
  · simp at h

lemma membership?_eq_some {excluded : Bool} (h : membership? excluded args = some rewritten) :
    ∃ subject list elements, args = [subject, list] ∧ elements? list = some elements ∧
      rewritten = ofMembership excluded subject elements := by
  unfold membership? at h
  split at h
  · next subject list =>
    obtain ⟨elements, helements, rfl⟩ := Option.map_eq_some_iff.mp h
    exact ⟨subject, list, elements, rfl, helements, rfl⟩
  · cases h

/-- There are no other rewritings. -/
theorem rewritesTo_of_rewrite? (h : (Node.call kind args).rewrite? order = some rewritten) :
    RewritesTo order kind args rewritten := by
  unfold rewrite? at h
  dsimp only at h
  split at h
  case h_1 =>
    obtain ⟨_, _, _, rfl, helements, rfl⟩ := membership?_eq_some h
    exact .isIn helements
  case h_2 =>
    obtain ⟨_, _, _, rfl, helements, rfl⟩ := membership?_eq_some h
    exact .notIn helements
  case h_9 =>
    unfold dateDifference? at h
    split at h
    · cases h
      exact .difference _ _ [] .day
    · obtain ⟨granularity, -, rfl⟩ := Option.map_eq_some_iff.mp h
      exact .difference _ _ _ granularity
    · cases h
  case h_10 =>
    cases h
    exact .days _ _
  case h_11 =>
    obtain ⟨derived, hderived, rfl⟩ := Option.map_eq_some_iff.mp h
    exact .restrict hderived
  case h_12 =>
    obtain ⟨ids, hids, rfl⟩ := Option.map_eq_some_iff.mp h
    exact .subtotal hids
  case h_13 =>
    cases h
    exact .shareOfGrandTotal _ _
  case h_14 =>
    obtain ⟨total, htotal, rfl⟩ := Option.map_eq_some_iff.mp h
    obtain ⟨ids, hids, rfl⟩ := Option.map_eq_some_iff.mp htotal
    exact .shareOfSubtotal hids
  case h_15 => cases h
  all_goals
    obtain ⟨_, _, _, rfl, hkey, rfl⟩ := memberComparison?_eq_some h
    exact .key rfl hkey

end OlapFormula.Node
