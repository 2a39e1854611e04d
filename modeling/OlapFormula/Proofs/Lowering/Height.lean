import OlapFormula.Proofs.Checks.Surface
import OlapFormula.Proofs.Lowering.Measures
import OlapFormula.Proofs.Node.Height

/-!
# How high lowering makes a call

Most calls are lowered to something that is not higher. The calls that only formula text has become at most
one level higher, and membership becomes a chain with one level for each element of the list.
-/

namespace OlapFormula

open Node
open OlapFormula.Expr (deepest)

namespace Node

lemma isMonotone_height : IsMonotone height where
  const value kind args hargs := by
    obtain ⟨arg, harg⟩ := List.exists_mem_of_ne_nil args hargs
    have hvalue := height_const_le value
    have hlt : arg.height < (call kind args).height := height_lt_of_mem harg
    have hpos := arg.height_pos
    omega
  arg kind args arg harg := (height_lt_of_mem harg).le
  map kind args f h := by
    rw [height_call, height_call, List.map_map]
    refine Nat.add_le_add_left (Expr.deepest_le (List.forall_mem_map.mpr fun arg harg => ?_)) 1
    exact (h arg harg).trans (Expr.le_deepest (List.mem_map_of_mem harg))
  key kind ref value key := by
    rw [height_call_pair, height_call_pair]
    exact le_rfl

end Node

namespace Rewriting

lemma height_of_elements? {list : Node} {elements : List Node} (h : elements? list = some elements) :
    list.height = 1 + deepest (elements.map height) := by
  unfold elements? at h
  split at h
  · cases h
    rw [height_constList, List.map_map]
    rfl
  · cases h
    exact height_array _
  · cases h

lemma height_joinRight_le (join : FunctionKind) {first : Node} {rest : List Node} {bound : Nat}
    (h : ∀ node ∈ first :: rest, node.height ≤ bound) :
    (joinRight join first rest).height ≤ bound + rest.length := by
  induction rest generalizing first with
  | nil => exact h first (List.mem_cons_self ..)
  | cons second rest ih =>
    rw [List.forall_mem_cons] at h
    have hfirst := h.1
    have hrest := ih h.2
    rw [joinRight, height_call_pair, List.length_cons]
    omega

lemma height_ofMembership_le (excluded : Bool) (subject : Node) (elements : List Node) :
    (ofMembership excluded subject elements).height ≤
      elements.length + max subject.height (deepest (elements.map height) + 1) := by
  have hcomparison (comparison : FunctionKind) :
      ∀ node ∈ elements.map fun element => Node.call comparison [subject, element],
        node.height ≤ 1 + max subject.height (deepest (elements.map height)) := by
    refine List.forall_mem_map.mpr fun element helement => ?_
    have hle : element.height ≤ deepest (elements.map height) :=
      Expr.le_deepest (List.mem_map_of_mem helement)
    rw [height_call_pair]
    omega
  unfold ofMembership
  dsimp only
  split
  · have hpos := subject.height_pos
    change 1 ≤ _
    omega
  · next first rest heq =>
    have hlength : elements.length = rest.length + 1 := by
      simpa using congrArg List.length heq
    have hjoin := height_joinRight_le (if excluded then .and else .or) (heq ▸ hcomparison _)
    omega

lemma height_constList_le (values : List Literal) : (constList values).height ≤ 3 := by
  have hvalues := Literal.maxHeight_expr_le values
  change 1 + Expr.maxHeight (values.map Literal.expr) ≤ 3
  omega

end Rewriting

variable {order : DateOrder} {kind : FunctionKind} {args : List Node} {rewritten : Node}

/-- What is neither a membership nor a call that only formula text has becomes no higher. -/
lemma Node.height_rewrite?_le (hsurface : kind.isSurface = false) (hmember : kind.isMembership = false)
    (h : (Node.call kind args).rewrite? order = some rewritten) :
    rewritten.height ≤ (Node.call kind args).height := by
  cases rewritesTo_of_rewrite? h with
  | isIn | notIn => cases hmember
  | difference | days | restrict | subtotal | shareOfGrandTotal | shareOfSubtotal => cases hsurface
  | key =>
    rw [height_call_pair, height_call_pair]
    exact le_rfl

lemma Node.height_rewrite?_surface_le (hsurface : kind.isSurface = true)
    (h : (Node.call kind args).rewrite? order = some rewritten) :
    rewritten.height ≤ max ((Node.call kind args).height + 1) 5 := by
  cases rewritesTo_of_rewrite? h with
  | isIn | notIn => cases hsurface
  | key hcomparison => simp [FunctionKind.not_surface_of_isComparison hcomparison] at hsurface
  | difference =>
    rw [height_call_pair, height_call_cons, List.map_cons, Expr.deepest_cons]
    omega
  | days =>
    rw [height_call, height_call]
    omega
  | @restrict _ _ derived => exact derived.height_expr_le.trans (le_max_right ..)
  | @subtotal _ _ ids =>
    have hids := Rewriting.height_constList_le ids
    rw [height_call_pair, height_call_cons]
    omega
  | shareOfGrandTotal =>
    rw [height_call_pair, height_call_single, height_call_cons]
    omega
  | @shareOfSubtotal _ _ ids =>
    have hids := Rewriting.height_constList_le ids
    rw [height_call_pair, height_call_pair, height_call_cons]
    omega

lemma Node.height_rewrite?_membership_le (hmember : kind.isMembership = true)
    (h : (Node.call kind args).rewrite? order = some rewritten) :
    ∃ subject list elements, args = [subject, list] ∧ Rewriting.elements? list = some elements ∧
      rewritten.height ≤ elements.length + max subject.height list.height := by
  obtain ⟨excluded, subject, list, elements, rfl, helements, rfl⟩ := rewrite?_membership_eq_some hmember h
  refine ⟨subject, list, elements, rfl, helements, ?_⟩
  rw [Rewriting.height_of_elements? helements, Nat.add_comm 1]
  exact Rewriting.height_ofMembership_le excluded subject elements

namespace Node

lemma height_castInteger_le (node : Node) : node.castInteger.height ≤ max node.height 3 := by
  unfold castInteger
  split
  · next value =>
    have hvalue := height_const_le (.number value)
    split
    · rw [height_call_single]
      omega
    · exact le_max_left ..
  · exact le_max_left ..

/-- Two operands that are cast are not high, or they were as high before. -/
lemma height_castIntegers_le (kind : FunctionKind) (args : List Node) :
    (call kind (castIntegers args)).height ≤ (call kind args).height ∨
      args.length = 2 ∧ (call kind (castIntegers args)).height ≤ max (call kind args).height 4 := by
  unfold castIntegers
  split
  · next htwo =>
    refine Or.inr ⟨by simp_all, ?_⟩
    have hcast : deepest ((args.map castInteger).map height) ≤ max (deepest (args.map height)) 3 := by
      rw [List.map_map]
      refine Expr.deepest_le (List.forall_mem_map.mpr fun arg harg => ?_)
      have hcast := height_castInteger_le arg
      have hdeepest : arg.height ≤ deepest (args.map height) := Expr.le_deepest (List.mem_map_of_mem harg)
      exact hcast.trans (by omega)
    rw [height_call, height_call]
    omega
  · exact Or.inl le_rfl

lemma height_lowerRoot_le_of_none (h : (Node.call kind args).rewrite? order = none) :
    (lowerRoot order (.call kind args)).height ≤ (call kind args).height :=
  isMonotone_height.lowerRoot_le_of_none h

/-- Most calls do not become higher, unless operands are cast. -/
theorem height_lowerRoot_le (hargs : ∀ arg ∈ kind.prepare args, IsNormal order arg)
    (hsurface : kind.isSurface = false) (hmember : kind.isMembership = false) :
    (lowerRoot order (.call kind (kind.prepare args))).height ≤ (call kind args).height ∨
      args.length = 2 ∧
        (lowerRoot order (.call kind (kind.prepare args))).height ≤ max (call kind args).height 4 := by
  rcases kind.prepare_eq_or args with hprepare | ⟨hprepare, hprimitive⟩
  · rw [hprepare] at hargs ⊢
    refine Or.inl ?_
    cases hrewrite : (Node.call kind args).rewrite? order with
    | none => exact height_lowerRoot_le_of_none hrewrite
    | some rewritten =>
      exact (isMonotone_height.lowerRoot_le_of_some hargs hrewrite).trans
        (height_rewrite?_le hsurface hmember hrewrite)
  · rw [hprepare]
    have hlowered : (lowerRoot order (.call kind (castIntegers args))).height ≤
        (call kind (castIntegers args)).height := height_lowerRoot_le_of_none (hprimitive order _)
    rcases height_castIntegers_le kind args with hsame | ⟨htwo, hcast⟩
    · exact Or.inl (hlowered.trans hsame)
    · exact Or.inr ⟨htwo, hlowered.trans hcast⟩

/-- A call that only formula text has becomes at most one level higher, or stays low. -/
theorem height_lowerRoot_surface_le (hargs : ∀ arg ∈ args, IsNormal order arg)
    (hsurface : kind.isSurface = true) :
    (lowerRoot order (.call kind args)).height ≤ (call kind args).height ∨
      args ≠ [] ∧ (lowerRoot order (.call kind args)).height ≤ max ((call kind args).height + 1) 5 := by
  cases hrewrite : (Node.call kind args).rewrite? order with
  | none => exact Or.inl (height_lowerRoot_le_of_none hrewrite)
  | some rewritten =>
    refine Or.inr ⟨?_, (isMonotone_height.lowerRoot_le_of_some hargs hrewrite).trans
      (height_rewrite?_surface_le hsurface hrewrite)⟩
    rintro rfl
    rw [rewrite?_nil] at hrewrite
    cases hrewrite

/-- Membership has a level for each element of the list. -/
theorem height_lowerRoot_membership_le (hargs : ∀ arg ∈ args, IsNormal order arg)
    (hmember : kind.isMembership = true) :
    (lowerRoot order (.call kind args)).height ≤ (call kind args).height ∨
      ∃ subject list elements, args = [subject, list] ∧ Rewriting.elements? list = some elements ∧
        (lowerRoot order (.call kind args)).height ≤
          elements.length + max subject.height list.height := by
  cases hrewrite : (Node.call kind args).rewrite? order with
  | none => exact Or.inl (height_lowerRoot_le_of_none hrewrite)
  | some rewritten =>
    obtain ⟨subject, list, elements, hsplit, helements, hle⟩ :=
      height_rewrite?_membership_le hmember hrewrite
    exact Or.inr ⟨subject, list, elements, hsplit, helements,
      (isMonotone_height.lowerRoot_le_of_some hargs hrewrite).trans hle⟩

end Node

end OlapFormula
