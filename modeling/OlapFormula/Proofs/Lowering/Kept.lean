import OlapFormula.Proofs.Lowering.Normal

/-!
# What lowering keeps

A property that holds everywhere in a call and in the comparisons that the call stands for holds everywhere
in what the call is lowered to, provided that the calls which lowering makes have it anyway.
-/

namespace OlapFormula.Node

variable {order : DateOrder} {P : Node → Prop}

/-- Constants, lists and the calls that lowering makes have the property, and a comparison with a member
does not lose it when its member becomes a key. -/
structure IsKept (P : Node → Prop) : Prop where
  const : ∀ value, P (.const value)
  constList : ∀ values, P (.constList values)
  array : ∀ items, P (.array items)
  made : ∀ {kind args}, IsMade kind args.length → P (.call kind args)
  key : ∀ {kind ref value} (key), kind.isComparison →
    P (.call kind [.dimension ref, .string value]) → P (.call kind [.dimension ref, .string key])

/-- Lowered, with the property everywhere. -/
structure IsSettledWith (order : DateOrder) (P : Node → Prop) (node : Node) : Prop where
  normal : IsNormal order node
  everywhere : Everywhere P node

namespace IsKept

variable (hP : IsKept P)

include hP

lemma everywhere_const (value : Literal) : Everywhere P (.const value) :=
  Node.everywhere_const.mpr (hP.const value)

lemma everywhere_list {items : List Node} (hitems : ∀ item ∈ items, Everywhere P item) :
    Everywhere P (list items) := by
  unfold list
  split
  · exact Node.everywhere_constList.mpr (hP.constList _)
  · exact Node.everywhere_array.mpr ⟨hP.array items, hitems⟩

lemma everywhere_made {kind : FunctionKind} {args : List Node} (hkind : IsMade kind args.length)
    (hargs : ∀ arg ∈ args, Everywhere P arg) : Everywhere P (.call kind args) :=
  Node.everywhere_call.mpr ⟨hP.made hkind, hargs⟩

lemma isPart (order : DateOrder) : IsPart (IsSettledWith order P) where
  const value := ⟨isNormal_const value, hP.everywhere_const value⟩
  constList values := ⟨isNormal_constList values, Node.everywhere_constList.mpr (hP.constList values)⟩
  items _ h item hitem :=
    ⟨(everywhere_array.mp h.normal).2 item hitem, (everywhere_array.mp h.everywhere).2 item hitem⟩

lemma everywhere_folded {kind : FunctionKind} {args : List Node} (hcall : P (.call kind args))
    (hargs : ∀ arg ∈ args, Everywhere P arg) : Everywhere P (folded order (.call kind args)) := by
  unfold folded
  cases hfold : (Node.call kind args).fold? order with
  | none => exact Node.everywhere_call.mpr ⟨hcall, hargs⟩
  | some value =>
    rcases fold?_eq_some hfold with ⟨c, rfl⟩ | hmem
    · exact hP.everywhere_const c
    · exact hargs value hmem

/-- The property is not lost when the member of a comparison becomes a key. -/
lemma of_memberComparison? {kind : FunctionKind} (hkind : kind.isComparison) {args : List Node}
    {rewritten : Node} (hcall : P (.call kind args))
    (h : Rewriting.memberComparison? order kind args = some rewritten) : P rewritten := by
  obtain ⟨ref, value, key, rfl, -, rfl⟩ := memberComparison?_eq_some h
  exact hP.key _ hkind hcall

lemma everywhere_comparison {kind : FunctionKind} (hkind : kind.isComparison) {args : List Node}
    (hcall : P (.call kind args)) (hargs : ∀ arg ∈ args, Everywhere P arg) (budget : Nat) :
    Everywhere P (lowerWithin order budget (.call kind args)) := by
  rcases lowerWithin_comparison_eq hkind args budget with hlowered | ⟨ref, value, key, rfl, hlowered⟩
  · rw [hlowered]
    exact hP.everywhere_folded hcall hargs
  · obtain ⟨hdimension, -⟩ := forall_mem_pair.mp hargs
    rw [hlowered]
    exact Node.everywhere_call.mpr
      ⟨hP.key _ hkind hcall, forall_mem_pair.mpr ⟨hdimension, hP.everywhere_const _⟩⟩

/-- What rewriting makes of parts keeps their property while it is lowered. -/
lemma everywhere_prepared {node : Node} (h : Prepared (IsSettledWith order P) P node) (budget : Nat) :
    Everywhere P (bottomUp (lowerWithin order budget) node) := by
  induction h with
  | part hnode =>
    rw [hnode.normal.bottomUp_eq]
    exact hnode.everywhere
  | @call kind args hkind _ ih =>
    rw [bottomUp, lowerWithin_of_rewrite? (hkind.isPrimitive order _), bottomUps_eq_map]
    apply hP.everywhere_folded
    · exact hP.made (by rwa [List.length_map])
    · intro arg harg
      obtain ⟨source, hsource, rfl⟩ := List.mem_map.mp harg
      exact ih source hsource
  | comparison hkind hcall hargs =>
    rw [bottomUp, bottomUps_eq_self fun arg harg => (hargs arg harg).normal.bottomUp_eq budget]
    exact hP.everywhere_comparison hkind hcall (fun arg harg => (hargs arg harg).everywhere) budget

/-- A call with the property is lowered to a normal form that has it everywhere, if the arguments do, the
comparisons that the call stands for, and the restricted measure that it may stand for. -/
theorem isSettledWith_lowerRoot {kind : FunctionKind} {args : List Node}
    (hargs : ∀ arg ∈ args, IsSettledWith order P arg) (hcall : P (.call kind args))
    (hmembers : ∀ comparison, Compares kind args comparison → P comparison)
    (hrestricted : ∀ base filters derived, kind = .restrict → args = base :: filters →
      RestrictedMeasure.ofArgs? base filters = some derived → P (.restricted derived)) :
    IsSettledWith order P (lowerRoot order (.call kind args)) := by
  refine ⟨isNormal_lowerRoot fun arg harg => (hargs arg harg).normal, ?_⟩
  cases hrewrite : (Node.call kind args).rewrite? order with
  | none =>
    rw [lowerRoot, lowerWithin_of_rewrite? hrewrite]
    exact hP.everywhere_folded hcall fun arg harg => (hargs arg harg).everywhere
  | some rewritten =>
    have hprepared : Prepared (IsSettledWith order P) P rewritten :=
      rewrite?_prepared (hP.isPart order) hargs hmembers
        (fun hkind => hP.of_memberComparison? hkind hcall)
        (fun base filters derived hkind hsplit hderived => ⟨isNormal_restricted derived,
          everywhere_restricted.mpr (hrestricted base filters derived hkind hsplit hderived)⟩) hrewrite
    rw [lowerRoot_of_rewrite? hrewrite]
    exact hP.everywhere_prepared hprepared 15

/-- Nothing else than itself becomes of a call that lowering makes. -/
lemma isSettledWith_made {kind : FunctionKind} {args : List Node} (hkind : IsMade kind args.length)
    (hargs : ∀ arg ∈ args, IsSettledWith order P arg) :
    IsSettledWith order P (lowerRoot order (.call kind args)) := by
  refine ⟨isNormal_lowerRoot fun arg harg => (hargs arg harg).normal, ?_⟩
  rw [lowerRoot, lowerWithin_of_rewrite? (hkind.isPrimitive order args)]
  exact hP.everywhere_folded (hP.made hkind) fun arg harg => (hargs arg harg).everywhere

end IsKept

/-- The property says nothing about constants, calls and lists: it is one of references and restricted
measures, which lowering only rearranges. -/
structure IsLeafwise (P : Node → Prop) : Prop where
  const : ∀ value, P (.const value)
  constList : ∀ values, P (.constList values)
  call : ∀ kind args, P (.call kind args)
  array : ∀ items, P (.array items)

lemma IsLeafwise.isKept (hP : IsLeafwise P) : IsKept P where
  const := hP.const
  constList := hP.constList
  array := hP.array
  made _ := hP.call _ _
  key _ _ _ := hP.call _ _

end OlapFormula.Node
