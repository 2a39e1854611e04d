import OlapFormula.Proofs.Compiler.Leaves
import OlapFormula.Proofs.Restriction.Grouping

/-!
# Accepted formulas are resolved

Every reference in the root of an accepted formula is one of the formula, and stands for a member of the
model.
-/

namespace OlapFormula

open Construction

/-- The reference is what the model makes of it, and nothing is wrong with it. -/
def MeasureRef.IsResolved (model : Model) (ref : MeasureRef) : Prop :=
  (ofField model ref.reference).1 = .measure ref ∧
    Message.hasErrors (ofField model ref.reference).2 = false

/-- The reference is what the model makes of it, and nothing is wrong with it. -/
def DimensionRef.IsResolved (model : Model) (ref : DimensionRef) : Prop :=
  (ofField model ref.reference).1 = .dimension ref ∧
    Message.hasErrors (ofField model ref.reference).2 = false

/-- The property or hierarchy is one of the dimension. -/
def Dimension.Has (dimension : Dimension) (suffix : FieldSuffix) : Prop :=
  match suffix.kind with
  | .property => suffix.id ∈ dimension.properties
  | .hierarchy => suffix.id ∈ dimension.hierarchies

/-- The reference stands for a measure of the model, and is not seen through anything. -/
def MeasureRef.IsKnown (model : Model) (ref : MeasureRef) : Prop :=
  ref.reference.suffix = none ∧ ∃ measure,
    ref.measure = some measure ∧ model.measure? ref.reference.id = some measure

/-- The reference stands for a dimension of the model, and is seen through something which that has, if
through anything. -/
def DimensionRef.IsKnown (model : Model) (ref : DimensionRef) : Prop :=
  ∃ dimension, ref.dimension = some dimension ∧
    model.dimension? ref.reference.id = some dimension ∧
    ∀ suffix, ref.reference.suffix = some suffix → dimension.Has suffix

lemma hasErrors_suffixMessages {dimension : Dimension} {suffix : FieldSuffix} :
    Message.hasErrors (suffixMessages dimension suffix) = false ↔ dimension.Has suffix := by
  unfold suffixMessages Dimension.Has
  cases suffix.kind with
  | property =>
    by_cases h : suffix.id ∈ dimension.properties
    · simp [h, Message.hasErrors]
    · simp [h, Message.hasErrors, Message.isError, MessageCode.severity]
  | hierarchy =>
    by_cases h : suffix.id ∈ dimension.hierarchies
    · simp [h, Message.hasErrors]
    · simp [h, Message.hasErrors, Message.isError, MessageCode.severity]

lemma MeasureRef.IsResolved.isKnown {model : Model} {ref : MeasureRef} (h : ref.IsResolved model) :
    ref.IsKnown model := by
  obtain ⟨hnode, hmessages⟩ := h
  unfold ofField at hnode hmessages
  cases hkind : ref.reference.kind with
  | measure | unknown =>
    rw [hkind] at hnode hmessages
    obtain ⟨hsuffix, hmeasure⟩ := hasErrors_ofMeasure.mp hmessages
    obtain ⟨measure, hfound⟩ := Option.ne_none_iff_exists'.mp hmeasure
    have hsame : model.measure? ref.reference.id = ref.measure :=
      congrArg (·.measure) (Node.measure.inj hnode)
    exact ⟨hsuffix, measure, hsame.symm.trans hfound, hfound⟩
  | dimension =>
    rw [hkind] at hnode
    dsimp only [ofDimension] at hnode
    cases hfound : model.dimension? ref.reference.id <;> rw [hfound] at hnode <;> cases hnode
  | property | hierarchy =>
    rw [hkind] at hnode
    cases hnode

lemma DimensionRef.IsResolved.isKnown {model : Model} {ref : DimensionRef}
    (h : ref.IsResolved model) : ref.IsKnown model := by
  obtain ⟨hnode, hmessages⟩ := h
  unfold ofField at hnode hmessages
  cases hkind : ref.reference.kind with
  | measure | unknown =>
    rw [hkind] at hnode
    cases hnode
  | dimension =>
    rw [hkind] at hnode hmessages
    dsimp only [ofDimension] at hnode hmessages
    cases hfound : model.dimension? ref.reference.id with
    | none =>
      rw [hfound] at hmessages
      cases hmessages
    | some dimension =>
      rw [hfound] at hnode hmessages
      have hsame : some dimension = ref.dimension := congrArg (·.dimension) (Node.dimension.inj hnode)
      refine ⟨dimension, hsame.symm, hfound, fun suffix hsuffix => ?_⟩
      rw [hsuffix] at hmessages
      exact hasErrors_suffixMessages.mp hmessages
  | property | hierarchy =>
    rw [hkind] at hmessages
    cases hmessages

namespace Node

/-- The references in the leaf fulfil `R` and are resolved. -/
def IsResolved (R : FieldReference → Prop) (model : Model) : Node → Prop
  | .dimension ref => R ref.reference ∧ ref.IsResolved model
  | .measure ref => R ref.reference ∧ ref.IsResolved model
  | .restricted derived =>
    (R derived.base.reference ∧ derived.base.IsResolved model) ∧
      ∀ filter ∈ derived.filters,
        R filter.dimension.reference ∧ filter.dimension.IsResolved model
  | _ => True

end Node

variable {R : FieldReference → Prop} {model : Model}

open Node

lemma isResolved_ofArgs? {base : Node} {filters : List Node} {derived : RestrictedMeasure}
    (hargs : ∀ arg ∈ base :: filters, Everywhere (IsResolved R model) arg)
    (h : RestrictedMeasure.ofArgs? base filters = some derived) :
    IsResolved R model (.restricted derived) := by
  obtain ⟨ref, selections, rfl, hselections, -, rfl⟩ := RestrictedMeasure.ofArgs?_eq_some h
  obtain ⟨-, -, hmade⟩ := RestrictedMeasure.selectionsOf?_eq_some hselections
  obtain ⟨hbase, hfilters⟩ := List.forall_mem_cons.mp hargs
  refine ⟨hbase.here, fun filter hfilter => ?_⟩
  obtain ⟨value, hmem⟩ := (Selection.comesFrom_group selections filter hfilter).dimension
  have hcondition := (hmade _ hmem).2
  rw [preorders_eq_flatMap, List.mem_flatMap] at hcondition
  obtain ⟨node, hnode, hin⟩ := hcondition
  have heverywhere := (hfilters node hnode).of_mem hin
  exact ((everywhere_call.mp heverywhere).2 (.dimension filter.dimension) (List.mem_cons_self ..)).here

lemma isInherited_isResolved (settings : Settings) (model : Model) (R : FieldReference → Prop) :
    IsInherited settings model R (IsResolved R model) where
  leafwise :=
    { const _ := trivial
      constList _ := trivial
      call _ _ := trivial
      array _ := trivial }
  field reference hR hmessages := by
    rcases ofField_node model reference with hnode | ⟨dimension, hnode⟩
    · rw [hnode]
      exact ⟨hR, hnode, hmessages⟩
    · rw [hnode]
      exact ⟨hR, hnode, hmessages⟩
  restricted _ _ _ _ _ _ _ hargs _ hderived :=
    isResolved_ofArgs? (fun arg harg => (hargs arg harg).everywhere) hderived

end OlapFormula
