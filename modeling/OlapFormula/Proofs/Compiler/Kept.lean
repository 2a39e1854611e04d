import OlapFormula.Proofs.Compiler.Normal
import OlapFormula.Proofs.Lowering.Kept

/-!
# What holds everywhere in accepted formulas

A property that lowering keeps holds everywhere in the root of an accepted formula, if the calls that pass
their checks have it, the comparisons that memberships stand for, references that are resolved and the
restricted measures that calls of `RESTRICT` stand for.
-/

namespace OlapFormula

open Node

variable {order : DateOrder} {P : Node → Prop}

namespace Node.IsKept

variable (hP : IsKept P)

include hP

lemma isSettledWith_prepare (kind : FunctionKind) {args : List Node}
    (h : ∀ arg ∈ args, IsSettledWith order P arg) : ∀ arg ∈ kind.prepare args, IsSettledWith order P arg :=
  forall_mem_prepare (fun _ hn => ⟨isNormal_float hn.normal nofun,
    hP.everywhere_made rfl (by simpa using hn.everywhere)⟩) kind h

lemma everywhere_checkRoot {root : Node} (h : IsSettledWith order P root) :
    Everywhere P (Construction.checkRoot order root).1 := by
  have hint : IsSettledWith order P ((Node.call .int [root]).lowerRoot order) :=
    hP.isSettledWith_made rfl (by simpa using h)
  exact Construction.checkRoot_of_casts h.everywhere hint.everywhere fun _ =>
    hP.everywhere_made rfl (by simpa using hint.everywhere)

end Node.IsKept

namespace Construction

variable {settings : Settings} {model : Model} {R : FieldReference → Prop} {C : CallSite → Prop}

/-- What a property has to be true of, that it is true everywhere in what is built without an error from
references that fulfil `R` and calls that fulfil `C`. -/
structure IsEstablished (settings : Settings) (model : Model) (R : FieldReference → Prop)
    (C : CallSite → Prop) (P : Node → Prop) : Prop where
  kept : IsKept P
  field : ∀ reference, R reference → Message.hasErrors (ofField model reference).2 = false →
    P (ofField model reference).1
  call : ∀ name item args, Resolves settings model name item →
    (∀ arg ∈ args, IsSettledWith settings.dateOrder P arg) → Passes settings name item args →
    P (.call item.kind args)
  compares : ∀ name item args comparison, Resolves settings model name item →
    C ⟨name, .ok item, args⟩ → Passes settings name item args →
    Compares item.kind args comparison → P comparison
  restricted : ∀ name item base filters derived, Resolves settings model name item →
    item.kind = .restrict → (∀ arg ∈ base :: filters, IsSettledWith settings.dateOrder P arg) →
    Passes settings name item (base :: filters) →
    RestrictedMeasure.ofArgs? base filters = some derived → P (.restricted derived)

/-- A reference becomes a leaf. -/
lemma ofField_node (model : Model) (reference : FieldReference) :
    (ofField model reference).1 = .measure ⟨reference, model.measure? reference.id⟩ ∨
      ∃ dimension, (ofField model reference).1 = .dimension ⟨reference, dimension⟩ := by
  have hdimension : ∃ dimension, (ofDimension model reference).1 = .dimension ⟨reference, dimension⟩ := by
    unfold ofDimension
    cases model.dimension? reference.id with
    | none => exact ⟨none, rfl⟩
    | some dimension => exact ⟨some dimension, rfl⟩
  unfold ofField
  cases reference.kind with
  | measure | unknown => exact Or.inl rfl
  | dimension => exact Or.inr hdimension
  | property | hierarchy => exact Or.inr ⟨none, rfl⟩

lemma everywhere_ofField {reference : FieldReference} (h : P (ofField model reference).1) :
    Everywhere P (ofField model reference).1 := by
  rcases ofField_node model reference with hnode | ⟨dimension, hnode⟩
  · rw [hnode] at h ⊢
    exact everywhere_measure.mpr h
  · rw [hnode] at h ⊢
    exact everywhere_dimension.mpr h

lemma IsEstablished.invariant (h : IsEstablished settings model R C P) :
    Invariant settings model R C (IsSettledWith settings.dateOrder P) where
  const value := ⟨isNormal_const value, h.kept.everywhere_const value⟩
  field reference hR hmessages :=
    ⟨(invariant_isNormal settings model).field reference trivial hmessages,
      everywhere_ofField (h.field reference hR hmessages)⟩
  list items hitems :=
    ⟨isNormal_list fun item hitem => (hitems item hitem).normal,
      h.kept.everywhere_list fun item hitem => (hitems item hitem).everywhere⟩
  call name item args hresolves hC hargs hpasses := by
    have hprepared : ∀ arg ∈ item.kind.prepare args, IsSettledWith settings.dateOrder P arg :=
      h.kept.isSettledWith_prepare item.kind hargs
    refine h.kept.isSettledWith_lowerRoot hprepared
      (h.call name item _ hresolves hprepared hpasses)
      (fun comparison => h.compares name item _ comparison hresolves hC hpasses) ?_
    intro base filters derived hkind hsplit hderived
    rw [hsplit] at hpasses hprepared
    exact h.restricted name item base filters derived hresolves hkind hprepared hpasses hderived

end Construction

namespace Compiler

/-- An established property holds everywhere in what the compiler accepts. -/
theorem everywhere_root_of_established {compiler : Compiler} {editing : Option String} {text : String}
    {compiled : CompiledFormula} {R : FieldReference → Prop} {C : CallSite → Prop}
    (hP : Construction.IsEstablished compiler.settings compiler.model R C P)
    (hfields : ∀ e, Expr.parse compiler.settings.limits text = .ok e → ∀ r ∈ e.fields, R r)
    (hcalls : ∀ e, Expr.parse compiler.settings.limits text = .ok e →
      ∀ call ∈ Construction.callSites compiler.settings compiler.model e, C call)
    (h : compiler.compile editing text = .ok compiled) : Everywhere P compiled.root := by
  obtain ⟨e, hparse, hmessages, -, hroot⟩ := exists_build h
  rw [hroot]
  exact hP.kept.everywhere_checkRoot
    (hP.invariant.build e (hfields e hparse) (hcalls e hparse) hmessages)

end Compiler

end OlapFormula
