import OlapFormula.Proofs.Compiler.Accepted
import OlapFormula.Proofs.Dependency.Guard
import OlapFormula.Proofs.Model.Names

/-!
# Models without cycles

A formula that is put into a model without cycles can make a cycle only through the measure whose
formula it is. The guard looks for one through the references that are left in the lowered formula,
while the model goes by the references in the text. An accepted formula keeps the model free of cycles
exactly if no reference that was folded away leads back to the measure.
-/

namespace OlapFormula

open Relation

/-- A way exists in the other relation as well, or it passes through the target. -/
lemma transGen_or_through {r r' : String → String → Prop} {P : String → Prop} {target : String}
    (hr : ∀ a, P a → a ≠ target → ∀ b, r a b → r' a b ∧ P b) {a c : String} (ha : P a)
    (h : TransGen r a c) :
    TransGen r' a c ∨ ReflTransGen r a target ∧ TransGen r target c := by
  induction h using TransGen.head_induction_on with
  | @single a hac =>
    by_cases htarget : a = target
    · exact Or.inr ⟨htarget ▸ ReflTransGen.refl, htarget ▸ TransGen.single hac⟩
    · exact Or.inl (.single (hr a ha htarget c hac).1)
  | @head a b hab hbc ih =>
    by_cases htarget : a = target
    · exact Or.inr ⟨htarget ▸ ReflTransGen.refl, htarget ▸ TransGen.head hab hbc⟩
    · obtain ⟨hedge, hb⟩ := hr a ha htarget b hab
      rcases ih hb with hpath | ⟨hbefore, hafter⟩
      · exact Or.inl (.head hedge hpath)
      · exact Or.inr ⟨.head hab hbefore, hafter⟩

namespace Model

/-- No measure depends on itself, be it through others. -/
def IsAcyclic (model : Model) : Prop := ∀ id, ¬ TransGen model.DependsOn id id

/-- The name is an id, or no measure has it. -/
def IsCanonical (model : Model) (name : String) : Prop := model.measureId name = name

variable {model : Model}

lemma IsIndexed.isCanonical_of_dependsOn (h : model.IsIndexed) {a b : String}
    (hab : model.DependsOn a b) : model.IsCanonical b := h.measureId_of_mem_dependentIds hab

end Model

variable {settings : Settings} {model : Model} {measure : Measure} {text : String}
  {compiled : CompiledFormula}

namespace Model

/-- Away from the measure under work the models with the old and with the new formula agree. -/
lemma IsIndexed.dependsOn_insertMeasure (h : model.IsIndexed) (hmem : measure ∈ model.measures)
    (formula : Option String) {a : String} (ha : model.IsCanonical a) (hne : a ≠ measure.id)
    (b : String) :
    (model.insertMeasure { measure with formula }).DependsOn a b ↔ model.DependsOn a b := by
  have hname : model.measureId a ≠ measure.id := by rwa [ha]
  rw [DependsOn, h.dependentIds_insertMeasure hmem formula hname, DependsOn]

/-- The model with an accepted formula has no cycles exactly if none of the references that were folded
away leads back to the measure. -/
theorem insertMeasure_isAcyclic_iff (hmodel : model.Reachable) (hacyclic : model.IsAcyclic)
    (hmem : measure ∈ model.measures)
    (hcompile :
      ({ settings, model } : Compiler).compile (some measure.id) text = .ok compiled) :
    (model.insertMeasure { measure with formula := some text }).IsAcyclic ↔
      ∀ id ∈ (model.insertMeasure { measure with formula := some text }).dependentIds measure.id,
        id ∉ compiled.root.measureRefs.map (·.id) →
          ¬ ReflTransGen model.DependsOn id measure.id := by
  have h := hmodel.isIndexed
  have hnew : (model.insertMeasure { measure with formula := some text }).IsIndexed :=
    (Reachable.insertMeasure _ hmodel).isIndexed
  have hself : model.measureId measure.id = measure.id := measureId_eq (h.measure?_id hmem)
  have hguard := (Dependency.guard_eq_nil_iff_not_transGen model measure.id compiled.root).mp (by
      obtain ⟨e, -, -, hguard, rfl⟩ := Compiler.compile_eq_ok_iff.mp hcompile
      exact hguard measure.id rfl)
  rw [hself] at hguard
  generalize hmodel' : model.insertMeasure { measure with formula := some text } = model' at hnew ⊢
  have hids (name : String) : model'.measureId name = model.measureId name :=
    hmodel' ▸ h.measureId_insertMeasure hmem (some text) name
  have hedge {a b : String} (ha : model.IsCanonical a) (hne : a ≠ measure.id) :
      model'.DependsOn a b ↔ model.DependsOn a b :=
    hmodel' ▸ h.dependsOn_insertMeasure hmem (some text) ha hne b
  have hcanonical {a b : String} (hab : model'.DependsOn a b) : model.IsCanonical b :=
    (hids b).symm.trans (hnew.isCanonical_of_dependsOn hab)
  have hdown : ∀ a, model.IsCanonical a → a ≠ measure.id → ∀ b, model'.DependsOn a b →
      model.DependsOn a b ∧ model.IsCanonical b :=
    fun a ha hne b hab => ⟨(hedge ha hne).mp hab, hcanonical hab⟩
  have hup : ∀ a, model.IsCanonical a → a ≠ measure.id → ∀ b, model.DependsOn a b →
      model'.DependsOn a b ∧ model.IsCanonical b :=
    fun a ha hne b hab => ⟨(hedge ha hne).mpr hab, h.isCanonical_of_dependsOn hab⟩
  constructor
  · intro hacyclic' id hid _ hway
    exact hacyclic' measure.id (.head' hid (reflTransGen_congr hup (hcanonical hid) hway))
  · intro hfolded id hcycle
    have hid : model.IsCanonical id := by
      obtain ⟨b, -, hb⟩ := TransGen.tail'_iff.mp hcycle
      exact hcanonical hb
    -- Away from the measure nothing is new, so a new cycle passes through it.
    have hthrough : TransGen model'.DependsOn measure.id measure.id := by
      rcases transGen_or_through hdown hid hcycle with hold | ⟨hbefore, hafter⟩
      · exact absurd hold (hacyclic id)
      · exact hafter.trans_left hbefore
    -- From the first reference on, the way back was there before the formula changed.
    obtain ⟨b, hb, hway⟩ := TransGen.head'_iff.mp hthrough
    have hold := reflTransGen_congr hdown (hcanonical hb) hway
    by_cases hleft : b ∈ compiled.root.measureRefs.map (·.id)
    · obtain ⟨ref, href, rfl⟩ := List.mem_map.mp hleft
      exact hguard ref href hold
    · exact hfolded b hb hleft hold

lemma IsIndexed.isAcyclic_of_formulas (h : model.IsIndexed)
    (hformulas : ∀ measure ∈ model.measures, measure.formula = none) : model.IsAcyclic := by
  intro id hcycle
  obtain ⟨b, hb, -⟩ := TransGen.head'_iff.mp hcycle
  have hnone : model.dependentIds id = [] := by
    cases hfound : model.measure? id with
    | none => simp [dependentIds, hfound]
    | some measure => simp [dependentIds, hfound, hformulas measure (h.mem_of_measure? hfound)]
  rw [DependsOn, hnone] at hb
  cases hb

theorem insertMeasure_isAcyclic_iff_of_quotient :
    let model : Model := .ofMembers .hana [] [{ id := "Sales" }, { id := "Cost" }]
    let measure : Measure := { id := "Sales" }
    let text := "[Cost] / 2"
    ∃ compiled, ({ model } : Compiler).compile (some measure.id) text = .ok compiled ∧
      ((model.insertMeasure { measure with formula := some text }).IsAcyclic ↔
        ∀ id ∈ (model.insertMeasure { measure with formula := some text }).dependentIds measure.id,
          id ∉ compiled.root.measureRefs.map (·.id) →
            ¬ ReflTransGen model.DependsOn id measure.id) := by
  intro model measure text
  have hmodel : model.Reachable := .insertMeasure _ (.insertMeasure _ (.empty _))
  have hmem : measure ∈ model.measures := by decide +kernel
  have hformulas : ∀ measure ∈ model.measures, measure.formula = none := by decide +kernel
  obtain ⟨compiled, hcompiled⟩ := Compiler.exists_compiled
    (show (({ model } : Compiler).compile (some measure.id) text).isOk = true by decide +kernel)
  exact ⟨compiled, hcompiled, insertMeasure_isAcyclic_iff hmodel
    (hmodel.isIndexed.isAcyclic_of_formulas hformulas) hmem hcompiled⟩

/-- A reference in a branch that is never taken is folded away, and makes a cycle all the same. -/
theorem exists_accepted_cycle :
    let model : Model := .ofMembers .hana [] [{ id := "Sales" }]
    let measure : Measure := { id := "Sales" }
    let text := "IF(TRUE, 1, [Sales])"
    model.Reachable ∧ model.IsAcyclic ∧ measure ∈ model.measures ∧
      (∃ compiled, ({ model } : Compiler).compile (some measure.id) text = .ok compiled) ∧
      ¬ (model.insertMeasure { measure with formula := some text }).IsAcyclic := by
  intro model measure text
  have hmodel : model.Reachable := .insertMeasure _ (.empty _)
  have hformulas : ∀ measure ∈ model.measures, measure.formula = none := by decide +kernel
  have hself : (model.insertMeasure { measure with formula := some text }).DependsOn
      measure.id measure.id := by
    unfold DependsOn
    decide +kernel
  refine ⟨hmodel, hmodel.isIndexed.isAcyclic_of_formulas hformulas, by decide +kernel, ?_, ?_⟩
  · exact Compiler.exists_compiled (by decide +kernel)
  · exact fun hacyclic => hacyclic measure.id (.single hself)

end Model

end OlapFormula
