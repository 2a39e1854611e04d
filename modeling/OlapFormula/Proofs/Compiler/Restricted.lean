import OlapFormula.Proofs.Checks.Restrict
import OlapFormula.Proofs.Compiler.Resolved
import OlapFormula.Proofs.Expr.Sound

/-!
# Restricted measures in accepted formulas

What is known of a restricted measure because the call of `RESTRICT` passed that made it: its references
are resolved, its filters are grouped and lowered, and it fulfils what `RESTRICT` asks for.
-/

namespace OlapFormula

open Construction Node

structure RestrictedMeasure.IsSound (settings : Settings) (model : Model) (r : RestrictedMeasure) :
    Prop where
  id_eq : r.id = idOf r.base.id r.filters
  resolved : Node.IsResolved FieldReference.IsWellFormed model (.restricted r)
  measure : settings.flags.accepts .measure r.base.type = true
  nonempty : r.filters ≠ []
  grouped : Selection.AreGrouped r.filters
  selects : ∀ filter ∈ r.filters, ∀ value ∈ filter.values, value ≠ .null
  lowered : ∀ filter ∈ r.filters, ∀ value ∈ filter.values,
    (Selection.condition (filter.dimension, value)).rewrite? settings.dateOrder = none
  hierarchies : Checks.hierarchies (r.filters.map (·.dimension)) = []
  versions : ∀ filter ∈ r.filters, Checks.versionFilter filter = []

/-- Restricted measures are sound, and other references are resolved. -/
def Node.IsSound (settings : Settings) (model : Model) : Node → Prop
  | .restricted derived => derived.IsSound settings model
  | node => node.IsResolved FieldReference.IsWellFormed model

variable {settings : Settings} {model : Model}

lemma Node.IsSound.isResolved {node : Node} (h : node.IsSound settings model) :
    node.IsResolved FieldReference.IsWellFormed model := by
  cases node with
  | restricted derived => exact RestrictedMeasure.IsSound.resolved h
  | const _ | constList _ | dimension _ | measure _ | call _ _ | array _ => exact h

/-- The reference can be written, and it is what the model makes of it. -/
structure DimensionRef.IsReadIn (model : Model) (ref : DimensionRef) : Prop where
  wellFormed : ref.reference.IsWellFormed
  node : (ofField model ref.reference).1 = .dimension ref

lemma Node.dimension?_eq_some {node : Node} {ref : DimensionRef} :
    node.dimension? = some ref ↔ node = .dimension ref := by
  cases node <;> simp [dimension?]

instance : DecidablePred (DimensionRef.IsReadIn model) := fun ref =>
  decidable_of_iff (ref.reference.IsWellFormed ∧ (ofField model ref.reference).1.dimension? = some ref)
    ⟨fun h => ⟨h.1, Node.dimension?_eq_some.mp h.2⟩, fun h => ⟨h.1, Node.dimension?_eq_some.mpr h.2⟩⟩

/-- References that are written alike stand for the same dimension. -/
lemma DimensionRef.IsReadIn.eq_of_text_eq {a b : DimensionRef} (ha : a.IsReadIn model)
    (hb : b.IsReadIn model) (htext : a.reference.text = b.reference.text) : a = b := by
  have hreference := FieldReference.eq_of_text_eq ha.wellFormed hb.wellFormed htext
  have hnode := ha.node.symm.trans ((congrArg (fun r => (ofField model r).1) hreference).trans hb.node)
  exact Node.dimension.inj hnode

/-- Members may come from conditions on other references than that of their filter, but these are written
alike. -/
lemma Selection.mem_of_mem_group {selections : List Selection}
    (hread : ∀ selection ∈ selections, selection.1.IsReadIn model) :
    ∀ filter ∈ Selection.group selections, ∀ value ∈ filter.values,
      (filter.dimension, value) ∈ selections := by
  intro filter hfilter value hvalue
  obtain ⟨⟨first, hfirst⟩, hvalues⟩ := Selection.comesFrom_group _ filter hfilter
  obtain ⟨selection, hselection, hkey, rfl⟩ := hvalues value hvalue
  have hsame : selection.1 = filter.dimension :=
    (hread selection hselection).eq_of_text_eq (hread _ hfirst) hkey
  rw [← hsame]
  exact hselection

/-- The condition of a selection stands in one of the filters, so it is lowered and resolved. -/
lemma isSettled_condition {filters : List Node} {selections : List Selection}
    (hfilters : ∀ filter ∈ filters, IsSettledWith settings.dateOrder (IsSound settings model) filter)
    (hmade : Selection.AreMadeIn (preorders filters) selections) {selection : Selection}
    (hselection : selection ∈ selections) :
    selection.condition.rewrite? settings.dateOrder = none ∧
      Node.IsResolved FieldReference.IsWellFormed model (.dimension selection.1) := by
  have hmem := (hmade selection hselection).2
  rw [preorders_eq_flatMap, List.mem_flatMap] at hmem
  obtain ⟨filter, hfilter, hin⟩ := hmem
  have hsettled := hfilters filter hfilter
  have hsound : Everywhere (IsSound settings model) selection.condition :=
    hsettled.everywhere.of_mem hin
  refine ⟨(hsettled.normal _ hin).rewrite, ?_⟩
  exact ((everywhere_call.mp hsound).2 (.dimension selection.1) (List.mem_cons_self ..)).here

lemma isSound_of_passes {name : String} {base : Node} {filters : List Node}
    {derived : RestrictedMeasure}
    (hargs : ∀ arg ∈ base :: filters, IsSettledWith settings.dateOrder (IsSound settings model) arg)
    (hpasses : Passes settings name (Catalog.itemOf .restrict) (base :: filters))
    (hderived : RestrictedMeasure.ofArgs? base filters = some derived) :
    derived.IsSound settings model := by
  have hresolved : ∀ arg ∈ base :: filters,
      Everywhere (Node.IsResolved FieldReference.IsWellFormed model) arg :=
    fun arg harg => (hargs arg harg).everywhere.imp fun _ h => h.isResolved
  have hderivedResolved := isResolved_ofArgs? hresolved hderived
  obtain ⟨ref, _, rfl, hsome, hmade, rfl, hmeasure, hhierarchies, hversions⟩ :=
    exists_of_ofArgs? hpasses hderived
  have hcondition : ∀ selection ∈ filters.flatMap Selection.flatten,
      selection.condition.rewrite? settings.dateOrder = none ∧
        Node.IsResolved FieldReference.IsWellFormed model (.dimension selection.1) :=
    fun selection => isSettled_condition (fun arg harg => hargs arg (List.mem_cons_of_mem _ harg)) hmade
  have hcomes := Selection.mem_of_mem_group fun selection hselection =>
    ⟨(hcondition selection hselection).2.1, (hcondition selection hselection).2.2.1⟩
  refine ⟨rfl, hderivedResolved, hmeasure, Selection.group_ne_nil hsome,
    Selection.areGrouped_group _, ?_, ?_, ?_, hversions⟩
  · exact fun filter hfilter value hvalue => (hmade _ (hcomes filter hfilter value hvalue)).1
  · exact fun filter hfilter value hvalue => (hcondition _ (hcomes filter hfilter value hvalue)).1
  · have hdimensions : ∀ ref ∈ (Selection.group (filters.flatMap Selection.flatten)).map (·.dimension),
        ref ∈ (filters.flatMap Selection.flatten).map (·.1) := by
      intro ref href
      obtain ⟨filter, hfilter, rfl⟩ := List.mem_map.mp href
      obtain ⟨value, hmem⟩ := (Selection.comesFrom_group _ filter hfilter).dimension
      exact List.mem_map.mpr ⟨_, hmem, rfl⟩
    rw [Checks.hierarchies_eq_nil_iff] at hhierarchies ⊢
    exact fun a ha b hb => hhierarchies a (hdimensions a ha) b (hdimensions b hb)

/-- The restricted measures of accepted formulas are sound. -/
lemma isInherited_isSound (settings : Settings) (model : Model) :
    IsInherited settings model FieldReference.IsWellFormed (IsSound settings model) where
  leafwise :=
    { const _ := trivial
      constList _ := trivial
      call _ _ := trivial
      array _ := trivial }
  field reference hreference hmessages := by
    have hresolved := (isInherited_isResolved settings model FieldReference.IsWellFormed).field
      reference hreference hmessages
    rcases ofField_node model reference with hnode | ⟨dimension, hnode⟩
    · rw [hnode] at hresolved ⊢
      exact hresolved
    · rw [hnode] at hresolved ⊢
      exact hresolved
  restricted name item base filters derived hresolves hkind hargs hpasses hderived := by
    obtain rfl := Catalog.eq_itemOf_restrict hresolves.mem_items hkind
    exact isSound_of_passes hargs hpasses hderived

lemma Compiler.isSound_of_mem_restrictedMeasures {compiler : Compiler} {editing : Option String}
    {text : String} {compiled : CompiledFormula}
    (h : compiler.compile editing text = .ok compiled) {r : RestrictedMeasure}
    (hr : r ∈ compiled.root.restrictedMeasures) : r.IsSound compiler.settings compiler.model := by
  have hroot := Compiler.everywhere_root (isInherited_isSound compiler.settings compiler.model)
    (fun e => Expr.isWellFormed_of_parse) h
  obtain ⟨node, hnode, hderived⟩ := List.mem_filterMap.mp hr
  have hsound := hroot node hnode
  cases node with
  | restricted derived =>
    obtain rfl := Option.some.inj hderived
    exact hsound
  | const _ | constList _ | dimension _ | measure _ | call _ _ | array _ => cases hderived

end OlapFormula
