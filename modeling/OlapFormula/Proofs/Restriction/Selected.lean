import OlapFormula.Proofs.Checks.Restrict
import OlapFormula.Proofs.Restriction.Alternatives
import OlapFormula.Proofs.Restriction.Separable

/-!
# What restricted measures select

A call of `RESTRICT` that passes its checks has filters in which no connective is without operands. The
measure that it is lowered to selects one member or another of every dimension that they name.
-/

namespace OlapFormula

open Node Selection

namespace Node

/-- A connective is a member filter if it has operands and all of them are. -/
lemma type_connective {kind : FunctionKind} (hkind : kind = .and ∨ kind = .or) {args : List Node}
    (h : (Node.call kind args).type = .dimensionFilter) :
    args ≠ [] ∧ ∀ arg ∈ args, arg.type = .dimensionFilter := by
  have htype : (Node.call kind args).type =
      if !(types args).isEmpty && (types args).all (· == .dimensionFilter) then .dimensionFilter
      else .boolean := by
    rcases hkind with rfl | rfl <;> rfl
  rw [htype, types_eq_map] at h
  split at h
  · next hall => simpa using hall
  · cases h

lemma exists_ofFilter? {args : List Node} {selections : List Selection}
    (h : ofFilters? args = some selections) : ∀ arg ∈ args, ∃ found, ofFilter? arg = some found := by
  induction args generalizing selections with
  | nil => simp
  | cons arg args ih =>
    simp only [ofFilters?, Option.bind_eq_bind, Option.bind_eq_some_iff, Option.pure_def,
      Option.some.injEq] at h
    obtain ⟨first, hfirst, rest, hrest, -⟩ := h
    exact List.forall_mem_cons.mpr ⟨⟨first, hfirst⟩, ih hrest⟩

/-- What selects something and is a member filter is built from conditions by connectives with
operands. -/
lemma isFilter_of_type {node : Node} {selections : List Selection}
    (h : ofFilter? node = some selections) (htype : node.type = .dimensionFilter) : node.IsFilter := by
  induction node using Node.induction generalizing selections with
  | call kind args ih =>
    have hargs (hselects : ofFilters? args = some selections)
        (htypes : ∀ arg ∈ args, arg.type = .dimensionFilter) : ∀ arg ∈ args, arg.IsFilter := by
      intro arg harg
      obtain ⟨found, hfound⟩ := exists_ofFilter? hselects arg harg
      exact ih arg harg hfound (htypes arg harg)
    unfold ofFilter? at h
    split at h
    · next heq =>
      cases heq
      obtain ⟨hnonempty, htypes⟩ := type_connective (Or.inl rfl) htype
      exact .and hnonempty (hargs h htypes)
    · next heq =>
      cases heq
      obtain ⟨hnonempty, htypes⟩ := type_connective (Or.inr rfl) htype
      exact .or hnonempty (hargs h htypes)
    · next ref _ heq =>
      rw [heq]
      split at h
      · cases h
      · next hnull => exact @IsFilter.condition (ref, _) hnull
    · cases h
  | const _ | constList _ | dimension _ | measure _ | array _ _ | restricted _ => cases h

lemma not_accepts_boolean (flags : FeatureFlags) : flags.accepts .dimensionFilter .boolean = false := by
  have hcompatible : flags.areCompatible .boolean .dimensionFilter = false := by
    have hcovers (group : CompatibilityGroup) : group.covers flags .boolean = false := by
      cases group <;>
        simp [CompatibilityGroup.covers, CompatibilityGroup.members, DataType.ancestors,
          DataType.parent, apply_ite]
    simp [FeatureFlags.areCompatible, hcovers]
  rw [FeatureFlags.accepts, hcompatible]
  rfl

/-- Conditions and connectives are member filters or truth values, and only filters are accepted. -/
lemma type_of_accepts {flags : FeatureFlags} {node : Node} (hselects : flatten node ≠ [])
    (h : flags.accepts .dimensionFilter node.type = true) : node.type = .dimensionFilter := by
  have htype : node.type = .dimensionFilter ∨ node.type = .boolean := by
    cases node with
    | call kind args =>
      cases kind with
      | and | or | equal =>
        rw [Node.type, callType]
        split <;> simp
      | _ => exact absurd rfl hselects
    | const _ | constList _ | dimension _ | measure _ | array _ | restricted _ =>
      exact absurd rfl hselects
  refine htype.resolve_right fun hboolean => ?_
  rw [hboolean, not_accepts_boolean] at h
  cases h

end Node

namespace RestrictedMeasure

variable {order : DateOrder} {base : Node} {filters : List Node} {derived : RestrictedMeasure}

/-- Such a call is left as it is, for it has no value either. -/
lemma lowerRoot_restrict_of_none (h : ofArgs? base filters = none) :
    (Node.call .restrict (base :: filters)).lowerRoot order = .call .restrict (base :: filters) := by
  have hrewrite : (Node.call .restrict (base :: filters)).rewrite? order = none := by
    simp only [rewrite?, h, Option.map_none]
  have hfold : (Node.call .restrict (base :: filters)).fold? order = none := by
    cases hliterals : literals? (base :: filters) <;> simp [fold?, hliterals, Folding.ofConstants]
  rw [lowerRoot, lowerWithin_of_rewrite? hrewrite, folded, hfold, Option.getD_none]

lemma lowerRoot_restrict_iff :
    (Node.call .restrict (base :: filters)).lowerRoot order = .restricted derived ↔
      ofArgs? base filters = some derived := by
  refine ⟨fun h => ?_, lowerRoot_restrict⟩
  cases hargs : ofArgs? base filters with
  | some other =>
    rw [lowerRoot_restrict hargs] at h
    cases h
    rfl
  | none =>
    rw [lowerRoot_restrict_of_none hargs] at h
    cases h

end RestrictedMeasure

namespace Construction

/-- The measure that a call of `RESTRICT` is lowered to selects what meets, for each dimension that its
filters name, one of their conditions on that. If the filters are separable they say just that, and if
they do not select a member twice, they say it only then. -/
theorem restrict_selects {settings : Settings} {name : String} {base : Node} {filters : List Node}
    {derived : RestrictedMeasure}
    (hpasses : Passes settings name (Catalog.itemOf .restrict) (base :: filters))
    (hlower : (Node.call .restrict (base :: filters)).lowerRoot settings.dateOrder =
      .restricted derived) :
    (∀ x, (∀ filter ∈ derived.filters, filter.Holds x) ↔ Meets x (filters.flatMap flatten)) ∧
      (IsSeparable (.call .and filters) → ∀ x,
        (∀ filter ∈ derived.filters, filter.Holds x) ↔ ∀ arg ∈ filters, arg.holds x = true) ∧
      (duplicates (filters.flatMap flatten) = [] →
        (∀ x, (∀ filter ∈ derived.filters, filter.Holds x) ↔ ∀ arg ∈ filters, arg.holds x = true) →
          IsSeparable (.call .and filters)) := by
  obtain ⟨ref, selections, rfl, hselections, hsome, rfl⟩ :=
    RestrictedMeasure.ofArgs?_eq_some (RestrictedMeasure.lowerRoot_restrict_iff.mp hlower)
  obtain ⟨rfl, hselects, -⟩ := RestrictedMeasure.selectionsOf?_eq_some hselections
  have hnonempty : filters ≠ [] := by
    rintro rfl
    exact hsome rfl
  obtain ⟨-, haccepts, -⟩ := (passes_restrict_iff hnonempty hselects).mp hpasses
  have hfilters : ∀ filter ∈ filters, filter.IsFilter := by
    intro filter hfilter
    obtain ⟨found, hfound⟩ : ∃ found, ofFilter? filter = some found := by
      rw [← Option.ne_none_iff_exists']
      intro hnone
      exact hselects filter hfilter (by rw [flatten, hnone]; rfl)
    exact isFilter_of_type hfound (type_of_accepts (hselects filter hfilter) (haccepts filter hfilter))
  have hall : IsFilter (.call .and filters) := .and hnonempty hfilters
  simp only [holds_group_iff, ← holds_and, ← flatten_and hfilters, duplicates_eq_nil_iff]
  exact ⟨fun x => trivial, fun hseparable x => meets_iff_holds hall hseparable,
    fun hdistinct h => isSeparable_of_meets_iff hall hdistinct h⟩

/-- Members of one dimension are alternatives, and another dimension is restricted as well. -/
theorem restrict_selects_of_separable :
    let condition (dimension member : String) : Node :=
      .call .equal [.dimension ⟨.dimension dimension, some { id := dimension }⟩, .string member]
    let base : Node := .measure ⟨.measure "Sales", some { id := "Sales" }⟩
    let filters := [.call .or [condition "City" "Paris", condition "City" "Rome"], condition "Year" "2024"]
    ∃ derived, Passes {} "RESTRICT" (Catalog.itemOf .restrict) (base :: filters) ∧
      (Node.call .restrict (base :: filters)).lowerRoot .monthFirst = .restricted derived ∧
      ∀ x, (∀ filter ∈ derived.filters, filter.Holds x) ↔ ∀ arg ∈ filters, arg.holds x = true := by
  intro condition base filters
  have hpasses : Passes {} "RESTRICT" (Catalog.itemOf .restrict) (base :: filters) :=
    passes_of_hasErrors (by decide +kernel)
  have hlower : (Node.call .restrict (base :: filters)).lowerRoot .monthFirst = .restricted _ :=
    RestrictedMeasure.lowerRoot_restrict (RestrictedMeasure.ofArgs?_measure _ (by decide) (by decide))
  refine ⟨_, hpasses, hlower, (restrict_selects hpasses hlower).2.1 ?_⟩
  have hcondition (dimension member : String) : IsSeparable (condition dimension member) :=
    .condition (⟨.dimension dimension, some { id := dimension }⟩, .string member)
  have hcities : IsSeparable (.call .or [condition "City" "Paris", condition "City" "Rome"]) :=
    .or (by decide) (forall_mem_pair.mpr ⟨hcondition "City" "Paris", hcondition "City" "Rome"⟩)
  exact .and (by decide) (forall_mem_pair.mpr ⟨hcities, hcondition "Year" "2024"⟩)

/-- What two filters leave of a dimension is added up, and conditions on different dimensions are asked
for together even if they are alternatives. -/
theorem exists_misread :
    let condition (dimension member : String) : Node :=
      .call .equal [.dimension ⟨.dimension dimension, some { id := dimension }⟩, .string member]
    let base : Node := .measure ⟨.measure "Sales", some { id := "Sales" }⟩
    let twice := [.call .or [condition "City" "Paris", condition "City" "Rome"], condition "City" "Paris"]
    let either := [.call .or [condition "City" "Paris", condition "Year" "2024"]]
    (∃ derived, Passes {} "RESTRICT" (Catalog.itemOf .restrict) (base :: twice) ∧
      (Node.call .restrict (base :: twice)).lowerRoot .monthFirst = .restricted derived ∧
      ∃ x, (∀ filter ∈ derived.filters, filter.Holds x) ∧ ¬ ∀ arg ∈ twice, arg.holds x = true) ∧
    ∃ derived, Passes {} "RESTRICT" (Catalog.itemOf .restrict) (base :: either) ∧
      (Node.call .restrict (base :: either)).lowerRoot .monthFirst = .restricted derived ∧
      ∃ x, (∀ arg ∈ either, arg.holds x = true) ∧ ¬ ∀ filter ∈ derived.filters, filter.Holds x := by
  intro condition base twice either
  constructor
  · refine ⟨_, passes_of_hasErrors (by decide +kernel), RestrictedMeasure.lowerRoot_restrict
      (RestrictedMeasure.ofArgs?_measure _ (by decide) (by decide)), fun _ => .string "Rome", ?_, ?_⟩
    · decide +kernel
    · decide +kernel
  · refine ⟨_, passes_of_hasErrors (by decide +kernel), RestrictedMeasure.lowerRoot_restrict
      (RestrictedMeasure.ofArgs?_measure _ (by decide) (by decide)), fun _ => .string "Paris", ?_, ?_⟩
    · decide +kernel
    · decide +kernel

end Construction

end OlapFormula
