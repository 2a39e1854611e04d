import Mathlib.Data.List.Forall2
import OlapFormula.Proofs.Compiler.Restricted
import OlapFormula.Proofs.Decimal.Reading
import OlapFormula.Proofs.Node.Expression
import OlapFormula.Proofs.Restriction.Alternatives

/-!
# Building a restricted measure from its formula

The formula of a restricted measure is built into that measure again, with numbers as they are read,
provided that each filter passes the checks in the form in which it is written: a comparison if it has
one member, and a list otherwise.
-/

namespace OlapFormula

namespace Literal

/-- The constant without trailing zeros. -/
def stripped : Literal → Literal
  | number value => .number value.stripped
  | value => value

lemma text_stripped (value : Literal) : value.stripped.text = value.text := by
  cases value with
  | number value => exact value.text_stripped
  | string _ | boolean _ | null => rfl

lemma type_stripped (value : Literal) : value.stripped.type = value.type := by
  cases value <;> rfl

lemma stripped_ne_null {value : Literal} (h : value ≠ .null) : value.stripped ≠ .null := by
  cases value with
  | null => exact absurd rfl h
  | number _ | string _ | boolean _ => exact nofun

lemma same_stripped (value : Literal) : value.same value.stripped := by
  cases value with
  | number value => exact value.same_stripped
  | string _ | boolean _ => exact beq_self_eq_true _
  | null => rfl

lemma stripped_same_stripped (a b : Literal) : a.stripped.same b.stripped = a.same b := by
  cases a <;> cases b <;> try rfl
  next a b =>
    rw [Bool.eq_iff_iff]
    exact Decimal.same_congr a.same_stripped b.same_stripped

end Literal

namespace MemberFilter

def stripped (filter : MemberFilter) : MemberFilter :=
  { filter with values := filter.values.map Literal.stripped }

lemma text_stripped (filter : MemberFilter) : filter.stripped.text = filter.text := by
  obtain ⟨dimension, values⟩ := filter
  have htexts : (values.map Literal.stripped).map Literal.text = values.map Literal.text := by
    rw [List.map_map]
    exact List.map_congr_left fun value _ => value.text_stripped
  match values with
  | [] => rfl
  | [value] => simp [text, stripped, Literal.text_stripped]
  | first :: second :: rest =>
    change dimension.reference.text ++ " IN \x7b" ++ Text.joined ", "
      (((first :: second :: rest).map Literal.stripped).map Literal.text) ++ "\x7d" = _
    rw [htexts]
    rfl

/-- The same dimension, and the same members in the same order. -/
def Same (a b : MemberFilter) : Prop :=
  a.dimension = b.dimension ∧ List.Forall₂ (fun v w => v.same w = true) a.values b.values

lemma same_stripped (filter : MemberFilter) : filter.Same filter.stripped := by
  refine ⟨rfl, ?_⟩
  unfold stripped
  rw [List.forall₂_map_right_iff, List.forall₂_same]
  exact fun value _ => value.same_stripped

/-- The filter passes the checks in the form in which it is written. -/
def IsReadable (flags : FeatureFlags) (filter : MemberFilter) : Prop :=
  match filter.values with
  | [value] => flags.areCompatible filter.dimension.type value.type = true
  | values => DataType.ofElements (values.map Literal.type) ≠ .listOfMixed

end MemberFilter

namespace RestrictedMeasure

/-- The measure with the members of its filters as they are read. -/
def stripped (r : RestrictedMeasure) : RestrictedMeasure :=
  { r with filters := r.filters.map MemberFilter.stripped }

lemma idOf_stripped (base : String) (filters : List MemberFilter) :
    idOf base (filters.map MemberFilter.stripped) = idOf base filters := by
  unfold idOf
  rw [List.map_map]
  have htexts : filters.map (MemberFilter.text ∘ MemberFilter.stripped) =
      filters.map MemberFilter.text :=
    List.map_congr_left fun filter _ => filter.text_stripped
  rw [htexts]

end RestrictedMeasure

lemma Selection.AreGrouped.stripped {filters : List MemberFilter} (h : AreGrouped filters) :
    AreGrouped (filters.map MemberFilter.stripped) where
  nodup := by simpa [Function.comp_def, MemberFilter.stripped] using h.nodup
  nonempty := by simpa [MemberFilter.stripped] using h.nonempty
  pairwise := by
    simpa [MemberFilter.stripped, List.pairwise_map, Literal.stripped_same_stripped] using h.pairwise

lemma Selection.rewrite?_condition_stripped {order : DateOrder} {ref : DimensionRef} {value : Literal}
    (h : (condition (ref, value)).rewrite? order = none) :
    (condition (ref, value.stripped)).rewrite? order = none := by
  cases value with
  | number _ => rfl
  | string _ | boolean _ | null => exact h

/-! ## Building -/

namespace Construction

variable {settings : Settings} {model : Model}

lemma build_literal (value : Literal) :
    (build settings model value.expr).1 = .const value.stripped ∧
      Message.hasErrors (build settings model value.expr).2 = false := by
  cases value with
  | string _ | boolean _ | null => exact ⟨rfl, rfl⟩
  | number value =>
    have hspelling {a : Decimal} (ha : (a.negative && !a.isZero) = false) :
        build settings model (.number a.text) = (.number a.stripped, []) := by
      rw [build, ofSpelling, Decimal.ofLiteral?_text ha]
    have hexpr : (Literal.number value).expr = value.expr := rfl
    rw [hexpr, Decimal.expr]
    by_cases hneg : (value.negative && !value.isZero) = true
    · have hpasses := passes_negate settings UnaryOperator.negate.name value.abs.stripped
      rw [if_pos hneg, build_unary, hspelling (a := value.abs) rfl, ofOperator,
        Catalog.resolveOperator_negate, ofCall_node hpasses]
      refine ⟨?_, ?_⟩
      · rw [Literal.stripped, ← Decimal.neg_stripped_abs hneg]
        rfl
      · exact hasErrors_ofCall_iff.mpr hpasses
    · rw [if_neg hneg, hspelling (by simpa using hneg)]
      exact ⟨rfl, rfl⟩

lemma build_literals (values : List Literal) :
    (build settings model (.list (values.map Literal.expr))).1 =
        .constList (values.map Literal.stripped) ∧
      Message.hasErrors (build settings model (.list (values.map Literal.expr))).2 = false := by
  have hliterals : ∀ values : List Literal, Node.literals? (values.map .const) = some values := by
    intro values
    induction values with
    | nil => rfl
    | cons value values ih => simp [Node.literals?, Node.literal?, ih]
  have hnodes : (buildAll settings model (values.map Literal.expr)).1 =
      (values.map Literal.stripped).map .const := by
    rw [buildAll_nodes, List.map_map, List.map_map]
    exact List.map_congr_left fun value _ => (build_literal value).1
  rw [build_list]
  refine ⟨?_, ?_⟩
  · rw [← buildAll_nodes, hnodes, Node.list, hliterals]
  · rw [hasErrors_buildAll, List.forall_mem_map]
    exact fun value _ => (build_literal value).2

/-- A dimension and an operand that is built without an error make a call if the checks pass. -/
lemma build_comparison {op : BinaryOperator} {kind : FunctionKind} {ref : DimensionRef} {e : Expr}
    {node : Node} (hresolved : ref.IsResolved model) (hnode : (build settings model e).1 = node)
    (hmessages : Message.hasErrors (build settings model e).2 = false)
    (hitem : Catalog.resolveOperator settings.flags model.backend op.name = .ok (Catalog.itemOf kind))
    (hprepare : (Catalog.itemOf kind).kind.prepare [.dimension ref, node] = [.dimension ref, node]) :
    (Message.hasErrors (build settings model (.binary op (.field ref.reference) e)).2 = false ↔
        Passes settings op.name (Catalog.itemOf kind) [.dimension ref, node]) ∧
      (Passes settings op.name (Catalog.itemOf kind) [.dimension ref, node] →
        (build settings model (.binary op (.field ref.reference) e)).1 =
          (Node.call (Catalog.itemOf kind).kind [.dimension ref, node]).lowerRoot
            settings.dateOrder) := by
  have hfield : build settings model (.field ref.reference) = ofField model ref.reference := by
    rw [build]
  rw [build_binary, hfield, hresolved.1, hnode, ofOperator, hitem]
  simp only [Message.hasErrors_append, hresolved.2, hmessages, Bool.false_or]
  constructor
  · rw [hasErrors_ofCall_iff, hprepare]
  · intro hpasses
    rw [ofCall_node (by rwa [hprepare]), hprepare]

section

variable {filter : MemberFilter} {value : Literal} {values : List Literal}
  (hvalues : filter.values = value :: values) (hresolved : filter.dimension.IsResolved model)

include hvalues hresolved

lemma passes_filter_single (hone : values = []) (hnull : value ≠ .null) :
    filter.expr = .binary .equal (.field filter.dimension.reference) value.expr ∧
      (Passes settings BinaryOperator.equal.name (Catalog.itemOf .equal)
        [.dimension filter.dimension, .const value.stripped] ↔ filter.IsReadable settings.flags) := by
  subst hone
  obtain ⟨dimension, hdimension, -⟩ := hresolved.isKnown
  refine ⟨by simp only [MemberFilter.expr, hvalues], ?_⟩
  rw [passes_equal_iff hdimension (Literal.stripped_ne_null hnull), Literal.type_stripped]
  simp only [MemberFilter.IsReadable, hvalues]

lemma passes_filter_several (hmany : values ≠ []) :
    filter.expr = .binary .isIn (.field filter.dimension.reference)
        (.list ((value :: values).map Literal.expr)) ∧
      (Passes settings BinaryOperator.isIn.name (Catalog.itemOf .isIn)
        [.dimension filter.dimension, .constList ((value :: values).map Literal.stripped)] ↔
          filter.IsReadable settings.flags) := by
  obtain ⟨second, rest, rfl⟩ := List.exists_cons_of_ne_nil hmany
  obtain ⟨dimension, hdimension, -⟩ := hresolved.isKnown
  have htypes : ((value :: second :: rest).map Literal.stripped).map Literal.type =
      (value :: second :: rest).map Literal.type := by
    rw [List.map_map]
    exact List.map_congr_left fun v _ => v.type_stripped
  refine ⟨by simp only [MemberFilter.expr, hvalues], ?_⟩
  rw [passes_isIn_iff hdimension, htypes]
  simp only [MemberFilter.IsReadable, hvalues]

/-- What is read of a filter is lowered to a chain of comparisons, however it is written. -/
lemma build_filter_cons (hnull : ∀ v ∈ filter.values, v ≠ .null)
    (hlowered : ∀ v ∈ filter.values,
      (Selection.condition (filter.dimension, v)).rewrite? settings.dateOrder = none) :
    (Message.hasErrors (build settings model filter.expr).2 = false ↔
        filter.IsReadable settings.flags) ∧
      (filter.IsReadable settings.flags → (build settings model filter.expr).1 =
        Selection.alternatives filter.dimension value.stripped (values.map Literal.stripped)) := by
  have hstripped : ∀ v ∈ value.stripped :: values.map Literal.stripped,
      (Selection.condition (filter.dimension, v)).rewrite? settings.dateOrder = none := by
    rw [← List.map_cons, ← hvalues, List.forall_mem_map]
    exact fun v hv => Selection.rewrite?_condition_stripped (hlowered v hv)
  -- The form depends on the number of members alone, not on how the filter came about.
  by_cases hone : values = []
  · have hvalue : value ≠ .null := hnull value (by simp [hvalues])
    obtain ⟨hexpr, hpasses⟩ := @passes_filter_single settings model _ _ _ hvalues hresolved hone hvalue
    obtain ⟨hnode, hmessages⟩ := @build_literal settings model value
    obtain ⟨herrors, hcall⟩ := build_comparison hresolved hnode hmessages
      (Catalog.resolveOperator_equal settings.flags model.backend) rfl
    rw [← hexpr, hpasses] at herrors hcall
    refine ⟨herrors, fun hreadable => (hcall hreadable).trans ?_⟩
    rw [hone]
    exact Selection.lowerRoot_condition (hstripped _ (List.mem_cons_self ..))
  · obtain ⟨hexpr, hpasses⟩ := @passes_filter_several settings model _ _ _ hvalues hresolved hone
    obtain ⟨hnode, hmessages⟩ := @build_literals settings model (value :: values)
    obtain ⟨herrors, hcall⟩ := build_comparison hresolved hnode hmessages
      (Catalog.resolveOperator_isIn settings.flags model.backend) rfl
    rw [← hexpr, hpasses] at herrors hcall
    refine ⟨herrors, fun hreadable => (hcall hreadable).trans ?_⟩
    exact Selection.lowerRoot_isIn hstripped

end

/-- What is read of the filters of a sound measure selects what the filters select. -/
lemma build_filter {r : RestrictedMeasure} (h : r.IsSound settings model) {filter : MemberFilter}
    (hfilter : filter ∈ r.filters) :
    (Message.hasErrors (build settings model filter.expr).2 = false ↔
        filter.IsReadable settings.flags) ∧
      (filter.IsReadable settings.flags →
        Selection.flatten (build settings model filter.expr).1 =
            Selection.ofMemberFilter filter.stripped ∧
          (build settings model filter.expr).1.type = .dimensionFilter) := by
  obtain ⟨value, values, hvalues⟩ :=
    List.exists_cons_of_ne_nil (h.grouped.nonempty filter hfilter)
  have hnull := h.selects filter hfilter
  obtain ⟨herrors, hnode⟩ := build_filter_cons hvalues (h.resolved.2 filter hfilter).2 hnull
    (h.lowered filter hfilter)
  refine ⟨herrors, fun hreadable => ?_⟩
  have hstripped : ∀ v ∈ value.stripped :: values.map Literal.stripped, v ≠ .null := by
    rw [← List.map_cons, ← hvalues, List.forall_mem_map]
    exact fun v hv => Literal.stripped_ne_null (hnull v hv)
  rw [hnode hreadable]
  refine ⟨?_, Selection.type_alternatives ..⟩
  rw [Selection.flatten_alternatives hstripped, Selection.ofMemberFilter, MemberFilter.stripped, hvalues]
  rfl

/-- What is read of the filters of a restricted measure. -/
def filterNodes (settings : Settings) (model : Model) (r : RestrictedMeasure) : List Node :=
  r.filters.map fun filter => (build settings model filter.expr).1

section

variable {r : RestrictedMeasure} (h : r.IsSound settings model)
  (hreadable : ∀ filter ∈ r.filters, filter.IsReadable settings.flags)

include h hreadable

lemma flatten_filterNodes : (filterNodes settings model r).flatMap Selection.flatten =
    r.stripped.filters.flatMap Selection.ofMemberFilter := by
  unfold filterNodes RestrictedMeasure.stripped
  rw [List.flatMap_map, List.flatMap_map]
  exact List.flatMap_congr fun filter hfilter =>
    ((build_filter h hfilter).2 (hreadable filter hfilter)).1

lemma selects_filterNodes : ∀ node ∈ filterNodes settings model r, Selection.flatten node ≠ [] := by
  unfold filterNodes
  rw [List.forall_mem_map]
  intro filter hfilter
  rw [((build_filter h hfilter).2 (hreadable filter hfilter)).1]
  simpa [Selection.ofMemberFilter, MemberFilter.stripped] using h.grouped.nonempty filter hfilter

omit hreadable in
lemma filterNodes_ne_nil : filterNodes settings model r ≠ [] := by
  simpa [filterNodes] using h.nonempty

lemma passes_filterNodes : Passes settings "RESTRICT" (Catalog.itemOf .restrict)
    (.measure r.base :: filterNodes settings model r) := by
  rw [passes_restrict_iff (filterNodes_ne_nil h) (selects_filterNodes h hreadable),
    flatten_filterNodes h hreadable]
  have hgroup := Selection.group_flatMap h.grouped.stripped
  refine ⟨h.measure, ?_, ?_, ?_⟩
  · unfold filterNodes
    rw [List.forall_mem_map]
    intro filter hfilter
    rw [((build_filter h hfilter).2 (hreadable filter hfilter)).2]
    rfl
  · have hsub : ∀ ref ∈ (r.stripped.filters.flatMap Selection.ofMemberFilter).map (·.1),
        ref ∈ r.filters.map (·.dimension) := by
      intro ref href
      obtain ⟨selection, hselection, rfl⟩ := List.mem_map.mp href
      obtain ⟨_, hstripped, hmember⟩ := List.mem_flatMap.mp hselection
      obtain ⟨filter, hfilter, rfl⟩ := List.mem_map.mp hstripped
      obtain ⟨value, -, rfl⟩ := List.mem_map.mp hmember
      exact List.mem_map.mpr ⟨filter, hfilter, rfl⟩
    have hhierarchies := h.hierarchies
    rw [Checks.hierarchies_eq_nil_iff] at hhierarchies ⊢
    exact fun a ha b hb => hhierarchies a (hsub a ha) b (hsub b hb)
  · rw [RestrictedMeasure.stripped, hgroup, List.forall_mem_map]
    intro filter hfilter
    have hmany : filter.stripped.isMultiSelect = filter.isMultiSelect := by
      simp only [MemberFilter.isMultiSelect, MemberFilter.stripped, List.length_map]
    have hversion := h.versions filter hfilter
    unfold Checks.versionFilter at hversion ⊢
    rw [hmany]
    exact hversion

/-- Grouping what is read gives the filters and the id of the measure. -/
lemma ofArgs?_filterNodes :
    RestrictedMeasure.ofArgs? (.measure r.base) (filterNodes settings model r) = some r.stripped := by
  have hgroup : Selection.group ((filterNodes settings model r).flatMap Selection.flatten) =
      r.stripped.filters := by
    rw [flatten_filterNodes h hreadable]
    exact Selection.group_flatMap h.grouped.stripped
  have hid : RestrictedMeasure.idOf r.base.id r.stripped.filters = r.id :=
    (RestrictedMeasure.idOf_stripped ..).trans h.id_eq.symm
  rw [RestrictedMeasure.ofArgs?_measure r.base (selects_filterNodes h hreadable)
    (filterNodes_ne_nil h), hgroup, hid]
  rfl

end

/-- The formula of a sound measure is built into the measure, if its filters are readable. -/
theorem build_restricted {r : RestrictedMeasure} (h : r.IsSound settings model) :
    (Message.hasErrors (build settings model r.expr).2 = false ↔
        ∀ filter ∈ r.filters, filter.IsReadable settings.flags) ∧
      ((∀ filter ∈ r.filters, filter.IsReadable settings.flags) →
        (build settings model r.expr).1 = .restricted r.stripped) := by
  have hexpr : r.expr = .call "RESTRICT" (.field r.base.reference :: r.filters.map MemberFilter.expr) :=
    rfl
  have hfield : build settings model (.field r.base.reference) = ofField model r.base.reference := by
    rw [build]
  obtain ⟨hbase, hbaseMessages⟩ := h.resolved.1.2
  have hargs : (Expr.field r.base.reference :: r.filters.map MemberFilter.expr).map
      (fun e => (build settings model e).1) = .measure r.base :: filterNodes settings model r := by
    rw [List.map_cons, hfield, hbase, List.map_map]
    rfl
  have hprepare (args : List Node) : FunctionKind.prepare (Catalog.itemOf .restrict).kind args = args :=
    rfl
  rw [hexpr, build_call, hargs, ofFunction, Catalog.resolve_restrict]
  refine ⟨?_, fun hreadable => ?_⟩
  · rw [Message.hasErrors_append, Bool.or_eq_false_iff, hasErrors_buildAll, List.forall_mem_cons,
      List.forall_mem_map, hasErrors_ofCall_iff, hprepare, hfield]
    constructor
    · rintro ⟨⟨-, hfilters⟩, -⟩ filter hfilter
      exact (build_filter h hfilter).1.mp (hfilters filter hfilter)
    · intro hreadable
      have hfilters : ∀ filter ∈ r.filters,
          Message.hasErrors (build settings model filter.expr).2 = false :=
        fun filter hfilter => (build_filter h hfilter).1.mpr (hreadable filter hfilter)
      exact ⟨⟨hbaseMessages, hfilters⟩, passes_filterNodes h hreadable⟩
  · have hpasses := passes_filterNodes h hreadable
    rw [ofCall_node (by rwa [hprepare]), hprepare]
    exact RestrictedMeasure.lowerRoot_restrict (ofArgs?_filterNodes h hreadable)

end Construction

end OlapFormula
