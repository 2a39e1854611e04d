import OlapFormula.Proofs.Checks.Passing
import OlapFormula.Proofs.Restriction.Grouping

/-!
# Calls of `RESTRICT` that pass

`RESTRICT` asks for a measure, and for filters through one hierarchy at most that select one member of a
version dimension at most.
-/

namespace OlapFormula

namespace Selection

/-- What selects something is a condition or a connective, and its type is known. -/
lemma type_of_flatten {node : Node} (h : flatten node ≠ []) :
    node.type ≠ .unknown ∧ node.dimension? = none := by
  cases node with
  | call kind args =>
    refine ⟨?_, rfl⟩
    cases kind with
    | and | or =>
      rw [Node.type, callType]
      split <;> simp
    | equal =>
      rw [Node.type, callType]
      split <;> simp
    | _ => exact absurd rfl h
  | const _ | constList _ | dimension _ | measure _ | array _ | restricted _ => exact absurd rfl h

end Selection

namespace Checks

lemma hasErrors_hierarchies (refs : List DimensionRef) :
    Message.hasErrors (hierarchies refs) = false ↔ hierarchies refs = [] := by
  unfold hierarchies
  dsimp only
  split <;> simp [Message.hasErrors, Message.isError, MessageCode.severity]

lemma hasErrors_versionFilter (filter : MemberFilter) :
    Message.hasErrors (versionFilter filter) = false ↔ versionFilter filter = [] := by
  unfold versionFilter
  split <;> simp [Message.hasErrors, Message.isError, MessageCode.severity]

lemma mem_insertUnique {id other : String} {ids : List String} :
    other ∈ insertUnique id ids ↔ other = id ∨ other ∈ ids := by
  induction ids with
  | nil => simp [insertUnique]
  | cons first ids ih =>
    unfold insertUnique
    split
    · next hsame => simp [hsame]
    · split
      · simp
      · rw [List.mem_cons, ih, List.mem_cons]
        tauto

lemma length_le_length_insertUnique (id : String) (ids : List String) :
    ids.length ≤ (insertUnique id ids).length := by
  induction ids with
  | nil => simp
  | cons first ids ih =>
    unfold insertUnique
    split
    · exact Nat.le_refl _
    · split
      · simp
      · simpa using ih

lemma length_insertUnique_le_one {id : String} {ids : List String} :
    (insertUnique id ids).length ≤ 1 ↔ ids.length ≤ 1 ∧ ∀ other ∈ ids, other = id := by
  match ids with
  | [] => simp [insertUnique]
  | [first] =>
    by_cases hsame : id = first
    · simp [insertUnique, hsame]
    · by_cases hless : id < first
      · simp [insertUnique, hsame, hless, Ne.symm hsame]
      · simp [insertUnique, hsame, hless, Ne.symm hsame]
  | first :: second :: ids =>
    have hlength := length_le_length_insertUnique id (first :: second :: ids)
    simp only [List.length_cons] at hlength ⊢
    constructor <;> intro h <;> omega

def idsOf (refs : List DimensionRef) : List String :=
  refs.foldr (fun ref ids => insertUnique ref.id ids) []

lemma mem_idsOf {refs : List DimensionRef} {id : String} :
    id ∈ idsOf refs ↔ ∃ ref ∈ refs, ref.id = id := by
  induction refs with
  | nil => simp [idsOf]
  | cons ref refs ih =>
    rw [idsOf, List.foldr_cons, mem_insertUnique, ← idsOf, ih]
    simp [eq_comm]

lemma length_idsOf_le_one {refs : List DimensionRef} :
    (idsOf refs).length ≤ 1 ↔ ∀ a ∈ refs, ∀ b ∈ refs, a.id = b.id := by
  induction refs with
  | nil => simp [idsOf]
  | cons ref refs ih =>
    have hcons : (idsOf (ref :: refs)).length ≤ 1 ↔
        (idsOf refs).length ≤ 1 ∧ ∀ other ∈ idsOf refs, other = ref.id := length_insertUnique_le_one
    rw [hcons, ih]
    simp only [mem_idsOf, List.mem_cons, forall_eq_or_imp, forall_exists_index, and_imp,
      forall_apply_eq_imp_iff₂]
    constructor
    · rintro ⟨hrest, hfirst⟩
      exact ⟨⟨trivial, fun b hb => (hfirst b hb).symm⟩, fun a ha => ⟨hfirst a ha, hrest a ha⟩⟩
    · rintro ⟨-, hrest⟩
      exact ⟨fun a ha => (hrest a ha).2, fun a ha => (hrest a ha).1⟩

/-- References through a hierarchy must be to one dimension. -/
lemma hierarchies_eq_nil_iff (refs : List DimensionRef) :
    hierarchies refs = [] ↔ ∀ a ∈ refs, ∀ b ∈ refs, a.reference.hierarchy.isSome →
      b.reference.hierarchy.isSome → a.id = b.id := by
  have hfew : hierarchies refs = [] ↔
      (idsOf (refs.filter (·.reference.hierarchy.isSome))).length ≤ 1 := by
    unfold hierarchies
    dsimp only
    rw [← idsOf]
    split
    · next hmany => exact iff_of_false (List.cons_ne_nil _ _) (by omega)
    · next hfew => exact iff_of_true rfl (by omega)
  rw [hfew, length_idsOf_le_one]
  simp only [List.mem_filter, and_imp]
  exact ⟨fun h a ha b hb hsome hsome' => h a ha hsome b hb hsome',
    fun h a ha hsome b hb hsome' => h a ha b hb hsome hsome'⟩

/-- Repeated members are no errors, so what filters have to fulfil is this. -/
lemma hasErrors_filters {nodes : List Node} (h : ∀ node ∈ nodes, Selection.flatten node ≠ []) :
    Message.hasErrors (filters nodes) = false ↔
      hierarchies ((nodes.flatMap Selection.flatten).map (·.1)) = [] ∧
        ∀ filter ∈ Selection.group (nodes.flatMap Selection.flatten), versionFilter filter = [] := by
  have hselections : selectionsOf nodes = nodes.flatMap Selection.flatten := by
    unfold selectionsOf
    -- None of the nodes is of unknown type, so none is left out.
    rw [List.filter_eq_self.mpr fun node hnode => ?_]
    simpa using (Selection.type_of_flatten (h node hnode)).1
  have hshapes : Message.hasErrors (nodes.flatMap filterShape) = false := by
    rw [Message.hasErrors_flatMap]
    intro node hnode
    simp [filterShape, h node hnode, Message.hasErrors]
  have hduplicates (selections : List Selection) :
      Message.hasErrors (selections.map duplicateMember) = false := by
    simp [Message.hasErrors, duplicateMember, Message.isError, MessageCode.severity]
  unfold filters
  simp only [hselections, Message.hasErrors_append, hshapes, hduplicates, Bool.false_or,
    Bool.or_eq_false_iff, hasErrors_hierarchies, Message.hasErrors_flatMap, hasErrors_versionFilter]

lemma hasErrors_mismatchMessages (item : FunctionItem) (found : List Mismatch) :
    Message.hasErrors (mismatchMessages item found) = false ↔ found = [] := by
  have hmap : Message.hasErrors (found.map (mismatchMessage item)) = false ↔ found = [] := by
    cases found <;>
      simp [Message.hasErrors, mismatchMessage, Message.isError, MessageCode.severity]
  unfold mismatchMessages
  split
  · split
    · simp [Message.hasErrors, Message.isError, MessageCode.severity]
    · exact hmap
  · exact hmap

end Checks

namespace Construction

variable {settings : Settings} {name : String} {ref : MeasureRef} {filters : List Node}

lemma contract?_restrict (position : Nat) :
    (Catalog.itemOf .restrict).contract? position =
      some (Catalog.required [if position = 0 then .measure else .dimensionFilter]) := by
  match position with
  | 0 | 1 | _ + 2 => rfl

lemma mismatches_restrict_eq_nil_iff (flags : FeatureFlags) (type : DataType)
    (types : List DataType) :
    Checks.mismatches flags (Catalog.itemOf .restrict) (type :: types) = [] ↔
      flags.accepts .measure type = true ∧
        ∀ type ∈ types, flags.accepts .dimensionFilter type = true := by
  unfold Checks.mismatches
  simp only [List.mapIdx_cons, contract?_restrict, Nat.add_one_ne_zero, if_true, if_false, Catalog.required,
    List.any_cons, List.any_nil, Bool.or_false, List.flatten_cons, List.append_eq_nil_iff,
    List.flatten_eq_nil_iff, List.mem_mapIdx, forall_exists_index]
  constructor
  · rintro ⟨hfirst, hrest⟩
    refine ⟨by_contra fun h => by simp [h] at hfirst, fun other hother => ?_⟩
    obtain ⟨i, hi, rfl⟩ := List.mem_iff_getElem.mp hother
    have hempty := hrest _ i hi rfl
    exact by_contra fun h => by simp [h] at hempty
  · rintro ⟨hfirst, hrest⟩
    refine ⟨by simp [hfirst], ?_⟩
    rintro _ i hi rfl
    simp [hrest types[i] (List.getElem_mem hi)]

/-- No type is compatible with that of mixed lists but that type itself. -/
lemma covers_listOfMixed (flags : FeatureFlags) (group : CompatibilityGroup) :
    group.covers flags .listOfMixed = false := by
  cases group <;>
    simp [CompatibilityGroup.covers, CompatibilityGroup.members, DataType.ancestors,
      DataType.parent, apply_ite]

/-- A list of mixed values is neither a measure nor a filter. -/
lemma ne_listOfMixed_of_accepts {flags : FeatureFlags} {expected actual : DataType}
    (hexpected : expected = .measure ∨ expected = .dimensionFilter)
    (h : flags.accepts expected actual = true) : actual ≠ .listOfMixed := by
  rintro rfl
  have hcompatible : flags.areCompatible .listOfMixed expected = false := by
    rcases hexpected with rfl | rfl <;> simp [FeatureFlags.areCompatible, covers_listOfMixed]
  rw [FeatureFlags.accepts, hcompatible] at h
  rcases hexpected with rfl | rfl <;> exact absurd h (by decide)

lemma hasErrors_argumentTypes_restrict (flags : FeatureFlags) (name : String) (ref : MeasureRef)
    (filters : List Node) :
    Message.hasErrors (Check.messages flags
        ⟨name, .ok (Catalog.itemOf .restrict), .measure ref :: filters⟩ .argumentTypes) = false ↔
      flags.accepts .measure ref.type = true ∧
        ∀ filter ∈ filters, flags.accepts .dimensionFilter filter.type = true := by
  have hfound := mismatches_restrict_eq_nil_iff flags ref.type (filters.map Node.type)
  rw [List.forall_mem_map] at hfound
  rw [← hfound]
  exact Checks.hasErrors_mismatchMessages _ _

lemma hasErrors_mixedList_restrict {flags : FeatureFlags} (name : String)
    (hbase : flags.accepts .measure ref.type = true)
    (hfilters : ∀ filter ∈ filters, flags.accepts .dimensionFilter filter.type = true) :
    Message.hasErrors (Check.messages flags
      ⟨name, .ok (Catalog.itemOf .restrict), .measure ref :: filters⟩ .mixedList) = false := by
  have hmeasure := ne_listOfMixed_of_accepts (Or.inl rfl) hbase
  match filters, hfilters with
  | [], _ | _ :: _ :: _, _ => rfl
  | [filter], hfilters =>
    have hfilter := ne_listOfMixed_of_accepts (Or.inr rfl) (hfilters filter (List.mem_cons_self ..))
    simp [Check.messages, Checks.mixedList, Node.type, hmeasure, hfilter, Message.hasErrors]

lemma hasErrors_sameType_restrict (flags : FeatureFlags) (name : String) (args : List Node) :
    Message.hasErrors (Check.messages flags
      ⟨name, .ok (Catalog.itemOf .restrict), args⟩ .sameType) = false := by
  rw [Check.messages, Checks.hasErrors_sameType]
  exact FunctionItem.areAlike_of_none (by decide) _

/-- What `RESTRICT` asks for, if each filter selects something. -/
theorem passes_restrict_iff (hnonempty : filters ≠ [])
    (hselects : ∀ filter ∈ filters, Selection.flatten filter ≠ []) :
    Passes settings name (Catalog.itemOf .restrict) (.measure ref :: filters) ↔
      settings.flags.accepts .measure ref.type = true ∧
        (∀ filter ∈ filters, settings.flags.accepts .dimensionFilter filter.type = true) ∧
        Checks.hierarchies ((filters.flatMap Selection.flatten).map (·.1)) = [] ∧
        ∀ filter ∈ Selection.group (filters.flatMap Selection.flatten),
          Checks.versionFilter filter = [] := by
  have htypes := hasErrors_argumentTypes_restrict settings.flags name ref filters
  have hitem : Message.hasErrors (Check.messages settings.flags
      ⟨name, .ok (Catalog.itemOf .restrict), .measure ref :: filters⟩ .item) = false ↔
      Checks.hierarchies ((filters.flatMap Selection.flatten).map (·.1)) = [] ∧
        ∀ filter ∈ Selection.group (filters.flatMap Selection.flatten),
          Checks.versionFilter filter = [] := Checks.hasErrors_filters hselects
  rw [passes_iff]
  constructor
  · intro h
    obtain ⟨hbase, hfilters⟩ := htypes.mp (h .argumentTypes)
    exact ⟨hbase, hfilters, hitem.mp (h .item)⟩
  · rintro ⟨hbase, hfilters, hmembers⟩ check
    cases check with
    | knownFunction | stringUsage => rfl
    | arity =>
      obtain ⟨first, rest, rfl⟩ := List.exists_cons_of_ne_nil hnonempty
      have harity : (Catalog.itemOf .restrict).arity = .range 2 none := rfl
      simp [Check.messages, Checks.arity, CallSite.withItem, harity, Arity.accepts,
        Message.hasErrors]
    | dimensionUsage =>
      have hnone : (Node.measure ref :: filters).filterMap Node.dimension? = [] := by
        rw [List.filterMap_eq_nil_iff, List.forall_mem_cons]
        exact ⟨rfl, fun filter hfilter => (Selection.type_of_flatten (hselects filter hfilter)).2⟩
      simp [Check.messages, Checks.dimensionUsage, CallSite.withItem, hnone, Message.hasErrors]
    | argumentTypes => exact htypes.mpr ⟨hbase, hfilters⟩
    | mixedList => exact hasErrors_mixedList_restrict name hbase hfilters
    | item => exact hitem.mpr hmembers
    | sameType => exact hasErrors_sameType_restrict settings.flags name _

/-- A call that passes and is a restricted measure groups what its filters select. -/
lemma exists_of_ofArgs? {base : Node} {derived : RestrictedMeasure}
    (hpasses : Passes settings name (Catalog.itemOf .restrict) (base :: filters))
    (hderived : RestrictedMeasure.ofArgs? base filters = some derived) :
    ∃ ref selections, selections = filters.flatMap Selection.flatten ∧ selections ≠ [] ∧
      Selection.AreMadeIn (Node.preorders filters) selections ∧
      derived = ⟨RestrictedMeasure.idOf ref.id (Selection.group selections), ref,
        Selection.group selections⟩ ∧
      settings.flags.accepts .measure ref.type = true ∧
      Checks.hierarchies (selections.map (·.1)) = [] ∧
      ∀ filter ∈ Selection.group selections, Checks.versionFilter filter = [] := by
  obtain ⟨ref, selections, rfl, hselections, hsome, rfl⟩ := RestrictedMeasure.ofArgs?_eq_some hderived
  obtain ⟨rfl, hselects, hmade⟩ := RestrictedMeasure.selectionsOf?_eq_some hselections
  have hnonempty : filters ≠ [] := by
    rintro rfl
    exact hsome rfl
  obtain ⟨hmeasure, -, hmembers⟩ := (passes_restrict_iff hnonempty hselects).mp hpasses
  exact ⟨ref, _, rfl, hsome, hmade, rfl, hmeasure, hmembers⟩

end Construction

end OlapFormula
