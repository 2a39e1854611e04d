import OlapFormula.Proofs.Compiler.Restricted
import OlapFormula.Proofs.Restriction.Selected

/-!
# Version dimensions in restricted measures

Of a version dimension one member is selected for each reference to it. There are several: its id or its
alias, with the model it comes from or without it, as it is or through a hierarchy. So versions are mixed
exactly if conditions with different references to the dimension name different members.
-/

namespace OlapFormula

open Node Selection

/-- The members that are selected from a dimension, whatever the references to it. -/
def RestrictedMeasure.membersOf (derived : RestrictedMeasure) (dimension : Dimension) : List Literal :=
  (derived.filters.filter (·.dimension.dimension = some dimension)).flatMap (·.values)

lemma RestrictedMeasure.mem_membersOf {derived : RestrictedMeasure} {dimension : Dimension}
    {value : Literal} :
    value ∈ derived.membersOf dimension ↔
      ∃ filter ∈ derived.filters, filter.dimension.dimension = some dimension ∧ value ∈ filter.values := by
  simp [membersOf, and_assoc]

/-- A filter on a version dimension that is not found fault with has one member. -/
lemma Checks.eq_singleton_of_versionFilter {filter : MemberFilter} {version : Dimension}
    (hdimension : filter.dimension.dimension = some version) (hversion : version.version = true)
    (hnonempty : filter.values ≠ []) (h : versionFilter filter = []) :
    ∃ value, filter.values = [value] := by
  have hisVersion : filter.dimension.isVersion = true := by
    simpa [DimensionRef.isVersion, hdimension] using hversion
  unfold versionFilter at h
  rw [hisVersion, Bool.true_and] at h
  split at h
  · cases h
  · next hfew =>
    have hlength : filter.values.length ≤ 1 := by simpa [MemberFilter.isMultiSelect] using hfew
    exact List.length_eq_one_iff.mp (Nat.le_antisymm hlength (List.length_pos_iff.mpr hnonempty))

namespace Selection

variable {model : Model} {selections : List Selection}

/-- The member that a condition names is in the filter of its reference. -/
lemma exists_mem_group (hread : ∀ selection ∈ selections, selection.1.IsReadIn model)
    {selection : Selection} (hselection : selection ∈ selections) :
    ∃ filter ∈ group selections, filter.dimension = selection.1 ∧
      ∃ value ∈ filter.values, value.same selection.2 = true := by
  obtain ⟨filter, hfilter, hkey, value, hvalue, hsame⟩ := covers_group selection hselection
  have hmem := mem_of_mem_group hread filter hfilter value hvalue
  exact ⟨filter, hfilter, (hread _ hmem).eq_of_text_eq (hread selection hselection) hkey,
    value, hvalue, hsame⟩

end Selection

namespace Construction

/-- Each filter of a restricted measure on a version dimension has one member, and the dimension is
restricted to a single one exactly if conditions with different references to it agree. -/
theorem restrict_version_iff {settings : Settings} {model : Model} {name : String} {base : Node}
    {filters : List Node} {derived : RestrictedMeasure}
    (hread : ∀ condition ∈ filters.flatMap flatten, condition.1.IsReadIn model)
    (hpasses : Passes settings name (Catalog.itemOf .restrict) (base :: filters))
    (hlower : (Node.call .restrict (base :: filters)).lowerRoot settings.dateOrder =
      .restricted derived) {version : Dimension} (hversion : version.version = true) :
    (∀ filter ∈ derived.filters, filter.dimension.dimension = some version →
      ∃ value, filter.values = [value]) ∧
    ((∀ a ∈ derived.membersOf version, ∀ b ∈ derived.membersOf version, a.same b = true) ↔
      ∀ a ∈ filters.flatMap flatten, ∀ b ∈ filters.flatMap flatten,
        a.1.dimension = some version → b.1.dimension = some version →
          a.1.reference ≠ b.1.reference → a.2.same b.2 = true) := by
  obtain ⟨ref, _, rfl, -, -, rfl, -, -, hversions⟩ :=
    exists_of_ofArgs? hpasses (RestrictedMeasure.lowerRoot_restrict_iff.mp hlower)
  have hsingle : ∀ filter ∈ group (filters.flatMap flatten),
      filter.dimension.dimension = some version → ∃ value, filter.values = [value] :=
    fun filter hfilter hdimension => Checks.eq_singleton_of_versionFilter hdimension hversion
      ((areGrouped_group _).nonempty filter hfilter) (hversions filter hfilter)
  refine ⟨hsingle, fun h a ha b hb hon hon' _ => ?_, fun h a ha b hb => ?_⟩
  · obtain ⟨filter, hfilter, hdimension, value, hvalue, hsame⟩ := exists_mem_group hread ha
    obtain ⟨other, hother, hdimension', value', hvalue', hsame'⟩ := exists_mem_group hread hb
    have hmembers := h value
      (RestrictedMeasure.mem_membersOf.mpr ⟨filter, hfilter, hdimension ▸ hon, hvalue⟩) value'
      (RestrictedMeasure.mem_membersOf.mpr ⟨other, hother, hdimension' ▸ hon', hvalue'⟩)
    exact Literal.same_trans (Literal.same_symm hsame) (Literal.same_trans hmembers hsame')
  · obtain ⟨filter, hfilter, hon, hvalue⟩ := RestrictedMeasure.mem_membersOf.mp ha
    obtain ⟨other, hother, hon', hvalue'⟩ := RestrictedMeasure.mem_membersOf.mp hb
    by_cases hreference : filter.dimension.reference = other.dimension.reference
    · -- Each reference has one filter only, and that has one member.
      obtain rfl : filter = other :=
        List.inj_on_of_nodup_map (areGrouped_group _).nodup hfilter hother (by rw [hreference])
      obtain ⟨only, honly⟩ := hsingle filter hfilter hon
      rw [honly, List.mem_singleton] at hvalue hvalue'
      rw [hvalue, hvalue']
      exact Literal.same_self only
    · exact h _ (mem_of_mem_group hread filter hfilter a hvalue) _
        (mem_of_mem_group hread other hother b hvalue') hon hon' hreference

/-- The alias of a version dimension stands beside its id, and both are restricted to one member. -/
theorem restrict_version_of_alias :
    let version : Dimension := { id := "Version", aliasName := some "Ver", version := true }
    let model := Model.ofMembers .hana [version, { id := "City" }] [{ id := "Sales" }]
    let condition (name member : String) : Node :=
      .call .equal [.dimension ⟨.dimension name, model.dimension? name⟩, .string member]
    let base : Node := .measure ⟨.measure "Sales", model.measure? "Sales"⟩
    let filters := [.call .and [condition "Version" "Actual", condition "Ver" "Actual"],
      .call .or [condition "City" "Paris", condition "City" "Rome"]]
    ∃ derived, Passes {} "RESTRICT" (Catalog.itemOf .restrict) (base :: filters) ∧
      (Node.call .restrict (base :: filters)).lowerRoot .monthFirst = .restricted derived ∧
      ∀ a ∈ derived.membersOf version, ∀ b ∈ derived.membersOf version, a.same b = true := by
  intro version model condition base filters
  have hpasses : Passes {} "RESTRICT" (Catalog.itemOf .restrict) (base :: filters) :=
    passes_of_hasErrors (by decide +kernel)
  have hlower : (Node.call .restrict (base :: filters)).lowerRoot .monthFirst = .restricted _ :=
    RestrictedMeasure.lowerRoot_restrict (RestrictedMeasure.ofArgs?_measure _ (by decide) (by decide))
  have hread : ∀ condition ∈ filters.flatMap flatten, condition.1.IsReadIn model := by decide +kernel
  refine ⟨_, hpasses, hlower, (restrict_version_iff hread hpasses hlower rfl).2.mpr ?_⟩
  decide +kernel

/-- The id and the alias of a version dimension may be restricted to different members. -/
theorem exists_mixed_versions :
    let version : Dimension := { id := "Version", aliasName := some "Ver", version := true }
    let model := Model.ofMembers .hana [version] [{ id := "Sales" }]
    let condition (name member : String) : Node :=
      .call .equal [.dimension ⟨.dimension name, model.dimension? name⟩, .string member]
    let base : Node := .measure ⟨.measure "Sales", model.measure? "Sales"⟩
    let filters := [condition "Version" "Actual", condition "Ver" "Budget"]
    (∀ condition ∈ filters.flatMap flatten, condition.1.IsReadIn model) ∧
      ∃ derived, Passes {} "RESTRICT" (Catalog.itemOf .restrict) (base :: filters) ∧
        (Node.call .restrict (base :: filters)).lowerRoot .monthFirst = .restricted derived ∧
        ∃ a ∈ derived.membersOf version, ∃ b ∈ derived.membersOf version, a.same b = false := by
  intro version model condition base filters
  refine ⟨by decide +kernel, _, passes_of_hasErrors (by decide +kernel),
    RestrictedMeasure.lowerRoot_restrict (RestrictedMeasure.ofArgs?_measure _ (by decide) (by decide)), ?_⟩
  decide +kernel

end Construction

/-- Each filter on a version dimension in an accepted formula has one member. -/
theorem Compiler.exists_eq_singleton_of_version {compiler : Compiler} {editing : Option String}
    {text : String} {compiled : CompiledFormula} (h : compiler.compile editing text = .ok compiled)
    {r : RestrictedMeasure} (hr : r ∈ compiled.root.restrictedMeasures) {filter : MemberFilter}
    (hfilter : filter ∈ r.filters) {version : Dimension}
    (hdimension : filter.dimension.dimension = some version) (hversion : version.version = true) :
    ∃ value, filter.values = [value] := by
  have hsound := isSound_of_mem_restrictedMeasures h hr
  exact Checks.eq_singleton_of_versionFilter hdimension hversion
    (hsound.grouped.nonempty filter hfilter) (hsound.versions filter hfilter)

end OlapFormula
