import OlapFormula.Proofs.Node.Induction
import OlapFormula.Restriction

/-!
# Selections and their groups

What a filter selects stands in the filter. Grouping invents nothing, gives each dimension as it is
written one filter without repeated members, and makes the same filters again of what they select.
-/

namespace OlapFormula

namespace Selection

def condition (selection : Selection) : Node :=
  .call .equal [.dimension selection.1, .const selection.2]

/-- The selections are made by conditions in the nodes, and none of them is `NULL`. -/
def AreMadeIn (nodes : List Node) (selections : List Selection) : Prop :=
  ∀ selection ∈ selections, selection.2 ≠ .null ∧ selection.condition ∈ nodes

lemma AreMadeIn.append {nodes more : List Node} {selections others : List Selection}
    (h : AreMadeIn nodes selections) (h' : AreMadeIn more others) :
    AreMadeIn (nodes ++ more) (selections ++ others) := by
  intro selection hselection
  rcases List.mem_append.mp hselection with hmem | hmem
  · exact ⟨(h selection hmem).1, List.mem_append_left more (h selection hmem).2⟩
  · exact ⟨(h' selection hmem).1, List.mem_append_right nodes (h' selection hmem).2⟩

lemma areMadeIn_ofFilters? {nodes : List Node} {selections : List Selection}
    (hnodes : ∀ node ∈ nodes, ∀ found, ofFilter? node = some found → AreMadeIn node.preorder found)
    (h : ofFilters? nodes = some selections) : AreMadeIn (Node.preorders nodes) selections := by
  induction nodes generalizing selections with
  | nil =>
    obtain rfl := Option.some.inj h
    simp [AreMadeIn]
  | cons node nodes ih =>
    simp only [ofFilters?, Option.bind_eq_bind, Option.bind_eq_some_iff, Option.pure_def,
      Option.some.injEq] at h
    obtain ⟨first, hfirst, rest, hrest, rfl⟩ := h
    rw [List.forall_mem_cons] at hnodes
    exact (hnodes.1 first hfirst).append (ih hnodes.2 hrest)

lemma areMadeIn_ofFilter? {node : Node} {selections : List Selection}
    (h : ofFilter? node = some selections) : AreMadeIn node.preorder selections := by
  induction node using Node.induction generalizing selections with
  | call kind args ih =>
    have hargs (h : ofFilters? args = some selections) :
        AreMadeIn (Node.call kind args).preorder selections := by
      have hmade := areMadeIn_ofFilters? (fun arg harg found => ih arg harg) h
      exact fun selection hselection => ⟨(hmade selection hselection).1,
        List.mem_cons_of_mem _ (hmade selection hselection).2⟩
    unfold ofFilter? at h
    split at h
    · next heq => cases heq; exact hargs h
    · next heq => cases heq; exact hargs h
    · next heq =>
      rw [heq]
      split at h
      · cases h
      · next ref _ hnull =>
        obtain rfl := Option.some.inj h
        intro selection hselection
        obtain rfl := List.mem_singleton.mp hselection
        exact ⟨hnull, List.mem_cons_self ..⟩
    · cases h
  | const _ | constList _ | dimension _ | measure _ | array _ _ | restricted _ => cases h

variable {filters : List MemberFilter} {selection : Selection} {selections : List Selection}

/-- Each dimension as it is written has one filter, which selects members and none twice. -/
structure AreGrouped (filters : List MemberFilter) : Prop where
  nodup : (filters.map (·.dimension.reference.text)).Nodup
  nonempty : ∀ filter ∈ filters, filter.values ≠ []
  pairwise : ∀ filter ∈ filters, filter.values.Pairwise fun a b => a.same b = false

lemma mem_texts_addTo {text : String} :
    text ∈ (addTo selection filters).map (·.dimension.reference.text) ↔
      text = selection.key ∨ text ∈ filters.map (·.dimension.reference.text) := by
  induction filters with
  | nil => simp [addTo, key]
  | cons filter filters ih =>
    unfold addTo
    by_cases hkey : filter.dimension.reference.text == selection.key
    · have hsame := eq_of_beq hkey
      rw [if_pos hkey]
      split <;> simp [hsame]
    · rw [if_neg hkey, List.map_cons, List.mem_cons, ih, List.map_cons, List.mem_cons]
      tauto

lemma areGrouped_addTo (h : AreGrouped filters) (selection : Selection) :
    AreGrouped (addTo selection filters) := by
  induction filters with
  | nil => exact ⟨by simp [addTo], by simp [addTo], by simp [addTo]⟩
  | cons filter filters ih =>
    obtain ⟨hnodup, hnonempty, hpairwise⟩ := h
    rw [List.map_cons, List.nodup_cons] at hnodup
    rw [List.forall_mem_cons] at hnonempty hpairwise
    unfold addTo
    by_cases hkey : filter.dimension.reference.text == selection.key
    · rw [if_pos hkey]
      by_cases hany : filter.values.any (·.same selection.2)
      · rw [if_pos hany]
        exact ⟨List.nodup_cons.mpr hnodup, List.forall_mem_cons.mpr hnonempty,
          List.forall_mem_cons.mpr hpairwise⟩
      · rw [if_neg hany]
        refine ⟨List.nodup_cons.mpr hnodup, List.forall_mem_cons.mpr ⟨by simp, hnonempty.2⟩,
          List.forall_mem_cons.mpr ⟨?_, hpairwise.2⟩⟩
        rw [List.pairwise_append]
        refine ⟨hpairwise.1, List.pairwise_singleton .., fun a ha b hb => ?_⟩
        obtain rfl := List.mem_singleton.mp hb
        simpa using fun hsame => hany (List.any_eq_true.mpr ⟨a, ha, hsame⟩)
    · rw [if_neg hkey]
      obtain ⟨hnodup', hnonempty', hpairwise'⟩ := ih ⟨hnodup.2, hnonempty.2, hpairwise.2⟩
      refine ⟨?_, List.forall_mem_cons.mpr ⟨hnonempty.1, hnonempty'⟩,
        List.forall_mem_cons.mpr ⟨hpairwise.1, hpairwise'⟩⟩
      rw [List.map_cons, List.nodup_cons, mem_texts_addTo]
      exact ⟨not_or.mpr ⟨by simpa using hkey, hnodup.1⟩, hnodup'⟩

theorem areGrouped_group (selections : List Selection) : AreGrouped (group selections) := by
  have hall : ∀ filters, AreGrouped filters →
      AreGrouped (selections.foldl (fun filters selection => addTo selection filters) filters) := by
    induction selections with
    | nil => exact fun _ h => h
    | cons selection selections ih => exact fun _ h => ih _ (areGrouped_addTo h selection)
  exact hall [] ⟨List.nodup_nil, by simp, by simp⟩

lemma addTo_ne_nil : addTo selection filters ≠ [] := by
  have hmem := (@mem_texts_addTo filters selection selection.key).mpr (Or.inl rfl)
  rintro hnil
  rw [hnil] at hmem
  cases hmem

lemma group_ne_nil (h : selections ≠ []) : group selections ≠ [] := by
  have hall : ∀ (rest : List Selection) filters, filters ≠ [] →
      rest.foldl (fun filters selection => addTo selection filters) filters ≠ [] := by
    intro rest
    induction rest with
    | nil => exact fun _ h => h
    | cons selection rest ih => exact fun _ _ => ih _ addTo_ne_nil
  obtain ⟨selection, rest, rfl⟩ := List.exists_cons_of_ne_nil h
  exact hall rest _ addTo_ne_nil

/-- The filter comes from selections: its dimension from one of them, and each of its members from one
with a dimension that is written like this. -/
structure ComesFrom (selections : List Selection) (filter : MemberFilter) : Prop where
  dimension : ∃ value, (filter.dimension, value) ∈ selections
  values : ∀ value ∈ filter.values, ∃ selection ∈ selections,
    selection.key = filter.dimension.reference.text ∧ selection.2 = value

lemma comesFrom_addTo (h : ∀ filter ∈ filters, ComesFrom selections filter)
    (hselection : selection ∈ selections) :
    ∀ filter ∈ addTo selection filters, ComesFrom selections filter := by
  induction filters with
  | nil =>
    intro filter hfilter
    obtain rfl := List.mem_singleton.mp hfilter
    refine ⟨⟨selection.2, hselection⟩, fun value hvalue => ?_⟩
    obtain rfl := List.mem_singleton.mp hvalue
    exact ⟨selection, hselection, rfl, rfl⟩
  | cons filter filters ih =>
    rw [List.forall_mem_cons] at h
    unfold addTo
    by_cases hkey : filter.dimension.reference.text == selection.key
    · rw [if_pos hkey]
      split
      · exact List.forall_mem_cons.mpr h
      · refine List.forall_mem_cons.mpr ⟨⟨h.1.dimension, fun value hvalue => ?_⟩, h.2⟩
        rcases List.mem_append.mp hvalue with hold | hnew
        · exact h.1.values value hold
        · obtain rfl := List.mem_singleton.mp hnew
          exact ⟨selection, hselection, (eq_of_beq hkey).symm, rfl⟩
    · rw [if_neg hkey]
      exact List.forall_mem_cons.mpr ⟨h.1, ih h.2⟩

theorem comesFrom_group (selections : List Selection) :
    ∀ filter ∈ group selections, ComesFrom selections filter := by
  have hall : ∀ rest, rest ⊆ selections → ∀ filters, (∀ filter ∈ filters, ComesFrom selections filter) →
      ∀ filter ∈ rest.foldl (fun filters selection => addTo selection filters) filters,
        ComesFrom selections filter := by
    intro rest
    induction rest with
    | nil => exact fun _ _ h => h
    | cons selection rest ih =>
      intro hsub filters h
      obtain ⟨hmem, hrest⟩ := List.cons_subset.mp hsub
      exact ih hrest _ (comesFrom_addTo h hmem)
  exact hall selections (List.Subset.refl _) [] (by simp)

/-! ## Grouping again -/

def ofMemberFilter (filter : MemberFilter) : List Selection :=
  filter.values.map (filter.dimension, ·)

/-- A selection from a dimension without a filter gets a filter of its own, at the end. -/
lemma addTo_new (h : selection.key ∉ filters.map (·.dimension.reference.text)) :
    addTo selection filters = filters ++ [⟨selection.1, [selection.2]⟩] := by
  induction filters with
  | nil => rfl
  | cons filter filters ih =>
    rw [List.map_cons, List.mem_cons, not_or] at h
    rw [addTo, if_neg (by simpa using Ne.symm h.1), ih h.2, List.cons_append]

/-- A new member is added to the last filter, if that is the filter of its dimension. -/
lemma addTo_last {dimension : DimensionRef} {values : List Literal} {value : Literal}
    (h : dimension.reference.text ∉ filters.map (·.dimension.reference.text))
    (hnew : ∀ old ∈ values, old.same value = false) :
    addTo (dimension, value) (filters ++ [⟨dimension, values⟩]) =
      filters ++ [⟨dimension, values ++ [value]⟩] := by
  induction filters with
  | nil =>
    have hany : (values.any (·.same value)) = false := by simpa using hnew
    simp [addTo, key, hany]
  | cons filter filters ih =>
    rw [List.map_cons, List.mem_cons, not_or] at h
    rw [List.cons_append, addTo, if_neg (by simpa [key] using Ne.symm h.1), ih h.2, List.cons_append]

lemma foldl_addTo_last {dimension : DimensionRef} (values : List Literal) {more : List Literal}
    (h : dimension.reference.text ∉ filters.map (·.dimension.reference.text))
    (hpairwise : (values ++ more).Pairwise fun a b => a.same b = false) :
    (more.map (dimension, ·)).foldl (fun filters selection => addTo selection filters)
        (filters ++ [⟨dimension, values⟩]) =
      filters ++ [⟨dimension, values ++ more⟩] := by
  induction more generalizing values with
  | nil => simp
  | cons value more ih =>
    have hnew : ∀ old ∈ values, old.same value = false := fun old hold =>
      (List.pairwise_append.mp hpairwise).2.2 old hold value (List.mem_cons_self ..)
    rw [List.append_cons] at hpairwise
    rw [List.map_cons, List.foldl_cons, addTo_last h hnew, ih _ hpairwise, List.append_assoc,
      List.singleton_append]

/-- Grouping makes the same filters again of what grouped filters select. -/
theorem group_flatMap (h : AreGrouped filters) : group (filters.flatMap ofMemberFilter) = filters := by
  have hall : ∀ before rest, AreGrouped (before ++ rest) →
      (rest.flatMap ofMemberFilter).foldl (fun filters selection => addTo selection filters) before =
        before ++ rest := by
    intro before rest
    induction rest generalizing before with
    | nil => simp
    | cons filter rest ih =>
      intro hgrouped
      obtain ⟨dimension, values⟩ := filter
      have hmem : ⟨dimension, values⟩ ∈ before ++ ⟨dimension, values⟩ :: rest := by simp
      obtain ⟨value, values, rfl⟩ := List.exists_cons_of_ne_nil (hgrouped.nonempty _ hmem)
      have hnodup := hgrouped.nodup
      rw [List.map_append, List.map_cons, List.nodup_append] at hnodup
      -- The filters before are on other dimensions, so nothing is added to them.
      have hnew : dimension.reference.text ∉ before.map (·.dimension.reference.text) :=
        fun hold => hnodup.2.2 _ hold _ (List.mem_cons_self ..) rfl
      have hfirst : addTo (dimension, value) before = before ++ [⟨dimension, [value]⟩] :=
        addTo_new hnew
      have hlast := foldl_addTo_last [value] hnew (hgrouped.pairwise _ hmem)
      rw [List.flatMap_cons, List.foldl_append, ofMemberFilter, List.map_cons, List.foldl_cons, hfirst,
        hlast, List.singleton_append]
      rw [List.append_cons] at hgrouped
      rw [ih _ hgrouped, List.append_assoc, List.singleton_append]
  exact hall [] filters h

end Selection

namespace RestrictedMeasure

open Selection

lemma selectionsOf?_eq_some {nodes : List Node} {selections : List Selection}
    (h : selectionsOf? nodes = some selections) :
    selections = nodes.flatMap flatten ∧ (∀ node ∈ nodes, flatten node ≠ []) ∧
      AreMadeIn (Node.preorders nodes) selections := by
  induction nodes generalizing selections with
  | nil =>
    obtain rfl := Option.some.inj h
    simp [AreMadeIn]
  | cons node nodes ih =>
    unfold selectionsOf? at h
    dsimp only at h
    split at h
    · cases h
    · next hempty =>
      simp only [Option.bind_eq_bind, Option.bind_eq_some_iff, Option.pure_def,
        Option.some.injEq] at h
      obtain ⟨rest, hrest, rfl⟩ := h
      obtain ⟨rfl, hnonempty, hmade⟩ := ih hrest
      rw [List.isEmpty_iff] at hempty
      refine ⟨rfl, List.forall_mem_cons.mpr ⟨hempty, hnonempty⟩, AreMadeIn.append ?_ hmade⟩
      obtain ⟨found, hfound⟩ : ∃ found, ofFilter? node = some found := by
        rw [← Option.ne_none_iff_exists']
        intro hnone
        exact hempty (by rw [flatten, hnone]; rfl)
      rw [flatten, hfound]
      exact areMadeIn_ofFilter? hfound

lemma selectionsOf?_of_flatten {nodes : List Node} (h : ∀ node ∈ nodes, flatten node ≠ []) :
    selectionsOf? nodes = some (nodes.flatMap flatten) := by
  induction nodes with
  | nil => rfl
  | cons node nodes ih =>
    obtain ⟨hnode, hnodes⟩ := List.forall_mem_cons.mp h
    have hnonempty : (flatten node).isEmpty = false := by simpa using hnode
    simp only [selectionsOf?, hnonempty, Bool.false_eq_true, if_false, ih hnodes]
    rfl

lemma ofArgs?_measure (base : MeasureRef) {nodes : List Node} (h : ∀ node ∈ nodes, flatten node ≠ [])
    (hnonempty : nodes ≠ []) :
    ofArgs? (.measure base) nodes =
      some ⟨idOf base.id (group (nodes.flatMap flatten)), base, group (nodes.flatMap flatten)⟩ := by
  obtain ⟨node, rest, rfl⟩ := List.exists_cons_of_ne_nil hnonempty
  obtain ⟨selection, selections, hselections⟩ :=
    List.exists_cons_of_ne_nil (h node (List.mem_cons_self ..))
  unfold ofArgs?
  rw [selectionsOf?_of_flatten h, List.flatMap_cons, hselections, List.cons_append]

/-- A restriction takes a measure and filters that select something. -/
lemma ofArgs?_eq_some {base : Node} {nodes : List Node} {derived : RestrictedMeasure}
    (h : ofArgs? base nodes = some derived) :
    ∃ ref selections, base = .measure ref ∧ selectionsOf? nodes = some selections ∧
      selections ≠ [] ∧ derived = ⟨idOf ref.id (group selections), ref, group selections⟩ := by
  unfold ofArgs? at h
  split at h
  · next ref selection selections hselections =>
    exact ⟨ref, selection :: selections, rfl, hselections, by simp, (Option.some.inj h).symm⟩
  · cases h

end RestrictedMeasure

end OlapFormula
