import Mathlib.Algebra.BigOperators.Group.List.Basic
import Mathlib.Data.List.Induction
import OlapFormula.Proofs.Restriction.Separable

/-!
# Repeated selections

Filters are grouped in one pass, and what is selected again is found in another one, each with a list of its
own to look it up in. Both mean the same by a repetition: every selection that does not repeat an earlier one
is in the filter of its dimension, and the others are the duplicates.
-/

namespace OlapFormula

section

variable {α β : Type} {r : α → α → Bool}

lemma eraseDupsBy_loop_concat (xs kept : List α) (b : α) :
    List.eraseDupsBy.loop r (xs ++ [b]) kept =
      if (List.eraseDupsBy.loop r xs kept).any (r b) then List.eraseDupsBy.loop r xs kept
      else List.eraseDupsBy.loop r xs kept ++ [b] := by
  induction xs generalizing kept with
  | nil =>
    simp only [List.nil_append, List.eraseDupsBy.loop, List.any_reverse]
    cases kept.any (r b) <;> simp
  | cons x xs ih =>
    by_cases hx : kept.any (r x) = true
    · simp only [List.cons_append, List.eraseDupsBy.loop, hx, ih]
    · rw [Bool.not_eq_true] at hx
      simp only [List.cons_append, List.eraseDupsBy.loop, hx, ih]

/-- An element at the end is kept unless it is like one that is kept already. -/
lemma eraseDupsBy_concat (xs : List α) (b : α) :
    (xs ++ [b]).eraseDupsBy r =
      if (xs.eraseDupsBy r).any (r b) then xs.eraseDupsBy r else xs.eraseDupsBy r ++ [b] :=
  eraseDupsBy_loop_concat xs [] b

/-- For everything that is dropped something like it is kept. -/
lemma any_eraseDupsBy (htrans : ∀ {a b c}, r a b = true → r b c = true → r a c = true) (xs : List α)
    (b : α) : (xs.eraseDupsBy r).any (r b) = xs.any (r b) := by
  induction xs using List.reverseRecOn with
  | nil => rfl
  | append_singleton xs x ih =>
    rw [eraseDupsBy_concat, List.any_append, ← ih, List.any_cons, List.any_nil, Bool.or_false]
    split
    · next hdropped =>
      obtain ⟨kept, hkept, hlike⟩ := List.any_eq_true.mp hdropped
      by_cases hb : r b x = true
      · rw [List.any_eq_true.mpr ⟨kept, hkept, htrans hb hlike⟩, Bool.true_or]
      · rw [Bool.eq_false_iff.mpr hb, Bool.or_false]
    · rw [List.any_append, List.any_cons, List.any_nil, Bool.or_false]

lemma map_eraseDupsBy (f : α → β) (r : β → β → Bool) (xs : List α) :
    (xs.eraseDupsBy fun a b => r (f a) (f b)).map f = (xs.map f).eraseDupsBy r := by
  induction xs using List.reverseRecOn with
  | nil => rfl
  | append_singleton xs x ih =>
    rw [eraseDupsBy_concat, apply_ite (List.map f), List.map_append, List.map_append, List.map_singleton,
      eraseDupsBy_concat, ← ih, List.any_map]
    rfl

/-- A list is as long as its parts for the different values of a function are together. -/
lemma length_eq_sum_filter [DecidableEq β] (f : α → β) {values : List β} (hnodup : values.Nodup)
    (xs : List α) (h : ∀ x ∈ xs, f x ∈ values) :
    xs.length = (values.map fun value => (xs.filter (f · == value)).length).sum := by
  induction hnodup generalizing xs with
  | nil =>
    obtain rfl : xs = [] := List.eq_nil_iff_forall_not_mem.mpr fun x hx => List.not_mem_nil (h x hx)
    rfl
  | @cons value values hnew _ ih =>
    have hrest := ih (xs.filter (!f · == value)) fun x hx => by
      obtain ⟨hx, hne⟩ := List.mem_filter.mp hx
      exact (List.mem_cons.mp (h x hx)).resolve_left (by simpa using hne)
    -- the parts for the other values are not touched
    have hparts : ∀ other ∈ values,
        (xs.filter (!f · == value)).filter (f · == other) = xs.filter (f · == other) := by
      intro other hother
      rw [List.filter_filter]
      refine List.filter_congr fun x _ => ?_
      by_cases hx : f x = other
      · simp [hx, (hnew other hother).symm]
      · simp [hx]
    rw [List.map_cons, List.sum_cons, List.length_eq_length_filter_add (f · == value), hrest]
    congr 2
    exact List.map_congr_left fun other hother => congrArg List.length (hparts other hother)

end

lemma Literal.same_comm (a b : Literal) : a.same b = b.same a :=
  Bool.eq_iff_iff.mpr ⟨same_symm, same_symm⟩

namespace Selection

variable {earlier seen selections : List Selection} {selection : Selection} {text : String}

/-! ## Repetitions -/

/-- Each selection with the ones before it. -/
def withEarlier (earlier : List Selection) : List Selection → List (List Selection × Selection)
  | [] => []
  | selection :: selections =>
    (earlier, selection) :: withEarlier (earlier ++ [selection]) selections

/-- The same was selected before. -/
def isRepetition (place : List Selection × Selection) : Bool := place.1.any (·.same place.2)

/-- The selections that repeat an earlier one. -/
def repetitions (selections : List Selection) : List Selection :=
  ((withEarlier [] selections).filter isRepetition).map (·.2)

/-- The selections that do not repeat an earlier one. -/
def firsts (selections : List Selection) : List Selection :=
  ((withEarlier [] selections).filter (!isRepetition ·)).map (·.2)

lemma map_withEarlier (earlier selections : List Selection) :
    (withEarlier earlier selections).map (·.2) = selections := by
  induction selections generalizing earlier with
  | nil => rfl
  | cons selection selections ih => rw [withEarlier, List.map_cons, ih]

lemma withEarlier_concat (earlier selections : List Selection) (selection : Selection) :
    withEarlier earlier (selections ++ [selection]) =
      withEarlier earlier selections ++ [(earlier ++ selections, selection)] := by
  induction selections generalizing earlier with
  | nil => simp [withEarlier]
  | cons first selections ih =>
    rw [List.cons_append, withEarlier, ih, withEarlier, List.append_assoc, List.singleton_append,
      List.cons_append]

lemma firsts_concat (selections : List Selection) (selection : Selection) :
    firsts (selections ++ [selection]) =
      if selections.any (·.same selection) then firsts selections
      else firsts selections ++ [selection] := by
  rw [firsts, withEarlier_concat, List.filter_append, List.map_append, ← firsts, List.nil_append]
  by_cases h : selections.any (·.same selection) = true
  · rw [List.filter_cons_of_neg (by simpa [isRepetition] using h), if_pos h]
    exact List.append_nil _
  · rw [List.filter_cons_of_pos (by simpa [isRepetition] using h), if_neg h]
    rfl

lemma firsts_subset (selections : List Selection) : firsts selections ⊆ selections := by
  intro selection hselection
  obtain ⟨place, hplace, rfl⟩ := List.mem_map.mp hselection
  rw [← map_withEarlier [] selections]
  exact List.mem_map_of_mem (List.mem_filter.mp hplace).1

/-- Everything is a repetition or none. -/
lemma length_eq_repetitions_add_firsts (selections : List Selection) :
    selections.length = (repetitions selections).length + (firsts selections).length := by
  have hall := congrArg List.length (map_withEarlier [] selections)
  rw [List.length_map, List.length_eq_length_filter_add isRepetition] at hall
  rw [repetitions, firsts, List.length_map, List.length_map, hall]

lemma same_trans {a b c : Selection} (hab : a.same b = true) (hbc : b.same c = true) :
    a.same c = true := by
  obtain ⟨hkey, hvalue⟩ := Bool.and_eq_true_iff.mp hab
  obtain ⟨hkey', hvalue'⟩ := Bool.and_eq_true_iff.mp hbc
  exact Bool.and_eq_true_iff.mpr
    ⟨beq_iff_eq.mpr ((beq_iff_eq.mp hkey).trans (beq_iff_eq.mp hkey')), Literal.same_trans hvalue hvalue'⟩

/-- What is looked up in the selections that were no repetitions can be looked up in all of them. -/
lemma repeatedAfter_eq (h : ∀ s : Selection, seen.any (·.same s) = earlier.any (·.same s)) :
    repeatedAfter seen selections = ((withEarlier earlier selections).filter isRepetition).map (·.2) := by
  induction selections generalizing seen earlier with
  | nil => rfl
  | cons selection selections ih =>
    rw [repeatedAfter, withEarlier]
    by_cases hseen : seen.any (·.same selection) = true
    · have hrepeated : isRepetition (earlier, selection) = true := (h selection).symm.trans hseen
      have hlater : ∀ s : Selection, seen.any (·.same s) = (earlier ++ [selection]).any (·.same s) := by
        intro s
        rw [List.any_append, ← h s, List.any_cons, List.any_nil, Bool.or_false]
        by_cases hs : selection.same s = true
        · obtain ⟨t, ht, hsame⟩ := List.any_eq_true.mp hseen
          have hrepeats : t.same s = true := same_trans hsame hs
          rw [List.any_eq_true.mpr ⟨t, ht, hrepeats⟩, Bool.true_or]
        · rw [Bool.eq_false_iff.mpr hs, Bool.or_false]
      rw [if_pos hseen, List.filter_cons_of_pos hrepeated, List.map_cons, ih hlater]
    · have hnew : ¬ isRepetition (earlier, selection) = true := fun hrepeated =>
        hseen ((h selection).trans hrepeated)
      have hlater : ∀ s : Selection,
          (seen ++ [selection]).any (·.same s) = (earlier ++ [selection]).any (·.same s) := by
        intro s
        rw [List.any_append, List.any_append, h s]
      rw [if_neg hseen, List.filter_cons_of_neg hnew, ih hlater]

theorem duplicates_eq_repetitions (selections : List Selection) :
    duplicates selections = repetitions selections := repeatedAfter_eq fun _ => rfl

/-- The members that are selected from the dimension that is written like this, without the later one of two
that are the same. -/
def valuesOf (selections : List Selection) (text : String) : List Literal :=
  ((selections.filter (·.key == text)).map (·.2)).eraseDupsBy Literal.same

/-- A member is there already exactly if its selection is a repetition. -/
lemma any_valuesOf (selections : List Selection) (selection : Selection) :
    (valuesOf selections selection.key).any (·.same selection.2) =
      selections.any (·.same selection) := by
  have hcomm : (fun value : Literal => value.same selection.2) = selection.2.same :=
    funext fun value => Literal.same_comm value selection.2
  rw [hcomm, valuesOf, any_eraseDupsBy @Literal.same_trans, ← hcomm, List.any_map, List.any_filter]
  rfl

lemma valuesOf_concat (selections : List Selection) (selection : Selection) (text : String) :
    valuesOf (selections ++ [selection]) text =
      if selection.key = text ∧ selections.any (·.same selection) = false then
        valuesOf selections text ++ [selection.2]
      else valuesOf selections text := by
  rw [valuesOf, List.filter_append, List.map_append]
  by_cases hkey : selection.key = text
  · subst hkey
    have hlast : ([selection].filter (·.key == selection.key)).map (·.2) = [selection.2] := by simp
    have hadded := any_valuesOf selections selection
    simp only [Literal.same_comm _ selection.2] at hadded
    rw [hlast, eraseDupsBy_concat, ← valuesOf, hadded]
    cases selections.any (·.same selection) <;> simp
  · rw [List.filter_cons_of_neg (by simpa using hkey), if_neg fun h => hkey h.1]
    exact congrArg _ (List.append_nil _)

/-- The members are those of the selections that are no repetitions. -/
lemma valuesOf_eq_firsts (selections : List Selection) (text : String) :
    valuesOf selections text = ((firsts selections).filter (·.key == text)).map (·.2) := by
  induction selections using List.reverseRecOn with
  | nil => rfl
  | append_singleton selections selection ih =>
    rw [valuesOf_concat, firsts_concat, ih]
    by_cases hrepeated : selections.any (·.same selection) = true
    · rw [if_pos hrepeated, if_neg (by simp [hrepeated])]
    · rw [if_neg hrepeated, List.filter_append, List.map_append]
      rw [Bool.not_eq_true] at hrepeated
      by_cases hkey : selection.key = text
      · rw [if_pos ⟨hkey, hrepeated⟩, List.filter_cons_of_pos (by simpa using hkey)]
        rfl
      · rw [if_neg fun h => hkey h.1, List.filter_cons_of_neg (by simpa using hkey)]
        exact (List.append_nil _).symm

/-! ## Grouping -/

/-- The first selection from each dimension. -/
def heads (selections : List Selection) : List Selection :=
  selections.eraseDupsBy fun a b => a.key == b.key

/-- A filter after one more selection: a new member of its dimension is added. -/
def extend (selection : Selection) (filter : MemberFilter) : MemberFilter :=
  if filter.dimension.reference.text = selection.key ∧ filter.values.any (·.same selection.2) = false then
    { filter with values := filter.values ++ [selection.2] }
  else filter

lemma extend_of_ne {filter : MemberFilter} (h : filter.dimension.reference.text ≠ selection.key) :
    extend selection filter = filter := if_neg fun hsame => h hsame.1

/-- What is selected from a dimension with a filter is looked up in that. -/
lemma addTo_old {filters : List MemberFilter}
    (hnodup : (filters.map (·.dimension.reference.text)).Nodup)
    (h : selection.key ∈ filters.map (·.dimension.reference.text)) :
    addTo selection filters = filters.map (extend selection) := by
  induction filters with
  | nil => cases h
  | cons filter filters ih =>
    rw [List.map_cons, List.nodup_cons] at hnodup
    rw [List.map_cons, addTo]
    by_cases hkey : filter.dimension.reference.text = selection.key
    · have hothers : filters.map (extend selection) = filters := by
        refine (List.map_congr_left fun other hother => extend_of_ne fun hsame => ?_).trans (List.map_id _)
        exact hnodup.1 (List.mem_map.mpr ⟨other, hother, hsame.trans hkey.symm⟩)
      rw [hothers, if_pos (beq_iff_eq.mpr hkey), extend]
      cases filter.values.any (·.same selection.2) <;> simp [hkey]
    · rw [List.map_cons, List.mem_cons] at h
      rw [if_neg (by simpa using hkey), extend_of_ne hkey, ih hnodup.2 (h.resolve_left (Ne.symm hkey))]

lemma group_concat (selections : List Selection) (selection : Selection) :
    group (selections ++ [selection]) = addTo selection (group selections) := by
  rw [group, List.foldl_append]
  rfl

lemma mem_texts_group :
    text ∈ (group selections).map (·.dimension.reference.text) ↔ text ∈ selections.map key := by
  induction selections using List.reverseRecOn with
  | nil => rfl
  | append_singleton selections selection ih =>
    rw [group_concat, mem_texts_addTo, ih, List.map_append, List.mem_append, List.map_singleton,
      List.mem_singleton, or_comm]

lemma valuesOf_of_notMem (h : text ∉ selections.map key) : valuesOf selections text = [] := by
  have hnone : selections.filter (·.key == text) = [] := by
    refine List.filter_eq_nil_iff.mpr fun selection hselection hkey => h ?_
    exact List.mem_map.mpr ⟨selection, hselection, beq_iff_eq.mp hkey⟩
  rw [valuesOf, hnone]
  rfl

/-- The filter of the dimension of a selection. -/
def filterOf (selections : List Selection) (head : Selection) : MemberFilter :=
  ⟨head.1, valuesOf selections head.key⟩

lemma filterOf_concat (selections : List Selection) (selection head : Selection) :
    filterOf (selections ++ [selection]) head = extend selection (filterOf selections head) := by
  rw [filterOf, valuesOf_concat]
  by_cases hkey : head.key = selection.key
  · have hadded : (filterOf selections head).values.any (·.same selection.2) =
        selections.any (·.same selection) := by
      rw [filterOf, hkey]
      exact any_valuesOf selections selection
    rw [extend, hadded]
    by_cases hnew : selections.any (·.same selection) = false
    · rw [if_pos ⟨hkey.symm, hnew⟩, if_pos ⟨hkey, hnew⟩]
      rfl
    · rw [if_neg fun h => hnew h.2, if_neg fun h => hnew h.2]
      rfl
  · have hother : extend selection (filterOf selections head) = filterOf selections head :=
      extend_of_ne hkey
    rw [if_neg fun h => hkey h.1.symm, hother]
    rfl

/-- There is a filter for each dimension, that of its first selection, with the members of all of them. -/
theorem group_eq (selections : List Selection) :
    group selections = (heads selections).map (filterOf selections) := by
  induction selections using List.reverseRecOn with
  | nil => rfl
  | append_singleton selections selection ih =>
    have hkeys : (group selections).map (·.dimension.reference.text) = (heads selections).map key := by
      rw [ih, List.map_map]
      rfl
    have hold : (heads selections).any (selection.key == ·.key) = true ↔
        selection.key ∈ (group selections).map (·.dimension.reference.text) := by
      rw [hkeys, List.mem_map, List.any_eq_true]
      simp only [beq_iff_eq, @eq_comm _ selection.key]
    have hheads : heads (selections ++ [selection]) =
        if (heads selections).any (selection.key == ·.key) then heads selections
        else heads selections ++ [selection] := eraseDupsBy_concat selections selection
    rw [group_concat, hheads]
    by_cases hmem : selection.key ∈ (group selections).map (·.dimension.reference.text)
    · rw [if_pos (hold.mpr hmem), addTo_old (areGrouped_group selections).nodup hmem, ih, List.map_map]
      exact List.map_congr_left fun head _ => (filterOf_concat selections selection head).symm
    · rw [if_neg fun h => hmem (hold.mp h), addTo_new hmem, ih, List.map_append, List.map_singleton]
      congr 1
      · refine List.map_congr_left fun head hhead => ?_
        have hkey : head.key ≠ selection.key := fun hsame =>
          hmem (hkeys ▸ hsame ▸ List.mem_map_of_mem hhead)
        exact ((filterOf_concat selections selection head).trans (extend_of_ne hkey)).symm
      · -- its dimension is new, so that it has nothing but this member
        have hnone : valuesOf selections selection.key = [] :=
          valuesOf_of_notMem fun h => hmem (mem_texts_group.mpr h)
        have hnew : (filterOf selections selection).values.any (·.same selection.2) = false := by
          rw [filterOf, hnone, List.any_nil]
        rw [filterOf_concat, extend, if_pos ⟨rfl, hnew⟩, filterOf, hnone, List.nil_append]

lemma texts_group (selections : List Selection) :
    (group selections).map (·.dimension.reference.text) = (selections.map key).eraseDups := by
  rw [group_eq, List.map_map]
  exact map_eraseDupsBy key (· == ·) selections

lemma values_of_mem_group {filter : MemberFilter} (h : filter ∈ group selections) :
    filter.values = valuesOf selections filter.dimension.reference.text := by
  rw [group_eq] at h
  obtain ⟨head, -, rfl⟩ := List.mem_map.mp h
  rfl

/-- The selections that are no repetitions are as many as there are members in the filters. -/
lemma length_firsts (selections : List Selection) :
    (firsts selections).length = ((group selections).map (·.values.length)).sum := by
  have hall : ∀ selection ∈ firsts selections,
      selection.key ∈ (group selections).map (·.dimension.reference.text) := fun selection hselection =>
    mem_texts_group.mpr (List.mem_map_of_mem (firsts_subset selections hselection))
  rw [length_eq_sum_filter key (areGrouped_group selections).nodup _ hall, List.map_map]
  congr 1
  refine List.map_congr_left fun filter hfilter => ?_
  rw [values_of_mem_group hfilter, valuesOf_eq_firsts, List.length_map]
  rfl

/-- Grouping gives every dimension as it is written one filter, in the order in which they come first, with
the members that are selected from it, without later repetitions. The repetitions are the duplicates, so that
nothing is lost, and what the filters select is grouped to the same filters again. -/
theorem group_loses_nothing (selections : List Selection) :
    AreGrouped (group selections) ∧
      (group selections).map (·.dimension.reference.text) = (selections.map key).eraseDups ∧
      (∀ filter ∈ group selections,
        filter.values = valuesOf selections filter.dimension.reference.text ∧
          filter.values =
            ((firsts selections).filter (·.key == filter.dimension.reference.text)).map (·.2)) ∧
      duplicates selections = repetitions selections ∧
      selections.length =
        (duplicates selections).length + ((group selections).map (·.values.length)).sum ∧
      group ((group selections).flatMap ofMemberFilter) = group selections := by
  have hgrouped := areGrouped_group selections
  refine ⟨hgrouped, texts_group selections, fun filter hfilter => ?_, duplicates_eq_repetitions selections,
    ?_, group_flatMap hgrouped⟩
  · have hvalues := values_of_mem_group hfilter
    exact ⟨hvalues, hvalues.trans (valuesOf_eq_firsts selections _)⟩
  · rw [duplicates_eq_repetitions, ← length_firsts]
    exact length_eq_repetitions_add_firsts selections

/-- `1.0` is the member that `1` was, also with another dimension in between. -/
example :
    let year : DimensionRef := ⟨.dimension "Year", none⟩
    let city : DimensionRef := ⟨.dimension "City", none⟩
    let tenTenths : Decimal := ⟨false, 10, 1, by decide, by decide⟩
    duplicates [(year, .number .one), (city, .string "Paris"), (year, .number tenTenths)] =
      [(year, .number tenTenths)] := by decide +kernel

end Selection

end OlapFormula
