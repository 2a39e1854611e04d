import Mathlib.Data.List.Nodup
import OlapFormula.Proofs.Decimal.Reading
import OlapFormula.Proofs.Restriction.Grouping

/-!
# What filters select

A filter is true or false once every dimension has a member. Grouping forgets how `AND` and `OR` combine
the conditions of a filter: a restricted measure selects what meets one condition on each dimension that
is named. For filters that could not be meant otherwise that is the same.
-/

namespace OlapFormula

namespace Literal

variable {a b c : Literal}

lemma same_self (a : Literal) : a.same a = true := by
  cases a with
  | number value => exact (Decimal.same_iff value value).mpr rfl
  | string _ | boolean _ => exact beq_self_eq_true _
  | null => rfl

lemma same_symm (h : a.same b = true) : b.same a = true := by
  cases a <;> cases b <;> first | cases h | skip
  · exact (Decimal.same_iff ..).mpr ((Decimal.same_iff ..).mp h).symm
  · exact beq_iff_eq.mpr (beq_iff_eq.mp h).symm
  · exact beq_iff_eq.mpr (beq_iff_eq.mp h).symm
  · rfl

lemma same_trans (hab : a.same b = true) (hbc : b.same c = true) : a.same c = true := by
  cases a <;> cases b <;> first | cases hab | cases c <;> first | cases hbc | skip
  · next a b c =>
    have hself : c.same c = true := same_self (.number c)
    exact (Decimal.same_congr (same_symm hab) hself).mpr hbc
  · exact beq_iff_eq.mpr ((beq_iff_eq.mp hab).trans (beq_iff_eq.mp hbc))
  · exact beq_iff_eq.mpr ((beq_iff_eq.mp hab).trans (beq_iff_eq.mp hbc))
  · exact hbc

end Literal

/-- A member of each dimension as it is written. -/
abbrev Assignment := String → Literal

namespace Selection

/-- The dimension has the selected member. -/
def Holds (x : Assignment) (selection : Selection) : Prop :=
  (x selection.key).same selection.2 = true

/-- Of the selections from one dimension one holds, for each dimension. -/
def Meets (x : Assignment) (selections : List Selection) : Prop :=
  ∀ selection ∈ selections, ∃ other ∈ selections, other.key = selection.key ∧ other.Holds x

end Selection

/-- The dimension has one of the members. -/
def MemberFilter.Holds (x : Assignment) (filter : MemberFilter) : Prop :=
  ∃ value ∈ filter.values, (x filter.dimension.reference.text).same value = true

instance (x : Assignment) (filter : MemberFilter) : Decidable (filter.Holds x) :=
  inferInstanceAs
    (Decidable (∃ value ∈ filter.values, (x filter.dimension.reference.text).same value = true))

namespace Node

mutual

/-- The truth of a filter: `AND` and `OR` are what they say. -/
def holds (x : Assignment) : Node → Bool
  | call .and args => holdsAll x args
  | call .or args => holdsAny x args
  | call .equal [dimension ref, const value] => (x ref.reference.text).same value
  | _ => false

def holdsAll (x : Assignment) : List Node → Bool
  | [] => true
  | node :: nodes => holds x node && holdsAll x nodes

def holdsAny (x : Assignment) : List Node → Bool
  | [] => false
  | node :: nodes => holds x node || holdsAny x nodes

end

lemma holdsAll_iff {x : Assignment} {nodes : List Node} :
    holdsAll x nodes = true ↔ ∀ node ∈ nodes, node.holds x = true := by
  induction nodes with
  | nil => simp [holdsAll]
  | cons node nodes ih => simp [holdsAll, ih]

lemma holdsAny_iff {x : Assignment} {nodes : List Node} :
    holdsAny x nodes = true ↔ ∃ node ∈ nodes, node.holds x = true := by
  induction nodes with
  | nil => simp [holdsAny]
  | cons node nodes ih => simp [holdsAny, ih]

lemma holds_and {x : Assignment} {args : List Node} :
    (Node.call .and args).holds x = true ↔ ∀ arg ∈ args, arg.holds x = true := by
  rw [holds, holdsAll_iff]

lemma holds_or {x : Assignment} {args : List Node} :
    (Node.call .or args).holds x = true ↔ ∃ arg ∈ args, arg.holds x = true := by
  rw [holds, holdsAny_iff]

/-- A filter is built from conditions by `AND` and `OR`, none of which is without operands. -/
inductive IsFilter : Node → Prop
  | condition {selection : Selection} : selection.2 ≠ .null → IsFilter selection.condition
  | and {args : List Node} : args ≠ [] → (∀ arg ∈ args, IsFilter arg) → IsFilter (.call .and args)
  | or {args : List Node} : args ≠ [] → (∀ arg ∈ args, IsFilter arg) → IsFilter (.call .or args)

end Node

namespace Selection

open Node

variable {x y : Assignment} {selections : List Selection} {node : Node} {args : List Node}

lemma meets_singleton {selection : Selection} : Meets x [selection] ↔ selection.Holds x := by
  simp [Meets]

lemma meets_congr (h : ∀ s ∈ selections, s.Holds x ↔ s.Holds y) :
    Meets x selections ↔ Meets y selections :=
  forall₂_congr fun _ _ => exists_congr fun t => and_congr_right fun ht =>
    and_congr_right fun _ => h t ht

lemma holds_condition {selection : Selection} :
    selection.condition.holds x = true ↔ selection.Holds x := Iff.rfl

lemma flatten_condition {selection : Selection} (h : selection.2 ≠ .null) :
    flatten selection.condition = [selection] := by
  obtain ⟨ref, value⟩ := selection
  cases value with
  | null => exact absurd rfl h
  | number _ | string _ | boolean _ => rfl

lemma ofFilters?_eq (h : ∀ arg ∈ args, ofFilter? arg = some (flatten arg)) :
    ofFilters? args = some (args.flatMap flatten) := by
  induction args with
  | nil => rfl
  | cons arg args ih =>
    obtain ⟨harg, hargs⟩ := List.forall_mem_cons.mp h
    simp [ofFilters?, harg, ih hargs]

lemma ofFilter?_eq (h : node.IsFilter) : ofFilter? node = some (flatten node) := by
  induction h with
  | @condition selection hvalue =>
    obtain ⟨ref, value⟩ := selection
    cases value with
    | null => exact absurd rfl hvalue
    | number _ | string _ | boolean _ => rfl
  | and _ _ ih =>
    rw [flatten, ofFilter?, ofFilters?_eq ih]
    rfl
  | or _ _ ih =>
    rw [flatten, ofFilter?, ofFilters?_eq ih]
    rfl

lemma flatten_and (h : ∀ arg ∈ args, arg.IsFilter) :
    flatten (.call .and args) = args.flatMap flatten := by
  rw [flatten, ofFilter?, ofFilters?_eq fun arg harg => ofFilter?_eq (h arg harg)]
  rfl

lemma flatten_or (h : ∀ arg ∈ args, arg.IsFilter) :
    flatten (.call .or args) = args.flatMap flatten := by
  rw [flatten, ofFilter?, ofFilters?_eq fun arg harg => ofFilter?_eq (h arg harg)]
  rfl

lemma exists_mem_flatten (h : node.IsFilter) : ∃ selection, selection ∈ flatten node := by
  induction h with
  | @condition selection hvalue => exact ⟨selection, by simp [flatten_condition hvalue]⟩
  | @and args hnonempty hall ih =>
    obtain ⟨arg, rest, rfl⟩ := List.exists_cons_of_ne_nil hnonempty
    obtain ⟨selection, hmem⟩ := ih arg (List.mem_cons_self ..)
    rw [flatten_and hall]
    exact ⟨selection, List.mem_flatMap.mpr ⟨arg, List.mem_cons_self .., hmem⟩⟩
  | @or args hnonempty hall ih =>
    obtain ⟨arg, rest, rfl⟩ := List.exists_cons_of_ne_nil hnonempty
    obtain ⟨selection, hmem⟩ := ih arg (List.mem_cons_self ..)
    rw [flatten_or hall]
    exact ⟨selection, List.mem_flatMap.mpr ⟨arg, List.mem_cons_self .., hmem⟩⟩

lemma ne_null_of_mem_flatten (h : node.IsFilter) {selection : Selection}
    (hmem : selection ∈ flatten node) : selection.2 ≠ .null :=
  (areMadeIn_ofFilter? (ofFilter?_eq h) selection hmem).1

/-- The truth of a filter depends on the truth of its conditions only. -/
lemma holds_congr (h : node.IsFilter) (hxy : ∀ s ∈ flatten node, s.Holds x ↔ s.Holds y) :
    node.holds x = true ↔ node.holds y = true := by
  induction h with
  | @condition selection hvalue =>
    rw [flatten_condition hvalue] at hxy
    exact hxy selection (List.mem_singleton_self _)
  | @and args _ hall ih =>
    rw [flatten_and hall] at hxy
    rw [holds_and, holds_and]
    exact forall₂_congr fun arg harg =>
      ih arg harg fun s hs => hxy s (List.mem_flatMap.mpr ⟨arg, harg, hs⟩)
  | @or args _ hall ih =>
    rw [flatten_or hall] at hxy
    rw [holds_or, holds_or]
    exact exists_congr fun arg => and_congr_right fun harg =>
      ih arg harg fun s hs => hxy s (List.mem_flatMap.mpr ⟨arg, harg, hs⟩)

/-- The filter of the dimension has a member that is the same as the selected one. -/
def Covers (filters : List MemberFilter) (selection : Selection) : Prop :=
  ∃ filter ∈ filters, filter.dimension.reference.text = selection.key ∧
    ∃ value ∈ filter.values, value.same selection.2 = true

lemma covers_addTo_self (selection : Selection) (filters : List MemberFilter) :
    Covers (addTo selection filters) selection := by
  induction filters with
  | nil => exact ⟨_, List.mem_singleton_self _, rfl, _, List.mem_singleton_self _, Literal.same_self _⟩
  | cons filter filters ih =>
    unfold addTo
    by_cases hkey : filter.dimension.reference.text == selection.key
    · rw [if_pos hkey]
      split
      · next hany =>
        obtain ⟨value, hvalue, hsame⟩ := List.any_eq_true.mp hany
        exact ⟨filter, List.mem_cons_self .., eq_of_beq hkey, value, hvalue, hsame⟩
      · exact ⟨_, List.mem_cons_self .., eq_of_beq hkey, selection.2, by simp, Literal.same_self _⟩
    · rw [if_neg hkey]
      obtain ⟨found, hfound, hcovers⟩ := ih
      exact ⟨found, List.mem_cons_of_mem _ hfound, hcovers⟩

lemma Covers.addTo {filters : List MemberFilter} {selection : Selection}
    (h : Covers filters selection) (other : Selection) : Covers (addTo other filters) selection := by
  induction filters with
  | nil =>
    obtain ⟨_, hmem, -⟩ := h
    cases hmem
  | cons filter filters ih =>
    obtain ⟨found, hfound, hkey, value, hvalue, hsame⟩ := h
    unfold Selection.addTo
    rcases List.mem_cons.mp hfound with rfl | hfound
    · split
      · split
        · exact ⟨found, List.mem_cons_self .., hkey, value, hvalue, hsame⟩
        · exact ⟨_, List.mem_cons_self .., hkey, value, List.mem_append_left _ hvalue, hsame⟩
      · exact ⟨found, List.mem_cons_self .., hkey, value, hvalue, hsame⟩
    · split
      · split
        · exact ⟨found, List.mem_cons_of_mem _ hfound, hkey, value, hvalue, hsame⟩
        · exact ⟨found, List.mem_cons_of_mem _ hfound, hkey, value, hvalue, hsame⟩
      · obtain ⟨again, hagain, hcovers⟩ := ih ⟨found, hfound, hkey, value, hvalue, hsame⟩
        exact ⟨again, List.mem_cons_of_mem _ hagain, hcovers⟩

/-- No selection is lost when they are grouped. -/
theorem covers_group : ∀ selection ∈ selections, Covers (group selections) selection := by
  have hall : ∀ (rest : List Selection) filters selection, selection ∈ rest ∨ Covers filters selection →
      Covers (rest.foldl (fun filters selection => addTo selection filters) filters) selection := by
    intro rest
    induction rest with
    | nil => exact fun _ _ h => h.resolve_left List.not_mem_nil
    | cons first rest ih =>
      intro filters selection h
      refine ih _ selection ?_
      rcases h with hmem | hcovers
      · rcases List.mem_cons.mp hmem with rfl | hmem
        · exact Or.inr (covers_addTo_self _ _)
        · exact Or.inl hmem
      · exact Or.inr (hcovers.addTo first)
  exact fun selection hselection => hall selections [] selection (Or.inl hselection)

/-- The filters that selections are grouped to hold if one selection from each dimension does. -/
theorem holds_group_iff :
    (∀ filter ∈ group selections, filter.Holds x) ↔ Meets x selections := by
  constructor
  · intro h selection hselection
    obtain ⟨filter, hfilter, hkey, -⟩ := covers_group selection hselection
    obtain ⟨value, hvalue, hsame⟩ := h filter hfilter
    obtain ⟨other, hother, hkey', rfl⟩ := (comesFrom_group selections filter hfilter).values value hvalue
    refine ⟨other, hother, hkey'.trans hkey, ?_⟩
    rw [Holds, hkey']
    exact hsame
  · intro h filter hfilter
    obtain ⟨value, hmem⟩ := (comesFrom_group selections filter hfilter).dimension
    obtain ⟨other, hother, hkey, hholds⟩ := h _ hmem
    obtain ⟨found, hfound, hkey', value', hvalue', hsame⟩ := covers_group other hother
    -- Each dimension has one filter only.
    obtain rfl : found = filter :=
      List.inj_on_of_nodup_map (areGrouped_group selections).nodup hfound hfilter (hkey'.trans hkey)
    refine ⟨value', hvalue', ?_⟩
    rw [hkey']
    exact Literal.same_trans hholds (Literal.same_symm hsame)

end Selection

end OlapFormula
