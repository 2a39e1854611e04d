import OlapFormula.Proofs.Lowering.Normal
import OlapFormula.Proofs.Restriction.Grouping

/-!
# Lowered filters

What the filter of one dimension is lowered to: a condition, or a chain of them joined by `OR`. It selects
what the filter selects.
-/

namespace OlapFormula

open Node

namespace Selection

variable {order : DateOrder} {ref : DimensionRef}

/-- One of the conditions holds: that on the first member, or one on the others. -/
def alternatives (ref : DimensionRef) (value : Literal) (values : List Literal) : Node :=
  Rewriting.joinRight .or (condition (ref, value)) (values.map fun value => condition (ref, value))

lemma alternatives_cons (ref : DimensionRef) (first second : Literal) (rest : List Literal) :
    alternatives ref first (second :: rest) =
      .call .or [condition (ref, first), alternatives ref second rest] := rfl

lemma isNormal_condition {selection : Selection}
    (h : selection.condition.rewrite? order = none) : IsNormal order selection.condition :=
  isNormal_call (forall_mem_pair.mpr ⟨isNormal_dimension _, isNormal_const _⟩) h rfl

lemma isNormal_alternatives {value : Literal} {values : List Literal}
    (h : ∀ v ∈ value :: values, (condition (ref, v)).rewrite? order = none) :
    IsNormal order (alternatives ref value values) := by
  induction values generalizing value with
  | nil => exact isNormal_condition (h value (List.mem_cons_self ..))
  | cons second rest ih =>
    obtain ⟨hfirst, hrest⟩ := List.forall_mem_cons.mp h
    rw [alternatives_cons]
    exact isNormal_call (forall_mem_pair.mpr ⟨isNormal_condition hfirst, ih hrest⟩) rfl rfl

lemma lowerRoot_condition {selection : Selection}
    (h : selection.condition.rewrite? order = none) :
    selection.condition.lowerRoot order = selection.condition :=
  (isNormal_condition h).here.lowerWithin_eq maxRewrites

/-- Membership is lowered to the alternatives. -/
lemma lowerRoot_isIn {value : Literal} {values : List Literal}
    (h : ∀ v ∈ value :: values, (condition (ref, v)).rewrite? order = none) :
    (Node.call .isIn [.dimension ref, .constList (value :: values)]).lowerRoot order =
      alternatives ref value values := by
  have hrewrite : (Node.call .isIn [.dimension ref, .constList (value :: values)]).rewrite? order =
      some (alternatives ref value values) := by
    simp only [rewrite?, Rewriting.membership?, Rewriting.elements?, Option.map_some,
      Rewriting.ofMembership, List.map_cons, List.map_map]
    rfl
  rw [lowerRoot_of_rewrite? hrewrite]
  exact (isNormal_alternatives h).bottomUp_eq 15

lemma ofFilter?_condition {value : Literal} (h : value ≠ .null) :
    ofFilter? (condition (ref, value)) = some [(ref, value)] := by
  cases value with
  | null => exact absurd rfl h
  | number _ | string _ | boolean _ => rfl

lemma ofFilter?_alternatives {value : Literal} {values : List Literal}
    (h : ∀ v ∈ value :: values, v ≠ .null) :
    ofFilter? (alternatives ref value values) = some ((value :: values).map (ref, ·)) := by
  induction values generalizing value with
  | nil => exact ofFilter?_condition (h value (List.mem_cons_self ..))
  | cons second rest ih =>
    obtain ⟨hfirst, hrest⟩ := List.forall_mem_cons.mp h
    rw [alternatives_cons, ofFilter?, ofFilters?, ofFilters?, ofFilters?, ofFilter?_condition hfirst,
      ih hrest]
    simp

lemma flatten_alternatives {value : Literal} {values : List Literal}
    (h : ∀ v ∈ value :: values, v ≠ .null) :
    flatten (alternatives ref value values) = (value :: values).map (ref, ·) := by
  rw [flatten, ofFilter?_alternatives h, Option.getD_some]

lemma type_alternatives (ref : DimensionRef) (value : Literal) (values : List Literal) :
    (alternatives ref value values).type = .dimensionFilter := by
  induction values generalizing value with
  | nil => rfl
  | cons second rest ih =>
    have hfirst : (condition (ref, value)).type = .dimensionFilter := rfl
    rw [alternatives_cons, Node.type, Node.types, Node.types, Node.types, hfirst, ih]
    rfl

end Selection

lemma RestrictedMeasure.lowerRoot_restrict {order : DateOrder} {base : Node} {filters : List Node}
    {derived : RestrictedMeasure} (h : ofArgs? base filters = some derived) :
    (Node.call .restrict (base :: filters)).lowerRoot order = .restricted derived := by
  have hrewrite : (Node.call .restrict (base :: filters)).rewrite? order =
      some (.restricted derived) := by
    simp only [rewrite?, h, Option.map_some]
  rw [lowerRoot_of_rewrite? hrewrite]
  exact (isNormal_restricted derived).bottomUp_eq 15

end OlapFormula
