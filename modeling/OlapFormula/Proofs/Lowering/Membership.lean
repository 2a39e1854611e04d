import OlapFormula.Proofs.Decimal.Value
import OlapFormula.Proofs.Lowering.Normal

/-!
# Membership of constants

A constant in a list of constants is rewritten to a chain of comparisons, which is folded comparison by
comparison. What comes of it is membership, provided that all the constants are of one kind; otherwise a
comparison stays as it is, and with it the chain.
-/

namespace OlapFormula

namespace Literal

/-- Equality of constants, of numbers by value. -/
def Equals : Literal → Literal → Prop
  | number a, number b => a.value = b.value
  | a, b => a = b

/-- The constant and those of a list are all numbers, all strings or all booleans. -/
def IsOfKindOf (c : Literal) (values : List Literal) : Prop :=
  ∃ type ∈ [DataType.number, .string, .boolean], c.type = type ∧ ∀ value ∈ values, value.type = type

/-- Two constants of one kind have a value when they are compared. -/
def isComparable (c value : Literal) : Bool := c.type == value.type && c.type != .unknown

variable {c value : Literal} {values : List Literal}

lemma same_iff_equals (h : c.isComparable value = true) : c.same value = true ↔ c.Equals value := by
  cases c <;> cases value <;> first
    | exact Decimal.same_iff_value_eq
    | exact beq_iff_eq.trans (by simp [Equals])
    | cases h

lemma isOfKindOf_iff : c.IsOfKindOf values ↔
    c.type ≠ .unknown ∧ ∀ value ∈ values, c.isComparable value = true := by
  simp only [IsOfKindOf, isComparable, Bool.and_eq_true, beq_iff_eq, bne_iff_ne]
  constructor
  · rintro ⟨type, htype, hc, hvalues⟩
    have hknown : c.type ≠ .unknown := by
      rintro hunknown
      rw [← hc, hunknown] at htype
      simp at htype
    exact ⟨hknown, fun value hvalue => ⟨hc.trans (hvalues value hvalue).symm, hknown⟩⟩
  · rintro ⟨hknown, hvalues⟩
    refine ⟨c.type, ?_, rfl, fun value hvalue => (hvalues value hvalue).1.symm⟩
    cases c <;> simp_all [type]

/-- A constant compares with all elements of a list if there are none or they are of its kind. -/
lemma all_isComparable_iff :
    values.all c.isComparable = true ↔ values = [] ∨ c.IsOfKindOf values := by
  rw [List.all_eq_true, isOfKindOf_iff]
  cases values with
  | nil => simp
  | cons first rest =>
    have hknown (h : c.isComparable first = true) : c.type ≠ .unknown := by
      simpa using (Bool.and_eq_true_iff.mp h).2
    simp only [reduceCtorEq, false_or]
    exact ⟨fun h => ⟨hknown (h first (List.mem_cons_self ..)), h⟩, fun h => h.2⟩

end Literal

namespace Node

variable {order : DateOrder}

/-- The truth value that a node is, if it is one. -/
def truth? (node : Node) : Option Bool := node.literal?.bind Literal.boolean?

lemma truth?_eq_some_iff {node : Node} {b : Bool} : node.truth? = some b ↔ node = .boolean b := by
  cases node with
  | const value => cases value <;> simp [truth?, literal?, Literal.boolean?, Node.boolean]
  | _ => simp [truth?, literal?, Node.boolean]

/-- The comparison of a constant with an element of a list. -/
def compared (excluded : Bool) (c value : Literal) : Node :=
  .call (if excluded then .notEqual else .equal) [.const c, .const value]

lemma compare_string_eq (a b : String) : (compare a b == .eq) = (a == b) := by
  rw [Bool.eq_iff_iff, beq_iff_eq, beq_iff_eq]
  exact Std.LawfulEqCmp.compare_eq_iff_eq

/-- Two constants are compared by their equality, if they are of one kind. -/
lemma ofConstants_comparison (excluded : Bool) (c value : Literal) :
    Folding.ofConstants (if excluded then .notEqual else .equal) [c, value] =
      if c.isComparable value then some (.boolean (c.same value != excluded)) else none := by
  cases excluded <;> cases c <;> cases value <;> first
    | rfl
    | simp [Folding.ofConstants, allOf, Literal.number?, Literal.string?, Literal.boolean?,
        Folding.compareNumbers, Folding.compareStrings, Folding.ofBooleans, Folding.ofOrdering,
        Literal.isComparable, Literal.type, Literal.same, Decimal.same, bne, compare_string_eq]

lemma truth?_compared (excluded : Bool) (c value : Literal) (budget : Nat) :
    truth? (bottomUp (lowerWithin order budget) (compared excluded c value)) =
      if c.isComparable value then some (c.same value != excluded) else none := by
  have hargs : ∀ arg ∈ [Node.const c, Node.const value], IsNormal order arg :=
    forall_mem_pair.mpr ⟨isNormal_const c, isNormal_const value⟩
  have hrewrite : (compared excluded c value).rewrite? order = none := by
    cases excluded <;> rfl
  have hfold : (compared excluded c value).fold? order =
      (Folding.ofConstants (if excluded then .notEqual else .equal) [c, value]).map .const := by
    cases excluded <;> simp [compared, fold?, literals?, literal?, Option.map_eq_bind]
  have hlowered : bottomUp (lowerWithin order budget) (compared excluded c value) =
      folded order (compared excluded c value) := by
    rw [← lowerWithin_of_rewrite? hrewrite budget, compared, bottomUp,
      bottomUps_eq_self fun arg harg => (hargs arg harg).bottomUp_eq budget]
  rw [hlowered, folded, hfold, ofConstants_comparison]
  cases c.isComparable value <;> rfl

/-- A connective of two nodes has a truth value if both of them have one. -/
lemma truth?_join (excluded : Bool) (a b : Node) :
    truth? (folded order (.call (if excluded then .and else .or) [a, b])) =
      a.truth?.bind fun x => b.truth?.map fun y => if excluded then x && y else x || y := by
  cases a with
  | const u =>
    cases b with
    | const v =>
      cases excluded <;> cases u <;> cases v <;> first
        | rfl
        | simp [truth?, literal?, Literal.boolean?, folded, fold?, literals?, Folding.ofConstants, allOf,
            Folding.ofBooleans]
    | _ => cases excluded <;> cases u <;> rfl
  | _ => cases excluded <;> rfl

/-- The chain has a truth value if the constant compares with every element. -/
lemma truth?_chain (excluded : Bool) (c first : Literal) (rest : List Literal) (budget : Nat) :
    truth? (bottomUp (lowerWithin order budget)
        (Rewriting.joinRight (if excluded then .and else .or) (compared excluded c first)
          (rest.map (compared excluded c)))) =
      if (first :: rest).all c.isComparable then some ((first :: rest).any c.same != excluded)
      else none := by
  induction rest generalizing first with
  | nil => simp [Rewriting.joinRight, truth?_compared]
  | cons second rest ih =>
    have hrewrite (a b : Node) :
        (Node.call (if excluded then .and else .or) [a, b]).rewrite? order = none := by
      cases excluded <;> rfl
    rw [List.map_cons, Rewriting.joinRight, bottomUp, bottomUps, bottomUps, bottomUps,
      lowerWithin_of_rewrite? (hrewrite _ _), truth?_join, truth?_compared, ih,
      List.all_cons (l := second :: rest), List.any_cons (l := second :: rest)]
    -- Both sides are Boolean functions of what holds of the first element and of the others.
    generalize (second :: rest).all c.isComparable = compares, (second :: rest).any c.same = found
    generalize c.isComparable first = comparesFirst, c.same first = foundFirst
    cases excluded <;> cases comparesFirst <;> cases compares <;> cases foundFirst <;> cases found <;> rfl

lemma truth?_ofMembership (excluded : Bool) (c : Literal) (values : List Literal) (budget : Nat) :
    truth? (bottomUp (lowerWithin order budget)
        (Rewriting.ofMembership excluded (.const c) (values.map .const))) =
      if values.all c.isComparable then some (values.any c.same != excluded) else none := by
  cases values with
  | nil =>
    have hempty : Rewriting.ofMembership excluded (.const c) [] = .const (.boolean excluded) := rfl
    rw [List.map_nil, hempty, (isNormal_const _).bottomUp_eq budget]
    exact (truth?_eq_some_iff.mpr rfl).trans (by simp)
  | cons first rest =>
    rw [← truth?_chain, Rewriting.ofMembership, List.map_map, List.map_cons]
    rfl

lemma truth?_lower_membership (excluded : Bool) (c : Literal) (values : List Literal) :
    truth? (lower order (.call (if excluded then .notIn else .isIn) [.const c, .constList values])) =
      if values.all c.isComparable then some (values.any c.same != excluded) else none := by
  have hargs : ∀ arg ∈ [Node.const c, Node.constList values], IsNormal order arg :=
    forall_mem_pair.mpr ⟨isNormal_const c, isNormal_constList values⟩
  have hrewrite : (Node.call (if excluded then .notIn else .isIn)
      [.const c, .constList values]).rewrite? order =
      some (Rewriting.ofMembership excluded (.const c) (values.map .const)) := by
    cases excluded <;> rfl
  rw [lower, bottomUp, bottomUps_eq_self fun arg harg => (hargs arg harg).lower_eq,
    lowerRoot_of_rewrite? hrewrite, truth?_ofMembership]

/-- `IN` of constants has a value exactly if the list is empty or all the constants are of one kind; it is
then whether the list has an equal element, and `NOT IN` is the opposite. -/
theorem lower_membership_of_constants (order : DateOrder) (c : Literal) (values : List Literal) :
    let isIn := lower order (.call .isIn [.const c, .constList values])
    let notIn := lower order (.call .notIn [.const c, .constList values])
    ((∃ b, isIn = .boolean b) ↔ values = [] ∨ c.IsOfKindOf values) ∧
      ((∃ b, notIn = .boolean b) ↔ values = [] ∨ c.IsOfKindOf values) ∧
      (isIn = .boolean true ↔ c.IsOfKindOf values ∧ ∃ value ∈ values, c.Equals value) ∧
      ∀ b, notIn = .boolean b ↔ isIn = .boolean !b := by
  intro isIn notIn
  have hisIn : isIn.truth? = _ := truth?_lower_membership false c values
  have hnotIn : notIn.truth? = _ := truth?_lower_membership true c values
  simp only [← truth?_eq_some_iff, hisIn, hnotIn]
  by_cases hall : values.all c.isComparable = true
  · have hkind := Literal.all_isComparable_iff.mp hall
    have hsame {value : Literal} (hvalue : value ∈ values) : c.same value = true ↔ c.Equals value :=
      Literal.same_iff_equals (List.all_eq_true.mp hall value hvalue)
    simp only [hall, if_true, Option.some.injEq]
    refine ⟨iff_of_true ⟨_, rfl⟩ hkind, iff_of_true ⟨_, rfl⟩ hkind, ?_, fun b => ?_⟩
    · rw [Bool.bne_false, List.any_eq_true]
      constructor
      · rintro ⟨value, hvalue, h⟩
        have hlist : values ≠ [] := List.ne_nil_of_mem hvalue
        exact ⟨hkind.resolve_left hlist, value, hvalue, (hsame hvalue).mp h⟩
      · rintro ⟨-, value, hvalue, h⟩
        exact ⟨value, hvalue, (hsame hvalue).mpr h⟩
    · cases values.any c.same <;> cases b <;> simp
  · obtain ⟨hlist, hmixed⟩ := not_or.mp (mt Literal.all_isComparable_iff.mpr hall)
    simp [hall, hlist, hmixed]

end Node

end OlapFormula
