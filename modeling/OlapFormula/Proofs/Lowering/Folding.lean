import OlapFormula.Folding.Step
import OlapFormula.Proofs.Node.Induction

/-!
# What calls are folded to

A call is folded in one of four ways: `IF` picks a branch, `ISNULL` tells whether its argument is the null
constant, two dates are subtracted, and everything else is computed from constants.
-/

namespace OlapFormula.Node

variable {order : DateOrder} {kind : FunctionKind} {args : List Node} {value : Node}

/-- The call is folded to the value, for the reason that the case says. -/
inductive FoldsTo (order : DateOrder) : FunctionKind → List Node → Node → Prop
  | branch (condition : Bool) (value : Node) (otherwise : List Node) :
    FoldsTo order .ifThen (.boolean condition :: value :: otherwise)
      (Folding.ofIf condition value otherwise)
  | isNull (arg : Node) (found : Bool) : FoldsTo order .isNullHana [arg] (.boolean found)
  | difference {kind : FunctionKind} {a b : String} {value : Decimal} : kind.category = .date →
    Folding.ofDates order kind a b = some (.number value) →
    FoldsTo order kind [.string a, .string b] (.number value)
  | constants {kind : FunctionKind} {values : List Literal} {value : Literal} :
    Folding.ofConstants kind values = some value →
    FoldsTo order kind (values.map .const) (.const value)

lemma exists_number_of_ofDates {a b : String} (h : Folding.ofDates order kind a b = some value) :
    ∃ n, value = .number n := by
  simp only [Folding.ofDates, Option.bind_eq_bind, Option.bind_eq_some_iff, Option.pure_def] at h
  obtain ⟨_, -, _, -, h⟩ := h
  split at h
  case h_4 => simp at h
  all_goals
    simp only [Option.bind_some, Option.bind_eq_some_iff, Option.some.injEq] at h
    obtain ⟨n, -, rfl⟩ := h
    exact ⟨n, rfl⟩

lemma exists_boolean_of_ofIsNull {node : Node} (h : Folding.ofIsNull node = some value) :
    ∃ found, value = .boolean found := by
  unfold Folding.ofIsNull at h
  split at h
  · exact ⟨_, (Option.some.inj h).symm⟩
  · exact ⟨_, (Option.some.inj h).symm⟩
  · cases h

/-- The four ways are all there are. -/
theorem foldsTo_of_fold? (h : (Node.call kind args).fold? order = some value) :
    FoldsTo order kind args value := by
  have hdates {kind : FunctionKind} {a b : String} (hkind : kind.category = .date)
      (h : Folding.ofDates order kind a b = some value) :
      FoldsTo order kind [.string a, .string b] value := by
    obtain ⟨n, rfl⟩ := exists_number_of_ofDates h
    exact .difference hkind h
  unfold fold? at h
  dsimp only at h
  split at h
  · cases h
    exact .branch ..
  · obtain ⟨found, rfl⟩ := exists_boolean_of_ofIsNull h
    exact .isNull _ found
  · exact hdates rfl h
  · exact hdates rfl h
  · exact hdates rfl h
  · cases h
  · simp only [Option.bind_eq_bind, Option.bind_eq_some_iff, Option.pure_def,
      Option.some.injEq] at h
    obtain ⟨values, hvalues, c, hc, rfl⟩ := h
    rw [eq_map_const_of_literals? hvalues]
    exact .constants hc

/-- Only `IF` is folded to something else than a constant. -/
lemma FoldsTo.eq_const (h : FoldsTo order kind args value) (hkind : kind ≠ .ifThen) :
    ∃ c, value = .const c := by
  cases h with
  | branch => exact absurd rfl hkind
  | isNull _ found => exact ⟨.boolean found, rfl⟩
  | @difference _ _ _ n => exact ⟨.number n, rfl⟩
  | @constants _ _ c => exact ⟨c, rfl⟩

end OlapFormula.Node
