import OlapFormula.Checks.Pipeline
import OlapFormula.Proofs.Decimal.Value
import OlapFormula.Proofs.Function.Catalog
import OlapFormula.Proofs.Lowering.Folding

/-!
# Functions without a value

Quotients, roots, logarithms and powers do not have a value for all numbers. Where they have none the check
says so, and the call is not folded. It says so of some powers too that would have a value, since for it the
negative zero is below zero, and an integer of more than 64 bits is a fraction.
-/

namespace OlapFormula

/-- Functions that do not have a value for all numbers. -/
def FunctionKind.isPartial : FunctionKind → Bool
  | divide | mod | sqrt | log | log10 | power => true
  | _ => false

lemma FunctionKind.category_ne_olap {kind : FunctionKind} (hkind : kind.isPartial = true) :
    kind.category ≠ .olap := by
  cases kind <;> first | decide | cases hkind

/-- What is wrong with numbers for which a function has no value. -/
inductive HasNoValue : FunctionKind → List Decimal → MessageCode → Prop
  | quotient {a b : Decimal} : b.value = 0 → HasNoValue .divide [a, b] .divideByZero
  | rest {a b : Decimal} : b.value = 0 → HasNoValue .mod [a, b] .divideByZero
  | root {a : Decimal} : a.value < 0 → HasNoValue .sqrt [a] .sqrtDomain
  | logarithm {a : Decimal} : a.value ≤ 0 → HasNoValue .log [a] .logDomain
  | decimalLogarithm {a : Decimal} : a.value ≤ 0 → HasNoValue .log10 [a] .logDomain
  | powerOfZero {a b : Decimal} : a.value = 0 → b.value < 0 → HasNoValue .power [a, b] .powerZeroNegative
  | powerOfNegative {a b : Decimal} : a.value < 0 → (∀ n : ℤ, b.value ≠ n) →
    HasNoValue .power [a, b] .powerNegativeFractional

/-- Powers that are taken for those of a negative number with a fraction for exponent: of a number below
zero with an exponent of more than 64 bits, and of the negative zero. -/
def IsTakenForFractional (a b : Decimal) : Prop :=
  a.value < 0 ∧ (∃ n : ℤ, b.value = n ∧ ¬ Decimal.IsInt64 n) ∨
    a.value = 0 ∧ a.negative = true ∧ 0 ≤ b.value ∧ ¬ ∃ n : ℤ, b.value = n ∧ Decimal.IsInt64 n

lemma IsTakenForFractional.exponent_not_int64 {a b : Decimal} (h : IsTakenForFractional a b) :
    a.negative = true ∧ ¬ ∃ n : ℤ, b.value = n ∧ Decimal.IsInt64 n := by
  rcases h with ⟨ha, n, hn, hrange⟩ | ⟨-, hnegative, -, hinteger⟩
  · refine ⟨(Decimal.value_lt_zero_iff.mp ha).1, ?_⟩
    rintro ⟨m, hm, hsmall⟩
    obtain rfl : m = n := Int.cast_injective (hm.symm.trans hn)
    exact hrange hsmall
  · exact ⟨hnegative, hinteger⟩

lemma IsTakenForFractional.not_zero_and_neg {a b : Decimal} (h : IsTakenForFractional a b) :
    ¬ (a.value = 0 ∧ b.value < 0) := by
  rintro ⟨hzero, hb⟩
  rcases h with ⟨ha, -⟩ | ⟨-, -, hb', -⟩
  · exact ha.ne hzero
  · exact hb'.not_gt hb

namespace Checks

variable {node base exponent : Node} {a b : Decimal} {code : MessageCode}

lemma codes_divisor (text : String) (h : node.constantNumber? = some b) :
    code ∈ (divisor text node).map (·.code) ↔ b.value = 0 ∧ code = .divideByZero := by
  rw [Decimal.value_eq_zero_iff]
  cases hzero : b.isZero <;> simp [divisor, h, hzero]

lemma codes_squareRoot (h : node.constantNumber? = some a) :
    code ∈ (squareRoot node).map (·.code) ↔ a.value < 0 ∧ code = .sqrtDomain := by
  rw [Decimal.value_lt_zero_iff]
  cases hnegative : a.negative <;> cases hzero : a.isZero <;>
    simp [squareRoot, h, isNegative, hnegative, hzero]

lemma codes_logarithm (kind : FunctionKind) (h : node.constantNumber? = some a) :
    code ∈ (logarithm kind node).map (·.code) ↔ a.value ≤ 0 ∧ code = .logDomain := by
  rw [Decimal.value_le_zero_iff]
  cases hdomain : (a.negative || a.isZero) <;> simp [logarithm, h, hdomain]

/-- The exponent counts as a fraction if it is not read as an integer, and the base as negative if it has a
sign. -/
lemma codes_power (hbase : base.constantNumber? = some a) (hexponent : exponent.constantNumber? = some b) :
    code ∈ (power base exponent).map (·.code) ↔
      a.value = 0 ∧ b.value < 0 ∧ code = .powerZeroNegative ∨
        ¬ (a.value = 0 ∧ b.value < 0) ∧ a.negative = true ∧
          (¬ ∃ n : ℤ, b.value = n ∧ Decimal.IsInt64 n) ∧ code = .powerNegativeFractional := by
  have hzero : (a.isZero && isNegative b) = true ↔ a.value = 0 ∧ b.value < 0 := by
    rw [Decimal.value_eq_zero_iff, Decimal.value_lt_zero_iff]
    simp [isNegative]
  have hfraction : (a.negative && b.toInt64?.isNone) = true ↔
      a.negative = true ∧ ¬ ∃ n : ℤ, b.value = n ∧ Decimal.IsInt64 n := by
    rw [← Decimal.toInt64?_eq_none_iff]
    simp
  simp only [power, hbase, hexponent]
  by_cases hfirst : a.value = 0 ∧ b.value < 0
  · rw [if_pos (hzero.mpr hfirst)]
    simp [hfirst]
  · rw [if_neg (mt hzero.mp hfirst)]
    by_cases hsecond : a.negative = true ∧ ¬ ∃ n : ℤ, b.value = n ∧ Decimal.IsInt64 n
    · rw [if_pos (hfraction.mpr hsecond)]
      simp only [List.map_singleton, List.mem_singleton]
      tauto
    · rw [if_neg (mt hfraction.mp hsecond)]
      simp only [List.map_nil, List.not_mem_nil]
      tauto

/-- A power is reported if it has no value, or if it is taken for one that has none. -/
lemma codes_power_iff (hbase : base.constantNumber? = some a)
    (hexponent : exponent.constantNumber? = some b) :
    code ∈ (power base exponent).map (·.code) ↔ HasNoValue .power [a, b] code ∨
      code = .powerNegativeFractional ∧ IsTakenForFractional a b := by
  have hsign : a.negative = true ↔ a.value < 0 ∨ a.value = 0 ∧ a.negative = true := by
    rw [Decimal.value_lt_zero_iff, Decimal.value_eq_zero_iff]
    cases a.isZero <;> simp
  rw [codes_power hbase hexponent]
  constructor
  · rintro (⟨ha, hb, rfl⟩ | ⟨hfirst, hnegative, hb, rfl⟩)
    · exact Or.inl (.powerOfZero ha hb)
    · rcases hsign.mp hnegative with ha | ⟨ha, -⟩
      · by_cases hinteger : ∃ n : ℤ, b.value = n
        · obtain ⟨n, hn⟩ := hinteger
          exact Or.inr ⟨rfl, Or.inl ⟨ha, n, hn, fun hrange => hb ⟨n, hn, hrange⟩⟩⟩
        · exact Or.inl (.powerOfNegative ha (not_exists.mp hinteger))
      · exact Or.inr ⟨rfl, Or.inr ⟨ha, hnegative, not_lt.mp fun h => hfirst ⟨ha, h⟩, hb⟩⟩
  · rintro (hvalue | ⟨rfl, htaken⟩)
    · cases hvalue with
      | powerOfZero ha hb => exact Or.inl ⟨ha, hb, rfl⟩
      | powerOfNegative ha hb =>
        exact Or.inr ⟨fun h => ha.ne h.1, hsign.mpr (Or.inl ha), fun ⟨n, hn, _⟩ => hb n hn, rfl⟩
    · obtain ⟨hnegative, hb⟩ := htaken.exponent_not_int64
      exact Or.inr ⟨htaken.not_zero_and_neg, hnegative, hb, rfl⟩

/-- The arguments are numbers, be they under `FLOAT`. -/
def AreNumbers (args : List Node) (numbers : List Decimal) : Prop :=
  List.Forall₂ (fun arg n => arg.constantNumber? = some n) args numbers

/-- What is said about a call of a function with numbers. -/
lemma codes_constants {kind : FunctionKind} (hkind : kind.isPartial = true) {args : List Node}
    {numbers : List Decimal} (hargs : AreNumbers args numbers) :
    code ∈ (constants kind args).map (·.code) ↔ HasNoValue kind numbers code ∨
      kind = .power ∧ code = .powerNegativeFractional ∧
        ∃ a b, numbers = [a, b] ∧ IsTakenForFractional a b := by
  -- With another number of arguments nothing is said, and nothing is wrong.
  have hother (hsilent : constants kind args = []) (hvalue : ¬ HasNoValue kind numbers code)
      (hpair : ∀ a b, numbers ≠ [a, b]) :
      code ∈ (constants kind args).map (·.code) ↔ HasNoValue kind numbers code ∨
        kind = .power ∧ code = .powerNegativeFractional ∧
          ∃ a b, numbers = [a, b] ∧ IsTakenForFractional a b := by
    rw [hsilent]
    refine iff_of_false List.not_mem_nil (not_or.mpr ⟨hvalue, ?_⟩)
    rintro ⟨-, -, a, b, hnumbers, -⟩
    exact hpair a b hnumbers
  rcases hargs with _ | ⟨hfirst, _ | ⟨hsecond, _ | ⟨hthird, hrest⟩⟩⟩
  · cases kind <;> exact hother rfl nofun nofun
  · cases kind with
    | sqrt =>
      simp only [constants, codes_squareRoot hfirst, reduceCtorEq, false_and, or_false]
      exact ⟨fun ⟨ha, hcode⟩ => hcode ▸ .root ha, fun | .root ha => ⟨ha, rfl⟩⟩
    | log =>
      simp only [constants, codes_logarithm _ hfirst, reduceCtorEq, false_and, or_false]
      exact ⟨fun ⟨ha, hcode⟩ => hcode ▸ .logarithm ha, fun | .logarithm ha => ⟨ha, rfl⟩⟩
    | log10 =>
      simp only [constants, codes_logarithm _ hfirst, reduceCtorEq, false_and, or_false]
      exact ⟨fun ⟨ha, hcode⟩ => hcode ▸ .decimalLogarithm ha, fun | .decimalLogarithm ha => ⟨ha, rfl⟩⟩
    | _ => exact hother rfl nofun nofun
  · cases kind with
    | divide =>
      simp only [constants, codes_divisor _ hsecond, reduceCtorEq, false_and, or_false]
      exact ⟨fun ⟨hb, hcode⟩ => hcode ▸ .quotient hb, fun | .quotient hb => ⟨hb, rfl⟩⟩
    | mod =>
      simp only [constants, codes_divisor _ hsecond, reduceCtorEq, false_and, or_false]
      exact ⟨fun ⟨hb, hcode⟩ => hcode ▸ .rest hb, fun | .rest hb => ⟨hb, rfl⟩⟩
    | power =>
      rw [constants, codes_power_iff hfirst hsecond]
      simp
    | sqrt | log | log10 => exact iff_of_false List.not_mem_nil (by rintro (h | ⟨h, -⟩) <;> cases h)
    | _ => cases hkind
  · cases kind <;> first | exact hother rfl nofun nofun | cases hkind

end Checks

/-! ## Folding -/

/-- Numbers that are constants, and not under `FLOAT`, are the constants of the numbers. -/
lemma Checks.AreNumbers.eq_map_number {values : List Literal} {numbers : List Decimal}
    (h : Checks.AreNumbers (values.map .const) numbers) : values = numbers.map .number := by
  rw [Checks.AreNumbers, List.forall₂_map_left_iff] at h
  induction h with
  | nil => rfl
  | @cons value n _ _ hfirst _ ih =>
    have hvalue : value = .number n := by
      cases value <;> cases hfirst
      rfl
    rw [hvalue, ih, List.map_cons]

lemma allOf_number? (numbers : List Decimal) :
    allOf Literal.number? (numbers.map .number) = some numbers := by
  induction numbers with
  | nil => rfl
  | cons n numbers ih => simp [allOf, ih, Literal.number?]

variable {a b : Decimal} {code : MessageCode}

/-- Where a function has no value, none is computed. -/
lemma HasNoValue.ofNumbers_eq_none {kind : FunctionKind} {numbers : List Decimal}
    (h : HasNoValue kind numbers code) : Folding.ofNumbers kind numbers = none := by
  cases h with
  | quotient hb => exact Decimal.div?_of_isZero _ (Decimal.value_eq_zero_iff.mp hb)
  | rest hb => exact Decimal.mod?_of_isZero _ (Decimal.value_eq_zero_iff.mp hb)
  | root ha => exact Decimal.sqrt?_of_negative (Decimal.value_lt_zero_iff.mp ha).1
  | logarithm ha => exact Decimal.ln?_of_not_isPositive (Decimal.not_isPositive_iff.mpr ha)
  | decimalLogarithm ha => exact Decimal.log10?_of_not_isPositive (Decimal.not_isPositive_iff.mpr ha)
  | powerOfZero ha hb =>
    exact Decimal.pow?_of_isZero (Decimal.value_eq_zero_iff.mp ha) (Decimal.value_lt_zero_iff.mp hb).1
  | powerOfNegative ha hb =>
    refine Decimal.pow?_of_negative (Decimal.value_lt_zero_iff.mp ha).1 (Decimal.toInt64?_eq_none_iff.mpr ?_)
    rintro ⟨n, hn, -⟩
    exact hb n hn

/-- With numbers for which nothing is computed a call is not folded. -/
lemma fold?_of_ofNumbers {order : DateOrder} {kind : FunctionKind} (hkind : kind.isPartial = true)
    {args : List Node} {numbers : List Decimal} (hargs : Checks.AreNumbers args numbers)
    (h : Folding.ofNumbers kind numbers = none) : (Node.call kind args).fold? order = none := by
  rw [Option.eq_none_iff_forall_ne_some]
  intro value hfold
  cases Node.foldsTo_of_fold? hfold with
  | branch | isNull => cases hkind
  | difference =>
    cases hargs with
    | cons hfirst => cases hfirst
  | @constants _ values c hc =>
    obtain rfl := hargs.eq_map_number
    have hcomputed (values : List Literal) : Folding.ofConstants kind values =
        ((allOf Literal.number? values).bind (Folding.ofNumbers kind)).map .number := by
      cases kind <;> first | rfl | cases hkind
    rw [hcomputed, allOf_number?, Option.bind_some, h] at hc
    cases hc

/-- What is said about a call of a partial function with numbers is what is wrong with them, except that
some more powers are reported as fractional; and a call of which anything is said is not folded. -/
theorem Check.codes_item_iff (flags : FeatureFlags) (order : DateOrder) (name : String)
    {item : FunctionItem} (hkind : item.kind.isPartial = true) {args : List Node}
    {numbers : List Decimal} (hargs : Checks.AreNumbers args numbers) :
    (∀ code, code ∈ (Check.item.messages flags ⟨name, .ok item, args⟩).map (·.code) ↔
      HasNoValue item.kind numbers code ∨ item.kind = .power ∧ code = .powerNegativeFractional ∧
        ∃ a b, numbers = [a, b] ∧ IsTakenForFractional a b) ∧
      (Check.item.messages flags ⟨name, .ok item, args⟩ ≠ [] →
        (Node.call item.kind args).fold? order = none) := by
  have hmessages : Check.item.messages flags ⟨name, .ok item, args⟩ =
      Checks.constants item.kind args := by
    change Check.itemMessages item args = _
    unfold itemMessages
    split
    · next holap => exact absurd holap (FunctionKind.category_ne_olap hkind)
    · rfl
  rw [hmessages]
  refine ⟨fun code => Checks.codes_constants hkind hargs, fun hreported => ?_⟩
  obtain ⟨message, hmessage⟩ := List.exists_mem_of_ne_nil _ hreported
  have hcode := (Checks.codes_constants hkind hargs).mp (List.mem_map_of_mem hmessage)
  refine fold?_of_ofNumbers hkind hargs ?_
  rcases hcode with hvalue | ⟨hpower, -, a, b, rfl, htaken⟩
  · exact hvalue.ofNumbers_eq_none
  · obtain ⟨hnegative, hb⟩ := htaken.exponent_not_int64
    rw [hpower]
    exact Decimal.pow?_of_negative hnegative (Decimal.toInt64?_eq_none_iff.mpr hb)

/-- A power of zero with an exponent below zero is reported although the zero is under a cast, and is not
folded. -/
theorem Check.codes_item_iff_of_cast :
    let args := [.call .float [.number ⟨true, 0, 1, by decide, by decide⟩],
      .number ⟨true, 5, 1, by decide, by decide⟩]
    .powerZeroNegative ∈
        (Check.item.messages {} ⟨"^", .ok (Catalog.itemOf .power), args⟩).map (·.code) ∧
      (Node.call .power args).fold? .monthFirst = none := by
  intro args
  obtain ⟨hcodes, hfold⟩ := Check.codes_item_iff {} .monthFirst "^"
    (show (Catalog.itemOf .power).kind.isPartial = true from rfl)
    (show Checks.AreNumbers args [_, _] from .cons rfl (.cons rfl .nil))
  have hreported := (hcodes .powerZeroNegative).mpr
    (.inl (.powerOfZero (Decimal.value_eq_zero_iff.mpr rfl) (Decimal.value_lt_zero_iff.mpr ⟨rfl, rfl⟩)))
  refine ⟨hreported, hfold fun hsilent => ?_⟩
  rw [hsilent] at hreported
  cases hreported

/-- A power of a negative number is reported as fractional, although its exponent is an integer. -/
theorem Check.exists_integral_fraction : ∃ args a b, Checks.AreNumbers args [a, b] ∧
    .powerNegativeFractional ∈
      (Check.item.messages {} ⟨"^", .ok (Catalog.itemOf .power), args⟩).map (·.code) ∧
    ∃ n : ℤ, b.value = n := by
  refine ⟨[.number ⟨true, 8, 0, by decide, by decide⟩, .number ⟨false, 10 ^ 19, 0, by decide, by decide⟩],
    _, _, .cons rfl (.cons rfl .nil), ?_, 10 ^ 19, Decimal.value_eq_intCast_iff.mpr ?_⟩
  · decide +kernel
  · decide +kernel

end OlapFormula
