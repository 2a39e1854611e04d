import Mathlib.Algebra.Order.Field.Rat
import Mathlib.Tactic.Positivity
import OlapFormula.Decimal.Power
import OlapFormula.Proofs.Decimal.Reading

/-!
# What numbers are worth

The value of a number as a fraction. Both zeros are worth the same, and so are numbers that differ in
trailing zeros only.
-/

namespace OlapFormula.Decimal

variable {a b : Decimal}

/-- The value of a number. -/
def value (a : Decimal) : ℚ := a.coefficient / 10 ^ a.scale

lemma coefficient_eq_zero_iff : a.coefficient = 0 ↔ a.isZero = true := by
  unfold coefficient isZero
  split <;> simp

lemma coefficient_lt_zero_iff : a.coefficient < 0 ↔ a.negative = true ∧ a.isZero = false := by
  unfold coefficient isZero
  cases a.negative <;> simp [Nat.pos_iff_ne_zero]

lemma value_eq_zero_iff : a.value = 0 ↔ a.isZero = true := by
  rw [← coefficient_eq_zero_iff, value, div_eq_zero_iff]
  simp

/-- A number below zero has a sign and is not the negative zero. -/
lemma value_lt_zero_iff : a.value < 0 ↔ a.negative = true ∧ a.isZero = false := by
  rw [← coefficient_lt_zero_iff, value, div_lt_iff₀ (by positivity), zero_mul]
  exact Int.cast_lt_zero

lemma value_le_zero_iff : a.value ≤ 0 ↔ (a.negative || a.isZero) = true := by
  rw [le_iff_lt_or_eq, value_lt_zero_iff, value_eq_zero_iff]
  cases a.negative <;> cases a.isZero <;> simp

lemma not_isPositive_iff : ¬a.isPositive = true ↔ a.value ≤ 0 := by
  rw [value_le_zero_iff, isPositive]
  cases a.negative <;> cases a.isZero <;> simp

/-- Sameness is equality of the values. -/
lemma same_iff_value_eq : a.same b = true ↔ a.value = b.value := by
  rw [same_iff, value, value, div_eq_div_iff (by positivity) (by positivity)]
  exact_mod_cast Iff.rfl

lemma value_eq_intCast_iff {n : ℤ} : a.value = n ↔ a.coefficient = n * 10 ^ a.scale := by
  rw [value, div_eq_iff (by positivity)]
  exact_mod_cast Iff.rfl

/-- An integer that is not too large is a number with this value. -/
lemma exists_ofInt? {n : ℤ} (h : n.natAbs < mantissaLimit) : ∃ a, ofInt? n = some a ∧ a.value = n := by
  refine ⟨⟨n < 0, n.natAbs, 0, h, Nat.zero_le 28⟩, dif_pos ⟨h, Nat.zero_le 28⟩, ?_⟩
  rw [value_eq_intCast_iff, pow_zero, mul_one]
  unfold coefficient
  simp only [decide_eq_true_eq]
  split <;> omega

lemma isIntegral_iff : a.isIntegral = true ↔ ∃ n : ℤ, a.value = n := by
  have hdvd : a.isIntegral = true ↔ (10 ^ a.scale : ℤ) ∣ a.coefficient := by
    unfold isIntegral coefficient
    rw [beq_iff_eq, ← Nat.dvd_iff_mod_eq_zero]
    split <;> simp [tenTo, ← Int.natCast_dvd_natCast]
  simp only [hdvd, value_eq_intCast_iff, Dvd.dvd, mul_comm]

/-- Integers of 64 bits. -/
def IsInt64 (n : ℤ) : Prop := -2 ^ 63 ≤ n ∧ n < 2 ^ 63

/-- A number is read as an integer of 64 bits exactly if it is one. -/
lemma toInt64?_eq_some_iff {n : ℤ} : a.toInt64? = some n ↔ a.value = n ∧ IsInt64 n := by
  have hten : (tenTo a.scale : ℤ) = 10 ^ a.scale := by simp [tenTo]
  have hquotient {m : ℤ} (hm : a.value = m) : a.coefficient.tdiv (tenTo a.scale) = m := by
    rw [value_eq_intCast_iff.mp hm, hten, Int.mul_tdiv_cancel _ (by positivity)]
  have hlimit : ((Nat.pow 2 63 : ℕ) : ℤ) = 2 ^ 63 := by norm_num
  simp only [toInt64?, Option.ite_none_right_eq_some, Bool.and_eq_true, decide_eq_true_eq,
    isIntegral_iff, hlimit, Option.some.injEq]
  constructor
  · rintro ⟨⟨⟨⟨m, hm⟩, hlow⟩, hhigh⟩, rfl⟩
    rw [hquotient hm] at hlow hhigh ⊢
    exact ⟨hm, hlow, hhigh⟩
  · rintro ⟨hn, hlow, hhigh⟩
    rw [hquotient hn]
    exact ⟨⟨⟨⟨n, hn⟩, hlow⟩, hhigh⟩, rfl⟩

lemma toInt64?_eq_none_iff : a.toInt64? = none ↔ ¬ ∃ n : ℤ, a.value = n ∧ IsInt64 n := by
  simp [Option.eq_none_iff_forall_ne_some, toInt64?_eq_some_iff]

end OlapFormula.Decimal
