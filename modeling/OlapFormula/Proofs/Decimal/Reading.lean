import Mathlib.Tactic.LinearCombination
import OlapFormula.Decimal.Reading
import OlapFormula.Proofs.Decimal.Spelling

/-!
# Numbers that are written and read

The text of a number is read as the number without trailing zeros, which is the same by value and has
the same text.
-/

namespace OlapFormula.Decimal

/-- Stripping zeros does not change the value, and leaves no zero that could be stripped. -/
lemma stripZeros_spec (mantissa scale : Nat) :
    (stripZeros mantissa scale).2 ≤ scale ∧ (stripZeros mantissa scale).1 ≤ mantissa ∧
      (stripZeros mantissa scale).1 * 10 ^ scale = mantissa * 10 ^ (stripZeros mantissa scale).2 ∧
      stripZeros (stripZeros mantissa scale).1 (stripZeros mantissa scale).2 =
        stripZeros mantissa scale := by
  induction scale generalizing mantissa with
  | zero => simp [stripZeros]
  | succ scale ih =>
    by_cases h : mantissa % 10 = 0
    · obtain ⟨hscale, hmantissa, hvalue, hagain⟩ := ih (mantissa / 10)
      have hten : mantissa = mantissa / 10 * 10 := by omega
      simp only [stripZeros, if_pos h]
      refine ⟨by omega, by omega, ?_, hagain⟩
      calc (stripZeros (mantissa / 10) scale).1 * 10 ^ (scale + 1)
          = (stripZeros (mantissa / 10) scale).1 * 10 ^ scale * 10 := by
            rw [Nat.pow_succ, Nat.mul_assoc]
        _ = mantissa / 10 * 10 ^ (stripZeros (mantissa / 10) scale).2 * 10 := by rw [hvalue]
        _ = mantissa / 10 * 10 * 10 ^ (stripZeros (mantissa / 10) scale).2 := Nat.mul_right_comm ..
        _ = mantissa * 10 ^ (stripZeros (mantissa / 10) scale).2 := by rw [← hten]
    · simp [stripZeros, if_neg h]

/-- The number without trailing zeros; a zero is positive. -/
def stripped (a : Decimal) : Decimal where
  negative := a.negative && !a.isZero
  mantissa := (stripZeros a.mantissa a.scale).1
  scale := (stripZeros a.mantissa a.scale).2
  mantissa_lt := Nat.lt_of_le_of_lt (stripZeros_spec _ _).2.1 a.mantissa_lt
  scale_le := Nat.le_trans (stripZeros_spec _ _).1 a.scale_le

lemma same_iff (a b : Decimal) :
    a.same b ↔ a.coefficient * 10 ^ b.scale = b.coefficient * 10 ^ a.scale := by
  have hcompare : a.same b ↔
      Ord.compare (a.coefficient * tenTo b.scale) (b.coefficient * tenTo a.scale) = .eq := beq_iff_eq
  rw [hcompare, Std.LawfulEqOrd.compare_eq_iff_eq]
  norm_cast

/-- Fractions that are equal to equal fractions are equal. -/
lemma cross_congr {x y x' y' p q p' q' : Int} (hp : p' ≠ 0) (hq : q' ≠ 0) (hx : x * p' = x' * p)
    (hy : y * q' = y' * q) (h : x' * q' = y' * p') : x * q = y * p := by
  apply mul_right_cancel₀ (mul_ne_zero hp hq)
  linear_combination q * q' * hx - p * p' * hy + p * q * h

/-- Sameness goes by the value. -/
lemma same_congr {a b a' b' : Decimal} (ha : a.same a') (hb : b.same b') :
    a'.same b' ↔ a.same b := by
  rw [same_iff] at ha hb
  rw [same_iff, same_iff]
  have hpos (n : Nat) : (10 : Int) ^ n ≠ 0 := pow_ne_zero n (by decide)
  exact ⟨cross_congr (hpos _) (hpos _) ha hb, cross_congr (hpos _) (hpos _) ha.symm hb.symm⟩

lemma same_stripped (a : Decimal) : a.same a.stripped := by
  obtain ⟨-, -, hvalue, -⟩ := stripZeros_spec a.mantissa a.scale
  have hint : (a.mantissa : Int) * tenTo a.stripped.scale = a.stripped.mantissa * tenTo a.scale := by
    exact_mod_cast hvalue.symm
  have hzero : a.mantissa = 0 → (a.stripped.mantissa : Int) = 0 := fun h => by
    exact_mod_cast (stripZeros_eq_zero_iff a.mantissa a.scale).mpr h
  have hcoefficient : a.coefficient * tenTo a.stripped.scale =
      a.stripped.coefficient * tenTo a.scale := by
    unfold coefficient
    cases hneg : a.negative with
    | false => simpa [stripped, hneg] using hint
    | true =>
      by_cases hmantissa : a.mantissa = 0
      · simp [hzero hmantissa, hmantissa]
      · have hsign : a.stripped.negative = true := by simp [stripped, hneg, isZero, hmantissa]
        rw [if_pos rfl, if_pos hsign, Int.neg_mul, Int.neg_mul, hint]
  rw [same, compare, hcoefficient, beq_iff_eq]
  exact Std.ReflOrd.compare_self

lemma digits_stripped (a : Decimal) : a.stripped.digits = a.digits := by
  obtain ⟨-, -, -, hagain⟩ := stripZeros_spec a.mantissa a.scale
  unfold digits
  exact congrArg (fun parts => pointed parts.1 parts.2) hagain

lemma text_stripped (a : Decimal) : a.stripped.text = a.text := by
  have hzero : a.stripped.isZero = a.isZero := by
    simp [isZero, stripped, stripZeros_eq_zero_iff, Bool.beq_eq_decide_eq]
  rw [← String.toList_inj, text_toList, text_toList, digits_stripped, hzero]
  simp [stripped]

lemma naturalOf_eq (digits : List Char) : naturalOf digits = Nat.ofDigitChars 10 digits 0 := by
  rw [naturalOf, Nat.ofDigitChars_eq_foldl]
  congr 1
  funext n c
  rw [Nat.mul_comm]
  rfl

lemma le_ofDigitChars (digits : List Char) (n : Nat) : n ≤ Nat.ofDigitChars 10 digits n := by
  rw [Nat.ofDigitChars_eq_ofDigitChars_zero]
  exact Nat.le_trans (Nat.le_mul_of_pos_left n (Nat.pow_pos (by decide))) (Nat.le_add_right ..)

/-- As long as there is room, the digits after the point are read one after the other. -/
lemma ofFraction?_eq {mantissa scale : Nat} {digits : List Char}
    (hscale : scale + digits.length ≤ 28)
    (hmantissa : Nat.ofDigitChars 10 digits mantissa < mantissaLimit) :
    ofFraction? mantissa scale digits =
      ofParts? false (Nat.ofDigitChars 10 digits mantissa) (scale + digits.length) := by
  induction digits generalizing mantissa scale with
  | nil => simp [ofFraction?]
  | cons c cs ih =>
    have hnext : 10 * mantissa + (c.toNat - '0'.toNat) = mantissa * 10 + digitValue c := by
      rw [Nat.mul_comm]
      rfl
    rw [List.length_cons] at hscale ⊢
    rw [Nat.ofDigitChars_cons, hnext] at hmantissa ⊢
    have hroom := Nat.lt_of_le_of_lt (le_ofDigitChars cs _) hmantissa
    have hcond : (decide (scale < 28) && decide (mantissa * 10 + digitValue c < mantissaLimit)) = true := by
      rw [Bool.and_eq_true, decide_eq_true_eq, decide_eq_true_eq]
      exact ⟨by omega, hroom⟩
    unfold ofFraction?
    dsimp only
    rw [if_pos hcond, ih (by omega) hmantissa, Nat.add_assoc, Nat.add_comm 1]

def isMark (c : Char) : Bool := c == 'e' || c == 'E'

lemma isMark_of_isDigit {c : Char} (h : c.isDigit) : isMark c = false := by
  simp only [isMark, Bool.or_eq_false_iff, beq_eq_false_iff_ne]
  constructor <;> rintro rfl <;> contradiction

lemma ofLiteral?_eq {cs : List Char} (h : ∀ c ∈ cs, isMark c = false) :
    ofLiteral? cs = ofPositional? cs := by
  have hmark : ∀ c ∈ cs, (!(c == 'e' || c == 'E')) = true := fun c hc => by
    simpa [isMark] using h c hc
  have htake : cs.takeWhile (fun c => !(c == 'e' || c == 'E')) = cs :=
    List.takeWhile_eq_self_iff.mpr hmark
  have hdrop : cs.dropWhile (fun c => !(c == 'e' || c == 'E')) = [] :=
    List.dropWhile_eq_nil_iff.mpr hmark
  unfold ofLiteral?
  simp only [htake, hdrop]
  cases ofPositional? cs <;> rfl

/-- Digits with a point among them are read as the number that they spell. -/
lemma ofLiteral?_pointed (a : Decimal) (hnegative : a.negative = false) :
    ofLiteral? (pointed a.mantissa a.scale) = some a := by
  obtain ⟨negative, mantissa, scale, hmantissa, hscale⟩ := a
  obtain rfl : negative = false := hnegative
  obtain ⟨whole, fraction, -, hall, hlength, hvalue, hpointed⟩ := exists_pointed mantissa scale
  rw [List.forall_mem_append] at hall
  rw [Nat.ofDigitChars_append] at hvalue
  have hroom : Nat.ofDigitChars 10 whole 0 < mantissaLimit :=
    Nat.lt_of_le_of_lt (le_ofDigitChars fraction _) (hvalue ▸ hmantissa)
  have hparts : ofFraction? (Nat.ofDigitChars 10 whole 0) 0 fraction =
      some ⟨false, mantissa, scale, hmantissa, hscale⟩ := by
    rw [ofFraction?_eq (by omega) (hvalue ▸ hmantissa), hvalue, hlength, Nat.zero_add, ofParts?,
      dif_pos ⟨hmantissa, hscale⟩]
  have hmark : ∀ c ∈ whole ++ '.' :: fraction, isMark c = false := by
    rw [List.forall_mem_append, List.forall_mem_cons]
    exact ⟨fun c hc => isMark_of_isDigit (hall.1 c hc), rfl,
      fun c hc => isMark_of_isDigit (hall.2 c hc)⟩
  rw [hpointed]
  -- Without digits after the point there is no point.
  by_cases hzero : scale = 0
  · obtain rfl : fraction = [] := List.eq_nil_of_length_eq_zero (hlength.trans hzero)
    have htake : whole.takeWhile Char.isDigit = whole := List.takeWhile_eq_self_iff.mpr hall.1
    have hdrop : whole.dropWhile Char.isDigit = [] := List.dropWhile_eq_nil_iff.mpr hall.1
    rw [if_pos hzero, ofLiteral?_eq fun c hc => isMark_of_isDigit (hall.1 c hc), ofPositional?, htake,
      hdrop, naturalOf_eq]
    exact (if_pos hroom).trans hparts
  · have htake : (whole ++ '.' :: fraction).takeWhile Char.isDigit = whole := by
      rw [List.takeWhile_append_of_pos hall.1, List.takeWhile_cons_of_neg (by decide), List.append_nil]
    have hdrop : (whole ++ '.' :: fraction).dropWhile Char.isDigit = '.' :: fraction := by
      rw [List.dropWhile_append_of_pos hall.1, List.dropWhile_cons_of_neg (by decide)]
    rw [if_neg hzero, ofLiteral?_eq hmark, ofPositional?, htake, hdrop, naturalOf_eq]
    exact (if_pos hroom).trans hparts

/-- The text of a number that is not less than zero is read as that number without trailing zeros. -/
theorem ofLiteral?_text {a : Decimal} (h : (a.negative && !a.isZero) = false) :
    ofLiteral? a.text.toList = some a.stripped := by
  rw [text_toList, if_neg (by simp [h])]
  exact ofLiteral?_pointed a.stripped h

lemma neg_stripped_abs {a : Decimal} (h : (a.negative && !a.isZero) = true) :
    a.abs.stripped.neg = a.stripped := by
  unfold neg stripped
  rw [Decimal.mk.injEq]
  exact ⟨h.symm, rfl, rfl⟩

end OlapFormula.Decimal
