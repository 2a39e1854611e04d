import OlapFormula.Decimal.Basic
import OlapFormula.Proofs.Lexeme.Spelling

/-!
# The spelling of numbers

The text of a number consists of digits, with a point among them if there are places after it, and
perhaps a sign before them.
-/

namespace OlapFormula.Decimal

/-- The digits before and after the point spell the mantissa. -/
lemma exists_pointed (mantissa scale : Nat) :
    ∃ whole fraction, whole ≠ [] ∧ (∀ c ∈ whole ++ fraction, c.isDigit) ∧
      fraction.length = scale ∧ Nat.ofDigitChars 10 (whole ++ fraction) 0 = mantissa ∧
      pointed mantissa scale = if scale = 0 then whole else whole ++ '.' :: fraction := by
  generalize hdigits : List.replicate (scale + 1 - (Nat.toDigits 10 mantissa).length) '0' ++
    Nat.toDigits 10 mantissa = digits
  have hlength : scale + 1 ≤ digits.length := by
    rw [← hdigits, List.length_append, List.length_replicate]
    omega
  have hall : ∀ c ∈ digits, c.isDigit := by
    intro c hc
    rw [← hdigits, List.mem_append, List.mem_replicate] at hc
    rcases hc with ⟨-, rfl⟩ | hc
    · decide
    · exact Nat.isDigit_of_mem_toDigits (by decide) (by decide) hc
  have hvalue : Nat.ofDigitChars 10 digits 0 = mantissa := by
    rw [← hdigits, Nat.ofDigitChars_append, Nat.ofDigitChars_replicate_zero, Nat.mul_zero,
      Nat.ofDigitChars_ten_toDigits]
  refine ⟨digits.take (digits.length - scale), digits.drop (digits.length - scale), ?_, ?_, ?_, ?_, ?_⟩
  · intro h
    have hzero := congrArg List.length h
    simp only [List.length_take, List.length_nil] at hzero
    omega
  · rwa [List.take_append_drop]
  · rw [List.length_drop]
    omega
  · rwa [List.take_append_drop]
  · unfold pointed
    dsimp only
    rw [hdigits]

lemma isNumeral_pointed (mantissa scale : Nat) : Lexeme.IsNumeral (pointed mantissa scale) := by
  obtain ⟨whole, fraction, hwhole, hall, -, -, hpointed⟩ := exists_pointed mantissa scale
  rw [List.forall_mem_append] at hall
  rw [hpointed]
  by_cases hscale : scale = 0
  · rw [if_pos hscale]
    exact ⟨whole, [], (List.append_nil whole).symm, hwhole, hall.1, Or.inl rfl⟩
  · rw [if_neg hscale]
    exact ⟨whole, '.' :: fraction, rfl, hwhole, hall.1, Or.inr ⟨fraction, rfl, hall.2⟩⟩

lemma stripZeros_eq_zero_iff (mantissa scale : Nat) :
    (stripZeros mantissa scale).1 = 0 ↔ mantissa = 0 := by
  induction scale generalizing mantissa with
  | zero => rfl
  | succ scale ih =>
    unfold stripZeros
    by_cases h : mantissa % 10 = 0
    · rw [if_pos h, ih]
      omega
    · rw [if_neg h]

/-- The spelling of a number that is not less than zero. -/
def digits (a : Decimal) : List Char :=
  pointed (stripZeros a.mantissa a.scale).1 (stripZeros a.mantissa a.scale).2

lemma text_toList (a : Decimal) :
    a.text.toList = if a.negative && !a.isZero then '-' :: a.digits else a.digits := by
  have hzero : ((stripZeros a.mantissa a.scale).1 != 0) = !a.isZero := by
    simp [isZero, bne, stripZeros_eq_zero_iff, Bool.beq_eq_decide_eq]
  simp only [text, hzero, String.toList_ofList]
  rfl

end OlapFormula.Decimal
