import OlapFormula.Decimal.Basic

/-!
# Rounding

An exact result is rounded to as many places as it has room for, a half to the even neighbour. A number
is rounded to fewer places by cutting off digits and, depending on them, going one step away from zero.
-/

namespace OlapFormula.Decimal

/-- The integer nearest to a quotient; of two, the even one. -/
def divideHalfEven (num den : Nat) : Nat :=
  let whole := num / den
  let twice := 2 * (num % den)
  if den < twice || (twice == den && whole % 2 == 1) then whole + 1 else whole

/-- The least integer that is not less than a quotient. -/
def divideUp (num den : Nat) : Nat := if num % den = 0 then num / den else num / den + 1

/-- The quotient, rounded by `divide`, with the greatest number of places, at most `scale`, for which the
mantissa has 96 bits. A result that rounds to zero is positive. -/
def ofQuotientWithin (divide : Nat → Nat → Nat) (negative : Bool) (num den : Nat) (scale : Nat) :
    Option Decimal :=
  let mantissa := divide (num * tenTo scale) den
  match ofParts? (negative && mantissa != 0) mantissa scale with
  | some a => some a
  | none =>
    match scale with
    | 0 => none
    | scale + 1 => ofQuotientWithin divide negative num den scale

/-- The number nearest to a quotient; none if there is no room for its integer part. -/
def ofQuotient? (negative : Bool) (num den : Nat) : Option Decimal :=
  ofQuotientWithin divideHalfEven negative num den 28

/-- A quotient rounded away from zero; none if there is no room for its integer part. -/
def ofQuotientUp? (negative : Bool) (num den : Nat) : Option Decimal :=
  ofQuotientWithin divideUp negative num den 28

theorem div_succ_le {m d : Nat} (h : m % d ≠ 0) : m / d + 1 ≤ m := by
  have hm := Nat.div_add_mod m d
  rcases Nat.eq_zero_or_pos d with rfl | hd
  · simp at h
    omega
  · have := Nat.le_mul_of_pos_left (m / d) hd
    omega

/-- Cuts off all places but the first `places`. The test is given the rest and the unit it is a rest
of, and says whether the last place goes up by one. -/
def cut (a : Decimal) (places : Nat) (goesUp : (rest unit : Nat) → Bool) : Decimal :=
  if h : places < a.scale then
    let unit := tenTo (a.scale - places)
    let rest := a.mantissa % unit
    if hr : rest ≠ 0 ∧ goesUp rest unit then
      ⟨a.negative, a.mantissa / unit + 1, places,
        Nat.lt_of_le_of_lt (div_succ_le hr.1) a.mantissa_lt, by have := a.scale_le; omega⟩
    else
      ⟨a.negative, a.mantissa / unit, places,
        Nat.lt_of_le_of_lt (Nat.div_le_self _ _) a.mantissa_lt, by have := a.scale_le; omega⟩
  else a

/-- The greatest integer that is not greater. -/
def floor (a : Decimal) : Decimal := a.cut 0 fun _ _ => a.negative

/-- The least integer that is not less. -/
def ceil (a : Decimal) : Decimal := a.cut 0 fun _ _ => !a.negative

/-- A number that rounding made zero is positive. -/
def roundWith (a : Decimal) (places : Nat) (goesUp : (rest unit : Nat) → Bool) : Decimal :=
  let rounded := a.cut places goesUp
  if rounded.isZero && !a.isZero then rounded.abs else rounded

/-- Rounds to `places` places, a half away from zero. -/
def round (a : Decimal) (places : Nat) : Decimal :=
  a.roundWith places fun rest unit => unit ≤ 2 * rest

/-- Rounds to `places` places toward zero. -/
def trunc (a : Decimal) (places : Nat) : Decimal := a.roundWith places fun _ _ => false

end OlapFormula.Decimal
