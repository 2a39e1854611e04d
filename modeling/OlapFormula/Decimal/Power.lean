import OlapFormula.Decimal.Transcendental

/-!
# Powers

Powers with an integer for exponent are products, by repeated squaring. Each product is rounded; for an
exponent of 1024 or more it is rounded to 57 digits instead, and only the result to as many as fit, away
from zero.
-/

namespace OlapFormula.Decimal

/-- `product` times a power of `base`; the count bounds the bits of the exponent. -/
def powBits (base product : Decimal) (exponent : Nat) : (count : Nat) → Option Decimal
  | 0 => some product
  | count + 1 => do
    let product ← if exponent % 2 = 1 then product.mul? base else some product
    if exponent / 2 = 0 then return product
    powBits (← base.mul? base) product (exponent / 2) count

/-- A positive number of at most 57 digits, times a power of ten. -/
structure Wide where
  mantissa : Nat
  exponent : Int

def digitCount (n : Nat) : Nat := (Nat.toDigits 10 n).length

def Wide.ofProduct (mantissa : Nat) (exponent : Int) : Wide :=
  let excess := digitCount mantissa - 57
  ⟨divideHalfEven mantissa (tenTo excess), exponent + excess⟩

def Wide.mul (a b : Wide) : Wide :=
  Wide.ofProduct (a.mantissa * b.mantissa) (a.exponent + b.exponent)

/-- A wide number rounded away from zero, except that one of less than `10⁻³¹` counts as zero. -/
def Wide.toDecimal? (negative : Bool) (a : Wide) : Option Decimal :=
  let magnitude := a.exponent + digitCount a.mantissa
  if 30 < magnitude then none
  else if magnitude < -30 then some zero
  else ofQuotientUp? negative (a.mantissa * tenTo a.exponent.toNat) (tenTo (-a.exponent).toNat)

def Wide.powBits (base product : Wide) (exponent : Nat) : (count : Nat) → Wide
  | 0 => product
  | count + 1 =>
    let product := if exponent % 2 = 1 then product.mul base else product
    if exponent / 2 = 0 then product else Wide.powBits (base.mul base) product (exponent / 2) count

/-- A power that rounds to zero is positive. -/
def powNat? (a : Decimal) (exponent : Nat) : Option Decimal :=
  if exponent = 0 then some one
  else if a.isZero then some zero
  else if a.same one then some one
  else if exponent = 1 then some a
  else if exponent < 1024 then
    (powBits a one exponent (exponent.log2 + 1)).map fun power => if power.isZero then zero else power
  else
    (Wide.powBits ⟨a.mantissa, -a.scale⟩ ⟨1, 0⟩ exponent (exponent.log2 + 1)).toDecimal?
      (a.negative && exponent % 2 == 1)

def powInt? (a : Decimal) : Int → Option Decimal
  | .ofNat exponent => a.powNat? exponent
  | .negSucc exponent => (a.powNat? (exponent + 1)).bind one.div?

/-- A power with a fraction for exponent, by way of the logarithm. -/
def powFraction? (a exponent : Decimal) : Option Decimal :=
  if a.isZero then some zero
  else if a.same one then some one
  else if exponent.isIntegral then none
  else do
    let logarithm ← a.ln?
    (← exponent.mul? logarithm).exp?

def pow? (a exponent : Decimal) : Option Decimal :=
  if a.isZero && exponent.negative then none
  else
    match exponent.toInt64? with
    | some n => a.powInt? n
    | none => if a.negative then none else a.powFraction? exponent

/-- Zero has no powers below zero. -/
theorem pow?_of_isZero {a exponent : Decimal} (ha : a.isZero = true) (h : exponent.negative = true) :
    a.pow? exponent = none := if_pos (Bool.and_eq_true_iff.mpr ⟨ha, h⟩)

/-- Below zero there are only powers with an integer for exponent. -/
theorem pow?_of_negative {a exponent : Decimal} (ha : a.negative = true) (h : exponent.toInt64? = none) :
    a.pow? exponent = none := by
  unfold pow?
  rw [h]
  simp [ha]

end OlapFormula.Decimal
