import OlapFormula.Decimal.Remainder
import OlapFormula.Decimal.Rounding

/-!
# Arithmetic

Sum, difference, product and quotient are the numbers nearest to the exact results, and none where those
are out of range or do not exist. The remainder is the rest of long division.
-/

namespace OlapFormula.Decimal

/-- The number nearest to an integer divided by a power of ten. -/
def ofScaled? (coefficient : Int) (scale : Nat) : Option Decimal :=
  ofQuotient? (coefficient < 0) coefficient.natAbs (tenTo scale)

/-- A number to which zero is added, or which is added to zero, stays as it is; of two zeros the second
is the sum. -/
def add? (a b : Decimal) : Option Decimal :=
  if a.isZero then some b
  else if b.isZero then some a
  else ofScaled? (a.coefficient * tenTo b.scale + b.coefficient * tenTo a.scale) (a.scale + b.scale)

/-- A zero that is subtracted keeps its sign. -/
def sub? (a b : Decimal) : Option Decimal := a.add? (if b.isZero then b else b.neg)

/-- A product with zero is the positive zero. One that rounds to zero has the sign of the exact product,
except that it is positive if both mantissas are single words. -/
def mul? (a b : Decimal) : Option Decimal :=
  if a.isZero || b.isZero then some zero
  else
    let product? := ofQuotient? false (a.mantissa * b.mantissa) (tenTo (a.scale + b.scale))
    product?.map fun product =>
      if product.isZero && a.mantissa < wordLimit && b.mantissa < wordLimit then product
      else { product with negative := a.negative != b.negative }

def div? (a b : Decimal) : Option Decimal :=
  if b.isZero then none
  else
    ofQuotient? (a.negative != b.negative) (a.mantissa * tenTo b.scale) (b.mantissa * tenTo a.scale)

theorem div?_of_isZero (a : Decimal) {b : Decimal} (h : b.isZero = true) : a.div? b = none := if_pos h

/-- The rest of the division toward zero, with the sign of the dividend. -/
def mod? (a b : Decimal) : Option Decimal :=
  if b.isZero then none
  else
    let scale := Nat.max a.scale b.scale
    let rest := restOf (a.mantissa * tenTo (scale - a.scale)) (b.mantissa * tenTo (scale - b.scale))
    ofParts? (a.negative && rest != 0) rest scale

theorem mod?_of_isZero (a : Decimal) {b : Decimal} (h : b.isZero = true) : a.mod? b = none := if_pos h

end OlapFormula.Decimal
