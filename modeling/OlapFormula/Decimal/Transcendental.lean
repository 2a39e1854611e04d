import OlapFormula.Decimal.Arithmetic

/-!
# Roots, logarithms and the exponential function

Series are summed in fixed point with sixty places, far more than a number has, and rounded once at the
end.
-/

namespace OlapFormula.Decimal

/-- One, in fixed point. -/
def unit : Nat := tenTo 60

/-- The integer square root, two bits at a time; the count bounds the bits. -/
def sqrtBits : (count : Nat) → Nat → Nat
  | 0, _ => 0
  | count + 1, n =>
    let root := 2 * sqrtBits count (n / 4)
    if (root + 1) * (root + 1) ≤ n then root + 1 else root

def natSqrt (n : Nat) : Nat := sqrtBits (n.log2 / 2 + 1) n

def sqrt? (a : Decimal) : Option Decimal :=
  if a.negative then none
  else ofQuotient? false (natSqrt (a.mantissa * tenTo (120 - a.scale))) unit

theorem sqrt?_of_negative {a : Decimal} (h : a.negative = true) : a.sqrt? = none := if_pos h

/-- The terms `term / k + term · square / (k + 2) + …` of the series of the inverse hyperbolic tangent. -/
def artanhTerms : (count : Nat) → (k : Nat) → (term square : Int) → Int
  | 0, _, _, _ => 0
  | count + 1, k, term, square =>
    term.tdiv k + artanhTerms count (k + 2) ((term * square).tdiv unit) square

/-- Twice the inverse hyperbolic tangent of `(num - den) / (num + den)`, which is the logarithm of
`num / den`, for a quotient between a half and two. -/
def lnNearOne (num den : Nat) : Int :=
  let y := (((num : Int) - den) * unit).tdiv (num + den)
  2 * artanhTerms 70 1 y ((y * y).tdiv unit)

/-- The logarithm of a quotient of positive integers: a power of two is split off first. -/
def lnQuotient (num den : Nat) : Int :=
  let shift : Int := (num.log2 : Int) - den.log2
  lnNearOne (num <<< (-shift).toNat) (den <<< shift.toNat) + shift * lnNearOne 2 1

def isPositive (a : Decimal) : Bool := !a.negative && !a.isZero

def ln? (a : Decimal) : Option Decimal :=
  if a.isPositive then ofScaled? (lnQuotient a.mantissa (tenTo a.scale)) 60 else none

def log10? (a : Decimal) : Option Decimal :=
  if a.isPositive then
    ofScaled? ((lnQuotient a.mantissa (tenTo a.scale) * unit).tdiv (lnQuotient 10 1)) 60
  else none

/-- At zero and below there are no logarithms. -/
theorem ln?_of_not_isPositive {a : Decimal} (h : ¬a.isPositive = true) : a.ln? = none := if_neg h

theorem log10?_of_not_isPositive {a : Decimal} (h : ¬a.isPositive = true) : a.log10? = none := if_neg h

/-- The terms `term + term · x / k + …` of the exponential series. -/
def expTerms : (count : Nat) → (k term x : Nat) → Nat
  | 0, _, _, _ => 0
  | count + 1, k, term, x => term + expTerms count (k + 1) (term * x / (k * unit)) x

/-- The exponential of a number; a negative one is the reciprocal of the positive. There is none from
`66.539` on, shortly before the exponential gets too great for a number. -/
def exp? (a : Decimal) : Option Decimal :=
  if 66539 * tenTo a.scale ≤ 1000 * a.mantissa then none
  else
    let power := ofQuotient? false (expTerms 400 1 unit (a.mantissa * unit / tenTo a.scale)) unit
    if a.negative then power.bind one.div? else power

end OlapFormula.Decimal
