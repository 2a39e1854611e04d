/-!
# Decimal numbers

A number is an integer of at most 96 bits, divided by a power of ten of at most 28 places. The sign
stands on its own, so there are two zeros; they are equal in value.
-/

namespace OlapFormula

/-- Mantissas are less than this. -/
abbrev mantissaLimit : Nat := Nat.pow 2 96

/-- A power of ten. -/
abbrev tenTo (n : Nat) : Nat := Nat.pow 10 n

structure Decimal where
  negative : Bool
  mantissa : Nat
  scale : Nat
  mantissa_lt : mantissa < mantissaLimit
  scale_le : scale ≤ 28
deriving DecidableEq

namespace Decimal

def ofParts? (negative : Bool) (mantissa scale : Nat) : Option Decimal :=
  if h : mantissa < mantissaLimit ∧ scale ≤ 28 then some ⟨negative, mantissa, scale, h.1, h.2⟩
  else none

def zero : Decimal := ⟨false, 0, 0, by decide, by decide⟩

def one : Decimal := ⟨false, 1, 0, by decide, by decide⟩

def ofInt? (n : Int) : Option Decimal := ofParts? (n < 0) n.natAbs 0

def isZero (a : Decimal) : Bool := a.mantissa == 0

/-- The signed mantissa. -/
def coefficient (a : Decimal) : Int := if a.negative then -a.mantissa else a.mantissa

/-- Comparison of the values. -/
def compare (a b : Decimal) : Ordering :=
  Ord.compare (a.coefficient * tenTo b.scale) (b.coefficient * tenTo a.scale)

/-- Equality of the values: `1.0` is `1`. -/
def same (a b : Decimal) : Bool := a.compare b == .eq

def neg (a : Decimal) : Decimal := { a with negative := !a.negative }

def abs (a : Decimal) : Decimal := { a with negative := false }

/-- The first of two numbers unless the second is less. -/
def min (a b : Decimal) : Decimal := if a.compare b == .gt then b else a

/-- The first of two numbers unless the second is greater. -/
def max (a b : Decimal) : Decimal := if a.compare b == .lt then b else a

/-- Mantissa and scale without trailing zeros after the point. -/
def stripZeros (mantissa : Nat) : Nat → Nat × Nat
  | 0 => (mantissa, 0)
  | scale + 1 =>
    if mantissa % 10 = 0 then stripZeros (mantissa / 10) scale else (mantissa, scale + 1)

/-- Digits with a point before the last `scale` of them, and at least one digit before the point. -/
def pointed (mantissa scale : Nat) : List Char :=
  let digits := Nat.toDigits 10 mantissa
  let digits := List.replicate (scale + 1 - digits.length) '0' ++ digits
  let whole := digits.take (digits.length - scale)
  if scale = 0 then whole else whole ++ '.' :: digits.drop (digits.length - scale)

/-- The shortest spelling of the value. -/
def text (a : Decimal) : String :=
  let (mantissa, scale) := stripZeros a.mantissa a.scale
  let digits := pointed mantissa scale
  String.ofList (if a.negative && mantissa != 0 then '-' :: digits else digits)

/-- The value has no fraction. -/
def isIntegral (a : Decimal) : Bool := a.mantissa % tenTo a.scale == 0

/-- The value as an integer of 64 bits, if it is one. -/
def toInt64? (a : Decimal) : Option Int :=
  let n := a.coefficient.tdiv (tenTo a.scale)
  let limit : Int := Nat.pow 2 63
  if a.isIntegral && -limit ≤ n && n < limit then some n else none

end Decimal

end OlapFormula
