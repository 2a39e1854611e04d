import OlapFormula.Decimal.Rounding

/-!
# Reading numbers

A literal is read digit by digit as long as there is room. The digit after that decides the rounding
alone, and the rest is dropped.
-/

namespace OlapFormula.Decimal

def digitValue (c : Char) : Nat := c.toNat - '0'.toNat

/-- Rounds up if the next digit is five or more. If there is no room for that, a place is given up. -/
def ofNextDigit? (mantissa scale digit : Nat) : Option Decimal :=
  if digit < 5 then ofParts? false mantissa scale
  else if mantissa + 1 < mantissaLimit then ofParts? false (mantissa + 1) scale
  else if scale = 0 then none
  else ofParts? false ((mantissa + 5) / 10) (scale - 1)

/-- Reads the digits after the point. -/
def ofFraction? (mantissa scale : Nat) : List Char → Option Decimal
  | [] => ofParts? false mantissa scale
  | c :: cs =>
    let next := mantissa * 10 + digitValue c
    if scale < 28 && next < mantissaLimit then ofFraction? next (scale + 1) cs
    else ofNextDigit? mantissa scale (digitValue c)

def naturalOf (digits : List Char) : Nat := digits.foldl (fun n c => n * 10 + digitValue c) 0

/-- Reads digits with or without a point among them. -/
def ofPositional? (cs : List Char) : Option Decimal :=
  let whole := naturalOf (cs.takeWhile Char.isDigit)
  if whole < mantissaLimit then ofFraction? whole 0 ((cs.dropWhile Char.isDigit).drop 1) else none

/-- Moves the point `places` places to the left. -/
def shiftLeft? (a : Decimal) (places : Nat) : Option Decimal :=
  if places ≤ 28 then ofParts? a.negative a.mantissa (a.scale + places) else none

/-- Moves the point `places` places to the right. -/
def shiftRight? (a : Decimal) (places : Nat) : Option Decimal :=
  if places ≤ a.scale then ofParts? a.negative a.mantissa (a.scale - places)
  else if places ≤ 28 then ofParts? a.negative (a.mantissa * tenTo (places - a.scale)) 0
  else none

/-- Reads a literal of formula text: digits, perhaps a point, perhaps an exponent. -/
def ofLiteral? (cs : List Char) : Option Decimal := do
  let isMark (c : Char) := c == 'e' || c == 'E'
  let a ← ofPositional? (cs.takeWhile fun c => !isMark c)
  match (cs.dropWhile fun c => !isMark c).drop 1 with
  | [] => a
  | '-' :: exponent => a.shiftLeft? (naturalOf exponent)
  | '+' :: exponent => a.shiftRight? (naturalOf exponent)
  | exponent => a.shiftRight? (naturalOf exponent)

end OlapFormula.Decimal
