import OlapFormula.Decimal.Basic

/-!
# The rest of a division

The rest of long division in words of 32 bits. It is the remainder unless on the way the leading word of
a rest is that of the divisor: `nextRest` loses such a word, and what is left is another number less
than the divisor.
-/

namespace OlapFormula.Decimal

/-- Words are less than this. -/
abbrev wordLimit : Nat := Nat.pow 2 32

/-- One step of long division by a divisor of three words: the rest of `rest`, followed by the next word
of the dividend. A leading word of `rest` that is the divisor's leading word is lost. -/
def nextRest (divisor rest word : Nat) : Nat :=
  let leading := wordLimit * wordLimit
  let rest := if rest / leading = divisor / leading then rest % leading else rest
  (rest * wordLimit + word) % divisor

/-- The rest of long division of the last `count` words of a number. -/
def longRest (divisor dividend : Nat) : (count : Nat) → Nat
  | 0 => 0
  | count + 1 =>
    nextRest divisor (longRest divisor (dividend / wordLimit) count) (dividend % wordLimit)

theorem longRest_lt {divisor : Nat} (h : 0 < divisor) (dividend count : Nat) :
    longRest divisor dividend count < divisor := by
  cases count with
  | zero => exact h
  | succ count => exact Nat.mod_lt _ h

/-- A divisor of more than two words is shifted to fill three, and the dividend, which then has at most
seven, with it. For a lesser divisor nothing gets lost. -/
def restOf (dividend divisor : Nat) : Nat :=
  if dividend < divisor then dividend
  else if divisor < wordLimit * wordLimit then dividend % divisor
  else
    let shift := 95 - divisor.log2
    longRest (divisor <<< shift) (dividend <<< shift) 7 >>> shift

end OlapFormula.Decimal
