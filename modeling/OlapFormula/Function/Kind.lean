/-!
# Kinds of functions

Everything that a formula can compute with: operators and functions alike. Where the backends differ in
what a function does, each has a kind of its own under the same name.
-/

namespace OlapFormula

inductive FunctionKind
  | add
  | subtract
  | multiply
  | divide
  | power
  | negate
  | equal
  | notEqual
  | less
  | lessEqual
  | greater
  | greaterEqual
  | isIn
  | notIn
  | and
  | or
  | not
  | ifThen
  | isNullHana
  | isNullBw
  | abs
  | sqrt
  | log
  | log10
  | exp
  | floor
  | ceil
  | mod
  | round
  | trunc
  | min
  | max
  | int
  | float
  | length
  | upper
  | lower
  | concat
  | like
  | substring
  | replace
  | dateDiffHana
  | dateDiffBw
  | daysBetween
  | monthsBetween
  | yearsBetween
  | restrict
  | grandTotal
  | subtotal
  | subtotalByIds
  | percentOfGrandTotal
  | percentOfSubtotal
deriving Repr, DecidableEq

inductive Category
  | operator
  | logical
  | math
  | text
  | date
  | olap
deriving Repr, DecidableEq

namespace Category

def name : Category → String
  | operator => "operator"
  | logical => "logical"
  | math => "math"
  | text => "text"
  | date => "date"
  | olap => "olap"

/-- Where the category stands in a listing. -/
def rank : Category → Nat
  | operator => 0
  | logical => 1
  | math => 2
  | text => 3
  | date => 4
  | olap => 5

end Category

/-- How a call is written in formula text. Of two operators the one with the greater precedence binds
its operands first. -/
inductive Spelling
  | call
  | between (symbol : String) (precedence : Nat) (rightAssociative : Bool)
  | before (symbol : String) (precedence : Nat)
deriving Repr, DecidableEq

/-- The precedence of what needs no parentheses anywhere. -/
def atomPrecedence : Nat := 10

namespace FunctionKind

def name : FunctionKind → String
  | add => "+"
  | subtract => "-"
  | multiply => "*"
  | divide => "/"
  | power => "^"
  | negate => "NEGATE"
  | equal => "="
  | notEqual => "!="
  | less => "<"
  | lessEqual => "<="
  | greater => ">"
  | greaterEqual => ">="
  | isIn => "IN"
  | notIn => "NOTIN"
  | and => "AND"
  | or => "OR"
  | not => "NOT"
  | ifThen => "IF"
  | isNullHana | isNullBw => "ISNULL"
  | abs => "ABS"
  | sqrt => "SQRT"
  | log => "LOG"
  | log10 => "LOG10"
  | exp => "EXP"
  | floor => "FLOOR"
  | ceil => "CEIL"
  | mod => "MOD"
  | round => "ROUND"
  | trunc => "TRUNC"
  | min => "MIN"
  | max => "MAX"
  | int => "INT"
  | float => "FLOAT"
  | length => "LENGTH"
  | upper => "UPPER"
  | lower => "LOWER"
  | concat => "CONCAT"
  | like => "LIKE"
  | substring => "SUBSTRING"
  | replace => "REPLACE"
  | dateDiffHana | dateDiffBw => "DATEDIFF"
  | daysBetween => "CALCDAYSBETWEEN"
  | monthsBetween => "CALCMONTHSBETWEEN"
  | yearsBetween => "CALCYEARSBETWEEN"
  | restrict => "RESTRICT"
  | grandTotal => "GRANDTOTAL"
  | subtotal => "SUBTOTAL"
  | subtotalByIds => "SUBTOTALBYIDS"
  | percentOfGrandTotal => "PERCENTOFGRANDTOTAL"
  | percentOfSubtotal => "PERCENTOFSUBTOTAL"

def category : FunctionKind → Category
  | add | subtract | multiply | divide | power | negate | equal | notEqual | less | lessEqual
  | greater | greaterEqual | isIn | notIn => .operator
  | and | or | not | ifThen | isNullHana | isNullBw => .logical
  | abs | sqrt | log | log10 | exp | floor | ceil | mod | round | trunc | min | max | int
  | float => .math
  | length | upper | lower | concat | like | substring | replace => .text
  | dateDiffHana | dateDiffBw | daysBetween | monthsBetween | yearsBetween => .date
  | restrict | grandTotal | subtotal | subtotalByIds | percentOfGrandTotal
  | percentOfSubtotal => .olap

def spelling : FunctionKind → Spelling
  | or => .between "OR" 1 false
  | and => .between "AND" 2 false
  | not => .before "NOT " 3
  | equal => .between "=" 4 false
  | notEqual => .between "!=" 4 false
  | less => .between "<" 4 false
  | lessEqual => .between "<=" 4 false
  | greater => .between ">" 4 false
  | greaterEqual => .between ">=" 4 false
  | isIn => .between "IN" 4 false
  | notIn => .between "NOT IN" 4 false
  | add => .between "+" 5 false
  | subtract => .between "-" 5 false
  | multiply => .between "*" 6 false
  | divide => .between "/" 6 false
  | power => .between "^" 7 true
  | negate => .before "-" 8
  | _ => .call

def precedence (kind : FunctionKind) : Nat :=
  match kind.spelling with
  | .call => atomPrecedence
  | .between _ precedence _ => precedence
  | .before _ precedence => precedence

def isComparison : FunctionKind → Bool
  | equal | notEqual | less | lessEqual | greater | greaterEqual => true
  | _ => false

end FunctionKind

end OlapFormula
