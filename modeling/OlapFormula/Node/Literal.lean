import OlapFormula.DataType
import OlapFormula.Decimal.Basic
import OlapFormula.Text.Quoted

/-!
# Constants
-/

namespace OlapFormula

inductive Literal
  | number (value : Decimal)
  | string (value : String)
  | boolean (value : Bool)
  | null
deriving DecidableEq

namespace Literal

def type : Literal → DataType
  | number _ => .number
  | string _ => .string
  | boolean _ => .boolean
  | null => .unknown

/-- Equality, of numbers by value. -/
def same : Literal → Literal → Bool
  | number a, number b => a.same b
  | string a, string b => a == b
  | boolean a, boolean b => a == b
  | null, null => true
  | _, _ => false

def number? : Literal → Option Decimal
  | number value => some value
  | _ => none

def string? : Literal → Option String
  | string value => some value
  | _ => none

def boolean? : Literal → Option Bool
  | boolean value => some value
  | _ => none

/-- The constant as the key of a member. -/
def key? : Literal → Option String
  | number value => some value.text
  | string value => some value
  | boolean value => some (if value then "TRUE" else "FALSE")
  | null => none

/-- The constant in formula text. -/
def text : Literal → String
  | number value => value.text
  | string value => String.ofList (Text.quote value.toList)
  | boolean value => if value then "TRUE" else "FALSE"
  | null => "NULL"

end Literal

end OlapFormula
