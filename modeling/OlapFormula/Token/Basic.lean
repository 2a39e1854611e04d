import OlapFormula.DataType
import OlapFormula.Lexeme

/-!
# Tokens

What an editor shows and offers help for: the parts of a formula with a meaning, which may lie inside
each other. A token answers to the places of its interaction span, which can be wider than the token
itself.
-/

namespace OlapFormula

inductive TokenKind
  | dimension
  | measure
  | number
  | function
  | argument
  /-- Anything in brackets. -/
  | generic
deriving Repr, DecidableEq

namespace TokenKind

def name : TokenKind → String
  | dimension => "Dimension"
  | measure => "Measure"
  | number => "Number"
  | function => "Function"
  | argument => "Argument"
  | generic => "Generic"

/-- Of tokens at one place those of the least rank are the most telling. -/
def rank : TokenKind → Nat
  | dimension | measure | number => 0
  | generic => 1
  | argument => 2
  | function => 3

end TokenKind

/-- A member filter as it is written after a reference to a dimension. -/
structure WrittenFilter where
  dimension : String
  hierarchy : Option String
  /-- The operator; `NOT` and `IN` have one space between them. -/
  operator : Option String := none
  excludes : Bool := false
  multiSelect : Bool := false
  /-- The text of the member or of the list of members. -/
  members : Option String := none
deriving Repr, DecidableEq

/-- A reference to a dimension with the member filter after it. -/
structure DimensionToken where
  type : DataType
  text : String
  span : Span
  interaction : Span
  filter : WrittenFilter
deriving Repr, DecidableEq

/-- A call as it is written, possibly not to its end. -/
structure WrittenCall where
  name : String
  /-- What stands between the parentheses and the commas. -/
  arguments : List Span
  /-- The references to dimensions anywhere in the call. -/
  dimensions : List DimensionToken
  closed : Bool
deriving Repr, DecidableEq

inductive TokenPayload
  | filter (filter : WrittenFilter)
  | call (call : WrittenCall)
deriving Repr, DecidableEq

structure Token where
  kind : TokenKind
  /-- The types that the token has; of an argument, the types that are accepted. -/
  types : List DataType := []
  text : String
  span : Span
  interaction : Span := span
  payload : Option TokenPayload := none
deriving Repr, DecidableEq

def DimensionToken.toToken (token : DimensionToken) : Token :=
  { kind := .dimension
    types := [token.type]
    text := token.text
    span := token.span
    interaction := token.interaction
    payload := some (.filter token.filter) }

/-- A place in a span or at one of its ends. -/
def Span.touches (span : Span) (place : Nat) : Bool := span.start ≤ place && place ≤ span.stop

def Span.length (span : Span) : Nat := span.stop - span.start

def Span.covers (outer inner : Span) : Bool :=
  outer.start ≤ inner.start && inner.stop ≤ outer.stop

/-- What stands in a span of a formula. -/
def textIn (cs : List Char) (span : Span) : String := String.ofList (Text.slice cs span)

end OlapFormula
