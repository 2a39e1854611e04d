import OlapFormula.Function.Item
import OlapFormula.Token.Basic

/-!
# Tokens of calls and arguments

A call is a name before an opening parenthesis. It ends with the bracket that closes this parenthesis,
whichever kind of bracket that is, or with the formula.
-/

namespace OlapFormula

namespace Token

/-- Where a call ends and what stands between its commas. -/
structure CallShape where
  arguments : List Span
  stop : Nat
  closed : Bool

/-- The argument before the end of a call; there is none if the call has no commas and the argument is
blank. -/
def lastArgument (cs : List Char) (isFirst : Bool) (argument : Span) : List Span :=
  if isFirst && Text.isAllBlank (Text.slice cs argument) then [] else [argument]

/-- The shape of a call from inside it, where `depth` brackets are open and an argument, perhaps the
first one, begins at `start`. -/
def shapeFrom (cs : List Char) (isFirst : Bool) (depth start : Nat) : List Lexeme → CallShape
  | [] =>
    let size := Text.byteLength cs
    ⟨lastArgument cs isFirst ⟨start, size⟩, size, false⟩
  | lexeme :: rest =>
    match lexeme.kind with
    | .leftParen | .leftBrace => shapeFrom cs isFirst (depth + 1) start rest
    | .rightParen | .rightBrace =>
      if depth ≤ 1 then ⟨lastArgument cs isFirst ⟨start, lexeme.start⟩, lexeme.stop, true⟩
      else shapeFrom cs isFirst (depth - 1) start rest
    | .comma =>
      if depth = 1 then
        let shape := shapeFrom cs false depth lexeme.stop rest
        { shape with arguments := ⟨start, lexeme.start⟩ :: shape.arguments }
      else shapeFrom cs isFirst depth start rest
    | _ => shapeFrom cs isFirst depth start rest

/-- A span without the white space at its ends. -/
def trimSpan (cs : List Char) (span : Span) : Span :=
  let inner := Text.slice cs span
  let trimmed := Text.trimStart inner
  let start := span.start + (Text.byteLength inner - Text.byteLength trimmed)
  ⟨start, start + Text.byteLength (Text.trimEnd trimmed)⟩

/-- Words that are operators before a parenthesis as well. -/
def isOperatorWord (lexeme : Lexeme) : Bool := ["AND", "OR", "NOT", "IN"].any lexeme.isKeyword

/-- The parenthesis that makes a name the name of a call, and what comes after it. -/
def opening? (name : Lexeme) (rest : List Lexeme) : Option (Lexeme × List Lexeme) :=
  match rest with
  | paren :: inner =>
    if name.kind = .identifier && !isOperatorWord name && paren.kind == .leftParen then
      some (paren, inner)
    else none
  | [] => none

/-- The types that an item, if it is known, accepts in a position. -/
def acceptedTypes (item : Option FunctionItem) (position : Nat) : List DataType :=
  ((item.bind (·.contract? position)).map (·.types)).getD []

def argument (cs : List Char) (item : Option FunctionItem) (position : Nat) (span : Span) : Token :=
  let inner := trimSpan cs span
  { kind := .argument
    types := acceptedTypes item position
    text := textIn cs inner
    span := inner
    interaction := span }

/-- The token of a call and those of its arguments; `item?` knows what names stand for. -/
def ofCall (item? : String → Option FunctionItem) (cs : List Char)
    (dimensions : List DimensionToken) (name paren : Lexeme) (inner : List Lexeme) : List Token :=
  let shape := shapeFrom cs true 1 paren.stop inner
  let span : Span := ⟨name.start, shape.stop⟩
  let called := String.ofList (Text.upper name.chars)
  let call : WrittenCall :=
    { name := called
      arguments := shape.arguments
      dimensions := dimensions.filter fun token => span.covers token.span
      closed := shape.closed }
  { kind := .function, text := textIn cs span, span, payload := some (.call call) } ::
    shape.arguments.mapIdx (argument cs (item? called))

def calls (item? : String → Option FunctionItem) (cs : List Char)
    (dimensions : List DimensionToken) : List Lexeme → List Token
  | [] => []
  | name :: rest =>
    match opening? name rest with
    | some (paren, inner) =>
      ofCall item? cs dimensions name paren inner ++ calls item? cs dimensions rest
    | none => calls item? cs dimensions rest

end Token

end OlapFormula
