import OlapFormula.Expr.Basic
import OlapFormula.Lexeme

/-!
# Reading a formula

A recursive descent over the lexemes, one function for each level of precedence:

* `OR`, `AND`, prefix `NOT`
* `=`, `!=`, `<>`, `<`, `<=`, `>`, `>=`, `IN`, `NOT IN`
* `+` and `-`, `*` and `/`, `^` (to the right)
* prefix `-` and `+`, and what needs no parentheses

Two limits keep formulas small. Everything that nests (parentheses, lists, calls, `NOT`, `^` and signs)
uses up a budget on the way in, and the recursion of the reader is the recursion on that budget. Chains
of operators do not nest, so the height of the result is bounded on its own.
-/

namespace OlapFormula

/-- What is wrong at a place of a formula. -/
inductive ParseProblem
  | emptyFormula
  | unexpectedEnd
  | trailingText (rest : String)
  /-- Something else is required; `found` is nothing at the end of the formula. -/
  | expected (what : String) (found : Option String)
  | malformedField (text : String)
  | unknownIdentifier (text : String)
  | unterminated
  | unexpectedLexeme (text : String)
deriving Repr, DecidableEq

inductive ParseError
  | problemAt (place : Nat) (problem : ParseProblem)
  | nestingTooDeep (limit : Nat)
deriving Repr, DecidableEq

def ParseProblem.message : ParseProblem → String
  | emptyFormula => "Formula is empty"
  | unexpectedEnd => "Unexpected end of formula"
  | trailingText rest => "Unexpected characters after expression: '" ++ rest ++ "'"
  | expected what (some found) => "Expected " ++ what ++ ", got '" ++ found ++ "'"
  | expected what none => "Expected " ++ what ++ ", got end of formula"
  | malformedField text => "Malformed field reference '" ++ text ++ "'"
  | unknownIdentifier text => "Unknown identifier '" ++ text ++ "'"
  | unterminated => "Unterminated string or field reference"
  | unexpectedLexeme text => "Unexpected token '" ++ text ++ "'"

def ParseError.message : ParseError → String
  | problemAt place problem => "Parse error at " ++ toString place ++ ": " ++ problem.message
  | nestingTooDeep limit => "Formula nesting exceeds the maximum depth of " ++ toString limit

structure NestingLimits where
  depth : Nat := 64
  height : Nat := 512
deriving Repr, DecidableEq

/-- Limits that bound nothing but the nesting, as far as the depth alone can. -/
def NestingLimits.ofDepth (depth : Nat) : NestingLimits := { depth, height := max 512 depth }

namespace Expr

/-- Reads an expression off the front of a list of lexemes. -/
abbrev Reader := List Lexeme → Except ParseError (Expr × List Lexeme)

/-- The levels of precedence at which something nested begins. -/
inductive Level
  | formula
  | negation
  | power
  | sign
deriving Repr, DecidableEq

def startsWith (kind : LexemeKind) : List Lexeme → Bool
  | [] => false
  | lexeme :: _ => lexeme.kind == kind

/-- Drops a lexeme that has to be there. -/
def expect (size : Nat) (kind : LexemeKind) (what : String) (ls : List Lexeme) :
    Except ParseError (List Lexeme) :=
  match ls with
  | lexeme :: rest =>
    if lexeme.kind = kind then .ok rest
    else .error (.problemAt lexeme.start (.expected what (some lexeme.text)))
  | [] => .error (.problemAt size (.expected what none))

/-- Extends `left` by operators and operands as long as there are any, to the left. The count bounds
the operators; the lexemes that are left are enough. -/
def chain (operator : List Lexeme → Option (BinaryOperator × List Lexeme)) (operand : Reader) :
    Nat → Expr → Reader
  | 0, left, ls => .ok (left, ls)
  | count + 1, left, ls =>
    match operator ls with
    | none => .ok (left, ls)
    | some (op, ls) => do
      let (right, ls) ← operand ls
      chain operator operand count (.binary op left right) ls

def leftAssociative (operator : List Lexeme → Option (BinaryOperator × List Lexeme))
    (operand : Reader) : Reader := fun ls => do
  let (left, ls) ← operand ls
  chain operator operand ls.length left ls

/-- Reads the expressions after the first of a list, each after a comma. -/
def moreItems (item : Reader) : Nat → List Lexeme → Except ParseError (List Expr × List Lexeme)
  | 0, ls => .ok ([], ls)
  | count + 1, ls =>
    if startsWith .comma ls then do
      let (first, ls) ← item ls.tail
      let (rest, ls) ← moreItems item count ls
      return (first :: rest, ls)
    else .ok ([], ls)

/-- Reads expressions between commas, possibly none, and the bracket that closes them. -/
def items (size : Nat) (item : Reader) (closing : LexemeKind) (what : String) (ls : List Lexeme) :
    Except ParseError (List Expr × List Lexeme) := do
  if startsWith closing ls then return ([], ls.tail)
  let (first, ls) ← item ls
  let (rest, ls) ← moreItems item ls.length ls
  let ls ← expect size closing what ls
  return (first :: rest, ls)

/-- What a name stands for that is not called. -/
def ofName? (lexeme : Lexeme) : Option Expr :=
  if lexeme.isKeyword "TRUE" then some (.boolean true)
  else if lexeme.isKeyword "FALSE" then some (.boolean false)
  else if lexeme.isKeyword "NULL" then some .null
  else none

/-- The readers one level further in, or the error that there is no room for one. -/
abbrev Nested := Except ParseError (Level → Reader)

/-- Literals, fields, lists, calls and parentheses. -/
def primary (size : Nat) (nested : Nested) : Reader
  | [] => .error (.problemAt size .unexpectedEnd)
  | lexeme :: ls =>
    match lexeme.kind with
    | .number => .ok (.number lexeme.text, ls)
    | .string => .ok (.string (String.ofList (Text.unquote lexeme.chars)), ls)
    | .field =>
      match FieldReference.parse? lexeme.chars with
      | some reference => .ok (.field reference, ls)
      | none => .error (.problemAt lexeme.start (.malformedField lexeme.text))
    | .leftParen => do
      let read ← nested
      let (inner, ls) ← read .formula ls
      let ls ← expect size .rightParen "')'" ls
      return (inner, ls)
    | .leftBrace => do
      let read ← nested
      let (elements, ls) ← items size (read .formula) .rightBrace "',' or '\x7d' in list" ls
      return (.list elements, ls)
    | .identifier =>
      if startsWith .leftParen ls then do
        let read ← nested
        let (args, ls) ← items size (read .formula) .rightParen "',' or ')'" ls.tail
        return (.call (String.ofList (Text.upper lexeme.chars)) args, ls)
      else
        match ofName? lexeme with
        | some e => .ok (e, ls)
        | none => .error (.problemAt lexeme.start (.unknownIdentifier lexeme.text))
    | .unterminated => .error (.problemAt lexeme.start .unterminated)
    | _ => .error (.problemAt lexeme.start (.unexpectedLexeme lexeme.text))

def signed (size : Nat) (nested : Nested) : Reader := fun ls =>
  if startsWith .minus ls then do
    let read ← nested
    let (operand, ls) ← read .sign ls.tail
    return (.unary .negate operand, ls)
  else if startsWith .plus ls then do
    let read ← nested
    read .sign ls.tail
  else primary size nested ls

def power (size : Nat) (nested : Nested) : Reader := fun ls => do
  let (base, ls) ← signed size nested ls
  if startsWith .caret ls then
    let read ← nested
    let (exponent, ls) ← read .power ls.tail
    return (.binary .power base exponent, ls)
  return (base, ls)

/-- Reads the operator that the symbol in front stands for. -/
def symbolOperator (operator? : LexemeKind → Option BinaryOperator) :
    List Lexeme → Option (BinaryOperator × List Lexeme)
  | [] => none
  | lexeme :: ls => (operator? lexeme.kind).map (·, ls)

def ofProduct? : LexemeKind → Option BinaryOperator
  | .star => some .multiply
  | .slash => some .divide
  | _ => none

def ofSum? : LexemeKind → Option BinaryOperator
  | .plus => some .add
  | .minus => some .subtract
  | _ => none

def ofComparison? : LexemeKind → Option BinaryOperator
  | .equal => some .equal
  | .notEqual => some .notEqual
  | .less => some .less
  | .lessEqual => some .lessEqual
  | .greater => some .greater
  | .greaterEqual => some .greaterEqual
  | _ => none

def startsWithWord (word : String) : List Lexeme → Bool
  | [] => false
  | lexeme :: _ => lexeme.isKeyword word

/-- Comparisons are symbols, memberships are words. -/
def comparisonOperator (ls : List Lexeme) : Option (BinaryOperator × List Lexeme) :=
  match symbolOperator ofComparison? ls with
  | some found => some found
  | none =>
    if startsWithWord "IN" ls then some (.isIn, ls.tail)
    else if startsWithWord "NOT" ls && startsWithWord "IN" ls.tail then some (.notIn, ls.tail.tail)
    else none

def wordOperator (word : String) (op : BinaryOperator) (ls : List Lexeme) :
    Option (BinaryOperator × List Lexeme) :=
  if startsWithWord word ls then some (op, ls.tail) else none

def product (size : Nat) (nested : Nested) : Reader :=
  leftAssociative (symbolOperator ofProduct?) (power size nested)

def sum (size : Nat) (nested : Nested) : Reader :=
  leftAssociative (symbolOperator ofSum?) (product size nested)

def comparison (size : Nat) (nested : Nested) : Reader :=
  leftAssociative comparisonOperator (sum size nested)

def negation (size : Nat) (nested : Nested) : Reader := fun ls =>
  if startsWithWord "NOT" ls then do
    let read ← nested
    let (operand, ls) ← read .negation ls.tail
    return (.unary .not operand, ls)
  else comparison size nested ls

def conjunction (size : Nat) (nested : Nested) : Reader :=
  leftAssociative (wordOperator "AND" .and) (negation size nested)

def disjunction (size : Nat) (nested : Nested) : Reader :=
  leftAssociative (wordOperator "OR" .or) (conjunction size nested)

def atLevel (size : Nat) (nested : Nested) : Level → Reader
  | .formula => disjunction size nested
  | .negation => negation size nested
  | .power => power size nested
  | .sign => signed size nested

/-- The readers for what nests in a place where `budget` more levels are allowed. -/
def nestedWithin (size limit : Nat) : (budget : Nat) → Nested
  | 0 => .error (.nestingTooDeep limit)
  | budget + 1 => .ok fun level => atLevel size (nestedWithin size limit budget) level

/-- Reads all lexemes as one expression that nests at most `limit` levels deep. -/
def ofLexemes (size limit : Nat) (ls : List Lexeme) : Except ParseError (Expr × List Lexeme) :=
  disjunction size (nestedWithin size limit limit) ls

/-- Reads a formula. -/
def parse (limits : NestingLimits) (text : String) : Except ParseError Expr := do
  let cs := text.toList
  let size := Text.byteLength cs
  let ls := Lexeme.scan cs
  if ls.isEmpty then throw (.problemAt 0 .emptyFormula)
  let (e, rest) ← ofLexemes size limits.depth ls
  match rest with
  | lexeme :: _ =>
    let trailing := Text.slice cs ⟨lexeme.start, size⟩
    throw (.problemAt lexeme.start (.trailingText (String.ofList trailing)))
  | [] =>
    if e.height > limits.height then throw (.nestingTooDeep limits.height)
    return e

end Expr

end OlapFormula
