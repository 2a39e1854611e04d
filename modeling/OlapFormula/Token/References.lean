import OlapFormula.Token.Basic

/-!
# Tokens of references and numbers
-/

namespace OlapFormula

namespace Token

/-- The reference that a lexeme is. -/
def reference? (lexeme : Lexeme) : Option FieldReference :=
  if lexeme.kind = .field then FieldReference.parse? lexeme.chars else none

def isComparison : LexemeKind → Bool
  | .equal | .notEqual | .less | .lessEqual | .greater | .greaterEqual => true
  | _ => false

/-- The operator of a member filter, its last lexeme, and the lexemes after it. -/
def filterOperator? : List Lexeme → Option (String × Lexeme × List Lexeme)
  | [] => none
  | first :: rest =>
    if isComparison first.kind then some (first.text, first, rest)
    else if first.isKeyword "IN" then some ("IN", first, rest)
    else if first.isKeyword "NOT" then
      match rest with
      | second :: rest => if second.isKeyword "IN" then some ("NOT IN", second, rest) else none
      | [] => none
    else none

/-- The place past the brace that closes `depth` open ones. -/
def pastBraces? (depth : Nat) : List Lexeme → Option Nat
  | [] => none
  | lexeme :: rest =>
    match lexeme.kind with
    | .leftBrace => pastBraces? (depth + 1) rest
    | .rightBrace => if depth ≤ 1 then some lexeme.stop else pastBraces? (depth - 1) rest
    | _ => pastBraces? depth rest

def isMember (lexeme : Lexeme) : Bool :=
  lexeme.kind == .string || lexeme.kind == .number ||
    ["TRUE", "FALSE", "NULL"].any lexeme.isKeyword

/-- Where the member or the list of members of a filter stands in a formula of `size` bytes. A list
that is not closed runs to the end. -/
def memberSpan? (size : Nat) : List Lexeme → Option Span
  | [] => none
  | first :: rest =>
    if isMember first then some first.span
    else if first.kind = .leftBrace then
      some ⟨first.start, (pastBraces? 1 rest).getD size⟩
    else none

def isExclusion (operator : String) : Bool :=
  operator == "!=" || operator == "<>" || operator == "NOT IN"

def isMembership (operator : String) : Bool := operator == "IN" || operator == "NOT IN"

/-- The token of a reference to a dimension before the lexemes `rest`. -/
def ofDimension (cs : List Char) (lexeme : Lexeme) (reference : FieldReference)
    (rest : List Lexeme) : DimensionToken :=
  let type := if reference.property.isSome then DataType.dimensionAttribute else .dimension
  let filter : WrittenFilter := { dimension := reference.id, hierarchy := reference.hierarchy }
  match filterOperator? rest with
  | none =>
    { type, text := lexeme.text, span := lexeme.span, interaction := lexeme.span, filter }
  | some (operator, last, rest) =>
    let members := memberSpan? (Text.byteLength cs) rest
    { type
      text := lexeme.text
      span := lexeme.span
      interaction := ⟨lexeme.start, (members.map (·.stop)).getD last.stop⟩
      filter := { filter with
        operator := some operator
        excludes := isExclusion operator
        multiSelect := isMembership operator
        members := members.map (textIn cs) } }

/-- The references to dimensions among the lexemes of a formula. -/
def dimensions (cs : List Char) : List Lexeme → List DimensionToken
  | [] => []
  | lexeme :: rest =>
    match reference? lexeme with
    | some reference =>
      if reference.kind = .dimension then
        ofDimension cs lexeme reference rest :: dimensions cs rest
      else dimensions cs rest
    | none => dimensions cs rest

def measures (lexemes : List Lexeme) : List Token :=
  (lexemes.filter fun lexeme => (reference? lexeme).any (·.kind == .measure)).map fun lexeme =>
    { kind := .measure, types := [.measure], text := lexeme.text, span := lexeme.span }

/-- A number of digits only is an integer as well. -/
def numberTypes (lexeme : Lexeme) : List DataType :=
  if lexeme.chars.all Char.isDigit then [.integer, .number] else [.number]

def numbers (lexemes : List Lexeme) : List Token :=
  (lexemes.filter (·.kind == .number)).map fun lexeme =>
    { kind := .number, types := numberTypes lexeme, text := lexeme.text, span := lexeme.span }

/-- Everything in brackets, be it a reference or not. -/
def brackets (cs : List Char) : List Token :=
  (FieldReference.spans cs).map fun (span, _) => { kind := .generic, text := textIn cs span, span }

end Token

end OlapFormula
