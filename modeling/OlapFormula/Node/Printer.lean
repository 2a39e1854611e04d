import OlapFormula.Node.Basic

/-!
# Formula text of nodes

The text puts parentheses where an operand would otherwise be read as part of something else, and
nowhere else.
-/

namespace OlapFormula

/-- The text of a node and how strongly it holds together. -/
structure Operand where
  precedence : Nat
  text : String

def Operand.inParentheses (operand : Operand) (needed : Bool) : String :=
  if needed then "(" ++ operand.text ++ ")" else operand.text

/-- The text of a call. An operator with another number of operands than it has is written as a
call. -/
def callText (kind : FunctionKind) (operands : List Operand) : String :=
  match kind.spelling, operands with
  | .between symbol precedence rightAssociative, [left, right] =>
    left.inParentheses (left.precedence < precedence ||
        (left.precedence == precedence && rightAssociative)) ++
      " " ++ symbol ++ " " ++
      right.inParentheses (right.precedence < precedence ||
        (right.precedence == precedence && !rightAssociative))
  | .before symbol precedence, [operand] =>
    symbol ++ operand.inParentheses (operand.precedence < precedence)
  | _, _ => kind.name ++ "(" ++ Text.joined ", " (operands.map (·.text)) ++ ")"

namespace Node

/-- A negative number is written like a negation. -/
def precedence : Node → Nat
  | call kind _ => kind.precedence
  | const (.number value) =>
    if value.negative && !value.isZero then FunctionKind.negate.precedence else atomPrecedence
  | _ => atomPrecedence

mutual

/-- The canonical text. -/
def text : Node → String
  | const value => value.text
  | constList values => "\x7b" ++ Text.joined ", " (values.map Literal.text) ++ "\x7d"
  | dimension ref => ref.reference.text
  | measure ref => ref.reference.text
  | call kind args => callText kind (operands args)
  | array items => "\x7b" ++ Text.joined ", " ((operands items).map (·.text)) ++ "\x7d"
  | restricted derived => derived.text

def operands : List Node → List Operand
  | [] => []
  | node :: nodes => ⟨node.precedence, text node⟩ :: operands nodes

end

end Node

end OlapFormula
