import OlapFormula.Checks.Pipeline
import OlapFormula.Decimal.Reading
import OlapFormula.Expr.Basic
import OlapFormula.Lowering
import OlapFormula.Model.Store
import OlapFormula.Settings

/-!
# Building nodes

From an expression and a model to a node and what there is to say about it. Names are resolved, every
call is checked, and a call without errors is lowered as soon as it is built. What cannot be built
becomes `NULL`, so that the rest of the formula is checked all the same.
-/

namespace OlapFormula

namespace Node

/-- A whole number becomes a call of `FLOAT`: a backend that divides two integers gives an integer. -/
def castInteger : Node → Node
  | const (.number n) =>
    if n.isIntegral then call .float [const (.number n)] else const (.number n)
  | node => node

/-- Casts the whole numbers among two operands that are not both constants. -/
def castIntegers (args : List Node) : List Node :=
  if args.length = 2 && !args.all isLiteral then args.map castInteger else args

end Node

/-- The arguments of a call as they are checked. -/
def FunctionKind.prepare (kind : FunctionKind) (args : List Node) : List Node :=
  match kind with
  | divide | power => Node.castIntegers args
  | _ => args

/-- A node, and the messages in the order of the formula. -/
abbrev Built := Node × List Message

namespace Construction

def ofSpelling (spelling : String) : Built :=
  match Decimal.ofLiteral? spelling.toList with
  | some value => (.number value, [])
  | none =>
    (.null, [{ code := .syntaxError, text := "Number " ++ spelling ++ " is out of range" }])

def ofMeasure (model : Model) (reference : FieldReference) : Built :=
  let measure := model.measure? reference.id
  (.measure ⟨reference, measure⟩,
    (if reference.suffix.isSome then
      [{ code := .invalidSecondField
         text := "Measure " ++ reference.text ++ " cannot have a property or hierarchy" }]
    else []) ++
    if measure.isNone then
      [{ code := .invalidMeasure, text := "Unknown measure " ++ reference.id }]
    else [])

/-- What is wrong with the property or the hierarchy through which a dimension is seen. -/
def suffixMessages (dimension : Dimension) (suffix : FieldSuffix) : List Message :=
  match suffix.kind with
  | .property =>
    if dimension.properties.contains suffix.id then []
    else
      [{ code := .invalidProperty
         text := "Dimension " ++ dimension.id ++ " has no property " ++ suffix.id }]
  | .hierarchy =>
    if dimension.hierarchies.contains suffix.id then []
    else
      [{ code := .invalidHierarchy
         text := "Dimension " ++ dimension.id ++ " has no hierarchy " ++ suffix.id }]

def ofDimension (model : Model) (reference : FieldReference) : Built :=
  match model.dimension? reference.id with
  | none =>
    (.dimension ⟨reference, none⟩,
      [{ code := .invalidDimension, text := "Unknown dimension " ++ reference.id }])
  | some dimension =>
    (.dimension ⟨reference, some dimension⟩,
      (reference.suffix.map (suffixMessages dimension)).getD [])

def ofField (model : Model) (reference : FieldReference) : Built :=
  match reference.kind with
  | .measure | .unknown => ofMeasure model reference
  | .dimension => ofDimension model reference
  | .property | .hierarchy =>
    (.dimension ⟨reference, none⟩,
      [{ code := .invalidSecondField
         text := reference.text ++ " must follow a dimension reference" }])

/-- The call of what a name stands for. -/
def ofCall (settings : Settings) (name : String) (item : Except Catalog.Unavailable FunctionItem)
    (args : List Node) : Built :=
  match item with
  | .error reason =>
    (.null, (Check.run settings.flags ⟨name, .error reason, args⟩ Check.all).1)
  | .ok item =>
    let args := item.kind.prepare args
    let (messages, flow) := Check.run settings.flags ⟨name, .ok item, args⟩ Check.all
    match flow with
    | .halt => (.null, messages)
    | .continue =>
      let node := Node.call item.kind args
      (if Message.hasErrors messages then node else node.lowerRoot settings.dateOrder, messages)

def ofOperator (settings : Settings) (model : Model) (name : String) (args : List Node) : Built :=
  ofCall settings name (Catalog.resolveOperator settings.flags model.backend name) args

def ofFunction (settings : Settings) (model : Model) (name : String) (args : List Node) : Built :=
  ofCall settings name (Catalog.resolve settings.flags model.backend name) args

mutual

def build (settings : Settings) (model : Model) : Expr → Built
  | .number spelling => ofSpelling spelling
  | .string value => (.string value, [])
  | .boolean value => (.boolean value, [])
  | .null => (.null, [])
  | .field reference => ofField model reference
  | .binary op left right =>
    let (left, before) := build settings model left
    let (right, between) := build settings model right
    let (node, messages) := ofOperator settings model op.name [left, right]
    (node, before ++ between ++ messages)
  | .unary op operand =>
    let (operand, before) := build settings model operand
    let (node, messages) := ofOperator settings model op.name [operand]
    (node, before ++ messages)
  | .call name args =>
    let (args, before) := buildAll settings model args
    let (node, messages) := ofFunction settings model name args
    (node, before ++ messages)
  | .list items =>
    let (items, messages) := buildAll settings model items
    (.list items, messages)

def buildAll (settings : Settings) (model : Model) : List Expr → List Node × List Message
  | [] => ([], [])
  | e :: es =>
    let (node, messages) := build settings model e
    let (nodes, more) := buildAll settings model es
    (node :: nodes, messages ++ more)

end

/-- A truth value as a number. -/
def castRoot (order : DateOrder) (root : Node) : Node :=
  let int := (Node.call .int [root]).lowerRoot order
  if int.isLiteral then int else .call .float [int]

/-- A formula gives a number; one that gives a truth value is cast to a number. -/
def checkRoot (order : DateOrder) (root : Node) : Built :=
  let type := root.type
  if type == .unknown || type.isNumeric then (root, [])
  else if type.isBoolean then (castRoot order root, [])
  else
    let text := "A formula must return a number, found " ++ type.name
    if type.isSubtypeOf .string then (root, [{ code := .stringAtRoot, text }])
    else (root, [{ code := .nonNumericRoot, text }])

/-- Builds a whole formula. -/
def buildRoot (settings : Settings) (model : Model) (e : Expr) : Built :=
  let (node, messages) := build settings model e
  let (root, more) := checkRoot settings.dateOrder node
  (root, messages ++ more)

end Construction

end OlapFormula
