import OlapFormula.Message
import OlapFormula.Node.Printer
import OlapFormula.Node.Typing
import OlapFormula.Restriction

/-!
# Measures, filters and axes

What an OLAP function takes: a measure first, and then member filters or dimensions that the measure is
aggregated over.
-/

namespace OlapFormula.Checks

/-- `RESTRICT` takes a reference to a measure; the other functions take anything that is one. -/
def measureArgument (kind : FunctionKind) (node : Node) : List Message :=
  match kind, node with
  | .restrict, .measure _ => []
  | .restrict, node =>
    if node.type == .unknown then []
    else
      [{ code := .typeMismatch
         text := "RESTRICT expects a measure reference as its first argument" }]
  | kind, node =>
    if node.type == .measure || node.type == .unknown then []
    else
      [{ code := .typeMismatch
         text := kind.name ++ " expects a measure as its first argument" }]

def insertUnique (id : String) : List String → List String
  | [] => [id]
  | other :: ids =>
    if id = other then other :: ids
    else if id < other then id :: other :: ids
    else other :: insertUnique id ids

/-- At most one dimension is seen through a hierarchy. -/
def hierarchies (refs : List DimensionRef) : List Message :=
  let hierarchical := refs.filter (·.reference.hierarchy.isSome)
  let ids := hierarchical.foldr (fun ref ids => insertUnique ref.id ids) []
  if 1 < ids.length then
    [{ code := .tooManyHierarchicalDimensions
       text := "Only one hierarchical dimension is allowed, found " ++ Text.joined ", " ids }]
  else []

/-- A filter selects something. One of unknown type has a message already. -/
def filterShape (filter : Node) : List Message :=
  if filter.type == .unknown || !(Selection.flatten filter).isEmpty then []
  else
    [{ code := .invalidFilter
       text := filter.text ++ " is not a combination of dimension = member conditions" }]

def duplicateMember (selection : Selection) : Message :=
  { code := .duplicateMember
    text := "Member " ++ selection.2.text ++ " of " ++ selection.key ++
      " is selected more than once" }

/-- Of a version dimension one member is selected. -/
def versionFilter (filter : MemberFilter) : List Message :=
  if filter.dimension.isVersion && filter.isMultiSelect then
    [{ code := .singleValueFilterRequired
       text := "Version dimension " ++ filter.dimension.reference.text ++
         " must be restricted to a single member" }]
  else []

def selectionsOf (filters : List Node) : List Selection :=
  (filters.filter (·.type != .unknown)).flatMap Selection.flatten

def filters (nodes : List Node) : List Message :=
  let selections := selectionsOf nodes
  nodes.flatMap filterShape ++
    (Selection.duplicates selections).map duplicateMember ++
    hierarchies (selections.map (·.1)) ++
    (Selection.group selections).flatMap versionFilter

/-- Axes are references to dimensions, each to another one; `seen` are the references before. Gives the
messages and the references that count. -/
def axesAfter (kind : FunctionKind) (seen : List DimensionRef) :
    List Node → List Message × List DimensionRef
  | [] => ([], seen)
  | node :: nodes =>
    match node.dimension? with
    | none =>
      let (messages, refs) := axesAfter kind seen nodes
      ({ code := .typeMismatch
         text := kind.name ++ " expects dimension references, found " ++ node.text } :: messages,
        refs)
    | some ref =>
      if seen.any (·.id == ref.id) then
        let (messages, refs) := axesAfter kind seen nodes
        ({ code := .nonUniqueDimension
           text := "Dimension " ++ ref.id ++ " is used more than once in " ++ kind.name } :: messages,
          refs)
      else axesAfter kind (seen ++ [ref]) nodes

def axes (kind : FunctionKind) (nodes : List Node) : List Message :=
  let (messages, refs) := axesAfter kind [] nodes
  messages ++ hierarchies refs

def members (kind : FunctionKind) (args : List Node) : List Message :=
  match args with
  | [] => []
  | measure :: rest =>
    measureArgument kind measure ++
      match kind with
      | .restrict => filters rest
      | .subtotal | .percentOfSubtotal => axes kind rest
      | _ => []

end OlapFormula.Checks
