import OlapFormula.Digest
import OlapFormula.Node.Basic

/-!
# Restrictions

A filter of a restricted measure is built by `AND` and `OR` from conditions `dimension = constant`. What
it selects is grouped by the dimensions as they are written: of each dimension the members that are
named, and of all dimensions those that fulfil every group.
-/

namespace OlapFormula

/-- One member, selected by one condition. -/
abbrev Selection := DimensionRef × Literal

namespace Selection

/-- The dimension as it is written. -/
def key (selection : Selection) : String := selection.1.reference.text

/-- The same member of the same dimension. -/
def same (a b : Selection) : Bool := a.key == b.key && a.2.same b.2

mutual

/-- The selections of a filter in the order in which they are written; none if it is no filter. -/
def ofFilter? : Node → Option (List Selection)
  | .call .and args => ofFilters? args
  | .call .or args => ofFilters? args
  | .call .equal [.dimension ref, .const value] =>
    match value with
    | .null => none
    | value => some [(ref, value)]
  | _ => none

def ofFilters? : List Node → Option (List Selection)
  | [] => some []
  | node :: nodes => do return (← ofFilter? node) ++ (← ofFilters? nodes)

end

/-- The selections of a filter; empty if it is no filter. -/
def flatten (node : Node) : List Selection := (ofFilter? node).getD []

/-- Adds a selection to the group of its dimension, or makes one for it. -/
def addTo (selection : Selection) : List MemberFilter → List MemberFilter
  | [] => [⟨selection.1, [selection.2]⟩]
  | filter :: filters =>
    if filter.dimension.reference.text == selection.key then
      if filter.values.any (·.same selection.2) then filter :: filters
      else { filter with values := filter.values ++ [selection.2] } :: filters
    else filter :: addTo selection filters

/-- One filter for each dimension, dimensions and members in the order in which they come first. -/
def group (selections : List Selection) : List MemberFilter :=
  selections.foldl (fun filters selection => addTo selection filters) []

/-- The selections that were made before. -/
def repeatedAfter (seen : List Selection) : List Selection → List Selection
  | [] => []
  | selection :: selections =>
    if seen.any (·.same selection) then selection :: repeatedAfter seen selections
    else repeatedAfter (seen ++ [selection]) selections

def duplicates (selections : List Selection) : List Selection := repeatedAfter [] selections

end Selection

namespace RestrictedMeasure

/-- The id tells the base and the filters. -/
def idOf (base : String) (filters : List MemberFilter) : String :=
  "RESTRICTED_" ++ base ++ "_" ++ Digest.hex (Digest.ofStrings (base :: filters.map (·.text)))

/-- The selections of several filters; none if one of them selects nothing. -/
def selectionsOf? : List Node → Option (List Selection)
  | [] => some []
  | filter :: filters => do
    let selections := Selection.flatten filter
    if selections.isEmpty then none
    else return selections ++ (← selectionsOf? filters)

/-- The measure that a base under filters is; none unless the base is a measure and there are filters,
each with a selection. -/
def ofArgs? (base : Node) (filters : List Node) : Option RestrictedMeasure :=
  match base, selectionsOf? filters with
  | .measure base, some (selection :: selections) =>
    let filters := Selection.group (selection :: selections)
    some { id := idOf base.id filters, base, filters }
  | _, _ => none

end RestrictedMeasure

end OlapFormula
