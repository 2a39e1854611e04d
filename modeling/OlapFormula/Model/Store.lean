import OlapFormula.FieldReference.Scan
import OlapFormula.Model.Basic

/-!
# Models

A model holds dimensions and measures in the order in which they were first put in. Members are found
by name, and a name is an id or, where no member has that id, an alias. What names stand for is kept
beside the members and so is, once it was asked for, the list of the measures by id; putting members
in and taking them out keeps both up to date.
-/

namespace OlapFormula

/-- The positions of members under the names by which they are found; of several entries with a name the
first counts. -/
abbrev NameIndex := List (String × Nat)

namespace NameIndex

variable {α : Type}

/-- The index of some members: ids before aliases, and of members with one alias the last. -/
def ofMembers (id : α → String) (aliasName : α → Option String) (members : List α) : NameIndex :=
  members.zipIdx.map (fun placed => (id placed.1, placed.2)) ++
    members.zipIdx.reverse.filterMap fun placed =>
      (aliasName placed.1).map fun name => (name, placed.2)

/-- The member at the position that is kept under a name. -/
def member? (index : NameIndex) (members : List α) (name : String) : Option α :=
  (index.lookup name).bind (members[·]?)

end NameIndex

structure Model where
  backend : Backend
  dimensions : List Dimension := []
  measures : List Measure := []
  dimensionNames : NameIndex := []
  measureNames : NameIndex := []
  /-- The measures by id, if they have been asked for since the last change. -/
  sortedMeasures : Option (List Measure) := none
deriving Repr, DecidableEq

namespace Model

/-- Puts a member in the place of the one with the same id, or at the end. -/
def put {α : Type} (id : α → String) (member : α) : List α → List α
  | [] => [member]
  | other :: others =>
    if id other = id member then member :: others else other :: put id member others

def withDimensions (model : Model) (dimensions : List Dimension) : Model :=
  { model with
    dimensions
    dimensionNames := .ofMembers (·.id) (·.aliasName) dimensions }

def withMeasures (model : Model) (measures : List Measure) : Model :=
  { model with
    measures
    measureNames := .ofMembers (·.id) (·.aliasName) measures
    sortedMeasures := none }

def insertDimension (model : Model) (dimension : Dimension) : Model :=
  model.withDimensions (put (·.id) dimension model.dimensions)

def insertMeasure (model : Model) (measure : Measure) : Model :=
  model.withMeasures (put (·.id) measure model.measures)

/-- Takes the measure with an id out, and gives it back. -/
def removeMeasure (model : Model) (id : String) : Model × Option Measure :=
  match model.measures.find? (·.id == id) with
  | some measure => (model.withMeasures (model.measures.eraseP (·.id == id)), some measure)
  | none => (model, none)

def ofMembers (backend : Backend) (dimensions : List Dimension) (measures : List Measure) : Model :=
  measures.foldl insertMeasure (dimensions.foldl insertDimension { backend })

/-- The dimension that a name stands for. -/
def dimension? (model : Model) (name : String) : Option Dimension :=
  model.dimensionNames.member? model.dimensions name

/-- The measure that a name stands for. -/
def measure? (model : Model) (name : String) : Option Measure :=
  model.measureNames.member? model.measures name

/-- Listings of measures go by id. -/
def precedes (a b : Measure) : Bool := a.id ≤ b.id

/-- The measures by id, and the model that has them at hand. -/
def allMeasures (model : Model) : List Measure × Model :=
  match model.sortedMeasures with
  | some measures => (measures, model)
  | none =>
    let measures := model.measures.mergeSort precedes
    (measures, { model with sortedMeasures := some measures })

/-- The id of the measure that a name stands for; a name that stands for none is kept. -/
def measureId (model : Model) (name : String) : String :=
  match model.measure? name with
  | some measure => measure.id
  | none => name

/-- The elements of a list without those that came before. -/
def withoutRepeats (seen : List String) : List String → List String
  | [] => []
  | id :: ids =>
    if seen.contains id then withoutRepeats seen ids
    else id :: withoutRepeats (id :: seen) ids

/-- The ids of the measures that the formula of a measure refers to, in the order in which they come
first. The formula need not be well formed. -/
def dependentIds (model : Model) (name : String) : List String :=
  match (model.measure? name).bind (·.formula) with
  | none => []
  | some formula =>
    let references := (FieldReference.spans formula.toList).filterMap (·.2)
    let measures := references.filter (·.kind == .measure)
    withoutRepeats [] (measures.map fun reference => model.measureId reference.id)

theorem mem_names_of_dependentIds {model : Model} {name : String} (h : model.dependentIds name ≠ []) :
    name ∈ model.measureNames.map (·.1) := by
  unfold dependentIds measure? NameIndex.member? at h
  cases hname : model.measureNames.lookup name with
  | none => simp [hname] at h
  | some position =>
    obtain ⟨before, after, heq, -⟩ := List.lookup_eq_some_iff.mp hname
    simp [heq]

end Model

end OlapFormula
