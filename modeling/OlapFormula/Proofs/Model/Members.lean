import Mathlib.Data.String.Basic
import OlapFormula.Proofs.Model.Removal

/-!
# Models as lists of members

Whatever is done to a model, and whatever it is asked in between, it answers like two lists of members
that have no index and nothing at hand. What a name denotes, and what the measures by id are, follows
from the lists alone.
-/

namespace OlapFormula

/-- What can be done to a model, and what it can be asked. -/
inductive Command
  | insertDimension (dimension : Dimension)
  | insertMeasure (measure : Measure)
  | removeMeasure (id : String)
  | dimension (name : String)
  | measure (name : String)
  | dependentIds (name : String)
  | allDimensions
  | allMeasures

def Command.isQuery : Command → Bool
  | insertDimension _ | insertMeasure _ | removeMeasure _ => false
  | dimension _ | measure _ | dependentIds _ | allDimensions | allMeasures => true

/-- The members of a model, in the order in which their ids were first put in. -/
structure Members where
  dimensions : List Dimension := []
  measures : List Measure := []

namespace Members

variable {α : Type}

/-- The members with one more, in the place of the one with its id or else at the end. -/
def insert (id : α → String) (member : α) (members : List α) : List α :=
  if id member ∈ members.map id then
    members.map fun other => if id other = id member then member else other
  else members ++ [member]

/-- Queries leave the lists as they are. -/
def step (members : Members) : Command → Members
  | .insertDimension dimension =>
    { members with dimensions := insert (·.id) dimension members.dimensions }
  | .insertMeasure measure => { members with measures := insert (·.id) measure members.measures }
  | .removeMeasure id => { members with measures := members.measures.filter (·.id != id) }
  | .dimension _ | .measure _ | .dependentIds _ | .allDimensions | .allMeasures => members

def run (members : Members) (commands : List Command) : Members := commands.foldl step members

lemma run_changes (members : Members) (commands : List Command) :
    members.run (commands.filter (!·.isQuery)) = members.run commands := by
  induction commands generalizing members with
  | nil => rfl
  | cons command commands ih => cases command <;> exact ih _

/-- A name denotes the member with that id, or else the last member with that alias. -/
inductive Denotes (id : α → String) (aliasName : α → Option String) (members : List α)
    (name : String) : Option α → Prop
  | id {member : α} : member ∈ members → id member = name →
    Denotes id aliasName members name (some member)
  | aliasName {before after : List α} {member : α} : (∀ other ∈ members, id other ≠ name) →
    members = before ++ member :: after → aliasName member = some name →
    (∀ other ∈ after, aliasName other ≠ some name) → Denotes id aliasName members name (some member)
  | nothing : (∀ other ∈ members, id other ≠ name) →
    (∀ other ∈ members, aliasName other ≠ some name) → Denotes id aliasName members name none

lemma denotes_member? (id : α → String) (aliasName : α → Option String) (members : List α)
    (name : String) :
    Denotes id aliasName members name
      ((NameIndex.ofMembers id aliasName members).member? members name) := by
  rw [NameIndex.member?_ofMembers]
  cases hid : members.find? (id · == name) with
  | some member =>
    exact .id (List.mem_of_find?_eq_some hid) (by simpa using List.find?_some hid)
  | none =>
    have hids : ∀ other ∈ members, id other ≠ name := by simpa using hid
    rw [Option.none_or]
    cases halias : members.reverse.find? (aliasName · == some name) with
    | none => exact .nothing hids (by simpa using halias)
    | some member =>
      obtain ⟨hmember, after, before, hmembers, hafter⟩ :=
        List.find?_eq_some_iff_append.mp halias
      rw [List.reverse_eq_iff, List.reverse_append, List.reverse_cons, List.append_assoc,
        List.singleton_append] at hmembers
      exact .aliasName hids hmembers (by simpa using hmember)
        fun other hother => by simpa using hafter other (List.mem_reverse.mp hother)

end Members

namespace Model

/-- Only listing the measures leaves a trace, and a removed measure is given back besides. -/
def step (model : Model) : Command → Model
  | .insertDimension dimension => model.insertDimension dimension
  | .insertMeasure measure => model.insertMeasure measure
  | .removeMeasure id => (model.removeMeasure id).1
  | .allMeasures => model.allMeasures.2
  | .dimension _ | .measure _ | .dependentIds _ | .allDimensions => model

def run (model : Model) (commands : List Command) : Model := commands.foldl step model

/-- All that a model can be asked. -/
structure Answers where
  backend : Backend
  dimension? : String → Option Dimension
  measure? : String → Option Measure
  dependentIds : String → List String
  allDimensions : List Dimension
  allMeasures : List Measure

def answers (model : Model) : Answers where
  backend := model.backend
  dimension? := model.dimension?
  measure? := model.measure?
  dependentIds := model.dependentIds
  allDimensions := model.dimensions
  allMeasures := model.allMeasures.1

/-- The model has these members, and what it keeps beside them is up to date. -/
structure Refines (model : Model) (members : Members) : Prop where
  dimensions : model.dimensions = members.dimensions
  measures : model.measures = members.measures
  dimensionIds : (members.dimensions.map (·.id)).Nodup
  measureIds : (members.measures.map (·.id)).Nodup
  dimensionNames : model.dimensionNames = .ofMembers (·.id) (·.aliasName) members.dimensions
  measureNames : model.measureNames = .ofMembers (·.id) (·.aliasName) members.measures
  sortedMeasures : ∀ view, model.sortedMeasures = some view →
    view = members.measures.mergeSort precedes

variable {model other : Model} {members : Members}

lemma refines_empty (backend : Backend) : Refines { backend } {} :=
  ⟨rfl, rfl, List.nodup_nil, List.nodup_nil, rfl, rfl, nofun⟩

namespace Refines

lemma withDimensions (h : model.Refines members) {dimensions : List Dimension}
    (hids : (dimensions.map (·.id)).Nodup) :
    (model.withDimensions dimensions).Refines { members with dimensions } :=
  { h with dimensions := rfl, dimensionIds := hids, dimensionNames := rfl }

/-- What was at hand is dropped. -/
lemma withMeasures (h : model.Refines members) {measures : List Measure}
    (hids : (measures.map (·.id)).Nodup) :
    (model.withMeasures measures).Refines { members with measures } :=
  { h with measures := rfl, measureIds := hids, measureNames := rfl, sortedMeasures := nofun }

lemma insertDimension (h : model.Refines members) (dimension : Dimension) :
    (model.insertDimension dimension).Refines (members.step (.insertDimension dimension)) := by
  have hput : Members.insert (·.id) dimension members.dimensions =
      put (·.id) dimension members.dimensions := (put_eq h.dimensionIds).symm
  rw [Model.insertDimension, h.dimensions, Members.step, hput]
  exact h.withDimensions (nodup_put h.dimensionIds)

lemma insertMeasure (h : model.Refines members) (measure : Measure) :
    (model.insertMeasure measure).Refines (members.step (.insertMeasure measure)) := by
  have hput : Members.insert (·.id) measure members.measures =
      put (·.id) measure members.measures := (put_eq h.measureIds).symm
  rw [Model.insertMeasure, h.measures, Members.step, hput]
  exact h.withMeasures (nodup_put h.measureIds)

lemma removeMeasure (h : model.Refines members) (id : String) :
    (model.removeMeasure id).1.Refines (members.step (.removeMeasure id)) := by
  unfold Model.removeMeasure
  rw [h.measures, eraseP_id_eq h.measureIds, Members.step]
  split
  · exact h.withMeasures (h.measureIds.sublist (List.filter_sublist.map _))
  · next hnone =>
    -- No measure has the id, so the list loses nothing either.
    rw [List.find?_eq_none] at hnone
    rwa [List.filter_eq_self.mpr fun measure hmeasure => by simpa using hnone measure hmeasure]

/-- Whether they are at hand or not, the measures by id are the sorted ones. -/
lemma allMeasures_eq (h : model.Refines members) :
    model.allMeasures.1 = members.measures.mergeSort precedes := by
  unfold Model.allMeasures
  cases hview : model.sortedMeasures with
  | some view => exact h.sortedMeasures view hview
  | none => rw [h.measures]

lemma allMeasures (h : model.Refines members) : model.allMeasures.2.Refines members := by
  unfold Model.allMeasures
  split
  · exact h
  · exact { h with sortedMeasures := fun view hview => by rw [← h.measures, ← Option.some.inj hview] }

lemma step (h : model.Refines members) (command : Command) :
    (model.step command).Refines (members.step command) := by
  cases command with
  | insertDimension dimension => exact h.insertDimension dimension
  | insertMeasure measure => exact h.insertMeasure measure
  | removeMeasure id => exact h.removeMeasure id
  | allMeasures => exact h.allMeasures
  | dimension _ | measure _ | dependentIds _ | allDimensions => exact h

lemma run (h : model.Refines members) (commands : List Command) :
    (model.run commands).Refines (members.run commands) := by
  induction commands generalizing model members with
  | nil => exact h
  | cons command commands ih => exact ih (h.step command)

/-- The measures by id are the current ones, each once, and their ids ascend. -/
lemma allMeasures_perm (h : model.Refines members) :
    model.allMeasures.1.Perm members.measures ∧ model.allMeasures.1.Pairwise fun a b => a.id < b.id := by
  rw [h.allMeasures_eq]
  have hperm := List.mergeSort_perm members.measures precedes
  have hascending : (members.measures.mergeSort precedes).Pairwise fun a b => a.id ≤ b.id := by
    refine (List.pairwise_mergeSort (fun a b c hab hbc => ?_) (fun a b => ?_) _).imp of_decide_eq_true
    · exact decide_eq_true ((of_decide_eq_true hab).trans (of_decide_eq_true hbc))
    · rw [Bool.or_eq_true]
      exact (le_total a.id b.id).imp decide_eq_true decide_eq_true
  have hdistinct : (members.measures.mergeSort precedes).Pairwise fun a b => a.id ≠ b.id :=
    List.pairwise_map.mp ((hperm.map Measure.id).nodup_iff.mpr h.measureIds)
  exact ⟨hperm, (hascending.and hdistinct).imp fun h => lt_of_le_of_ne h.1 h.2⟩

/-- Models with the same members give the same answers. -/
lemma answers_eq (h : model.Refines members) (h' : other.Refines members)
    (hbackend : model.backend = other.backend) : model.answers = other.answers := by
  have hmeasures : model.measure? = other.measure? := by
    funext name
    rw [measure?, measure?, h.measures, h.measureNames, h'.measures, h'.measureNames]
  have hdimensions : model.dimension? = other.dimension? := by
    funext name
    rw [dimension?, dimension?, h.dimensions, h.dimensionNames, h'.dimensions, h'.dimensionNames]
  have hids : model.dependentIds = other.dependentIds := by
    funext name
    simp only [dependentIds, measureId, hmeasures]
  rw [answers, answers, hbackend, hdimensions, hmeasures, hids, h.dimensions, h'.dimensions,
    h.allMeasures_eq, h'.allMeasures_eq]

end Refines

lemma backend_step (model : Model) (command : Command) : (model.step command).backend = model.backend := by
  cases command with
  | removeMeasure id => exact (removeMeasure_fields model id).1
  | allMeasures =>
    change model.allMeasures.2.backend = model.backend
    unfold Model.allMeasures
    split <;> rfl
  | insertDimension _ | insertMeasure _ | dimension _ | measure _ | dependentIds _ | allDimensions => rfl

lemma backend_run (model : Model) (commands : List Command) :
    (model.run commands).backend = model.backend := by
  induction commands generalizing model with
  | nil => rfl
  | cons command commands ih => exact (ih _).trans (backend_step model command)

/-- After any commands a model answers like the lists of members that have gone through the same, and
like the model that has not been asked anything. -/
theorem run_refines (backend : Backend) (commands : List Command) :
    let model := run { backend } commands
    let members := Members.run {} commands
    (model.dimensions = members.dimensions ∧ model.measures = members.measures) ∧
      (members.dimensions.map (·.id)).Nodup ∧ (members.measures.map (·.id)).Nodup ∧
      (∀ name, Members.Denotes (·.id) (·.aliasName) members.dimensions name
        (model.dimension? name)) ∧
      (∀ name, Members.Denotes (·.id) (·.aliasName) members.measures name (model.measure? name)) ∧
      (model.allMeasures.1.Perm members.measures ∧
        model.allMeasures.1.Pairwise fun a b => a.id < b.id) ∧
      model.answers = (run { backend } (commands.filter (!·.isQuery))).answers := by
  intro model members
  have h : model.Refines members := (refines_empty backend).run commands
  refine ⟨⟨h.dimensions, h.measures⟩, h.dimensionIds, h.measureIds, fun name => ?_, fun name => ?_,
    h.allMeasures_perm, ?_⟩
  · rw [dimension?, h.dimensionNames, h.dimensions]
    exact Members.denotes_member? _ _ _ _
  · rw [measure?, h.measureNames, h.measures]
    exact Members.denotes_member? _ _ _ _
  · have hchanges := (refines_empty backend).run (commands.filter (!·.isQuery))
    rw [Members.run_changes] at hchanges
    exact h.answers_eq hchanges ((backend_run _ _).trans (backend_run _ _).symm)

end Model

end OlapFormula
