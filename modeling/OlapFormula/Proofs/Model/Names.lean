import Mathlib.Data.List.Nodup
import OlapFormula.Model.Store

/-!
# Names of measures

What a name stands for follows from the measures of a model: every operation keeps the index of names
in step with the measures, and no two measures have one id.
-/

namespace OlapFormula

namespace NameIndex

variable {α : Type}

lemma lookup_map_id (id : α → String) (name : String) (placed : List (α × Nat)) :
    (placed.map fun p => (id p.1, p.2)).lookup name =
      (placed.find? (id ·.1 == name)).map (·.2) := by
  induction placed with
  | nil => rfl
  | cons first placed ih =>
    rw [List.map_cons, List.lookup_cons, List.find?_cons, ih, BEq.comm]
    split <;> rfl

lemma lookup_filterMap_alias (aliasName : α → Option String) (name : String)
    (placed : List (α × Nat)) :
    (placed.filterMap fun p => (aliasName p.1).map fun name => (name, p.2)).lookup name =
      (placed.find? (aliasName ·.1 == some name)).map (·.2) := by
  induction placed with
  | nil => rfl
  | cons first placed ih =>
    rw [List.find?_cons]
    cases halias : aliasName first.1 with
    | none =>
      rw [List.filterMap_cons_none (by rw [halias]; rfl), ih]
      rfl
    | some other =>
      rw [List.filterMap_cons_some (by rw [halias]; rfl), List.lookup_cons, ih, BEq.comm,
        show (some other == some name) = (other == name) from rfl]
      split <;> rfl

/-- What is found together with its position stands at that position. -/
lemma find?_bind_position {members : List α} {placed : List (α × Nat)}
    (hplaced : ∀ p ∈ placed, members[p.2]? = some p.1) (q : α → Bool) :
    ((placed.find? (q ·.1)).map (·.2)).bind (members[·]?) = (placed.map (·.1)).find? q := by
  rw [List.find?_map]
  change _ = (placed.find? (q ·.1)).map (·.1)
  cases hfound : placed.find? (q ·.1) with
  | none => rfl
  | some p => exact hplaced p (List.mem_of_find?_eq_some hfound)

/-- Under a name stands the first member with that id, or else the last one with that alias. -/
theorem member?_ofMembers (id : α → String) (aliasName : α → Option String) (members : List α)
    (name : String) :
    (ofMembers id aliasName members).member? members name =
      (members.find? (id · == name)).or (members.reverse.find? (aliasName · == some name)) := by
  have hplaced : ∀ p ∈ members.zipIdx, members[p.2]? = some p.1 :=
    fun _ hp => List.mem_zipIdx_iff_getElem?.mp hp
  have hids := find?_bind_position hplaced (id · == name)
  have haliases := find?_bind_position (fun p hp => hplaced p (List.mem_reverse.mp hp))
    (aliasName · == some name)
  rw [List.map_reverse] at haliases
  rw [List.zipIdx_map_fst] at hids haliases
  rw [member?, ofMembers, List.lookup_append, lookup_map_id, lookup_filterMap_alias, ← hids, ← haliases]
  cases hfound : members.zipIdx.find? (id ·.1 == name) with
  | none => rfl
  | some p =>
    have hposition := hplaced p (List.mem_of_find?_eq_some hfound)
    simp only [Option.map_some, Option.some_or, Option.bind_some, hposition]

end NameIndex

namespace Model

/-- The models that come about by putting members in, taking them out and listing them. -/
inductive Reachable : Model → Prop
  | empty (backend : Backend) : Reachable { backend }
  | insertDimension {model : Model} (dimension : Dimension) :
    Reachable model → Reachable (model.insertDimension dimension)
  | insertMeasure {model : Model} (measure : Measure) :
    Reachable model → Reachable (model.insertMeasure measure)
  | removeMeasure {model : Model} (id : String) :
    Reachable model → Reachable (model.removeMeasure id).1
  | allMeasures {model : Model} : Reachable model → Reachable model.allMeasures.2

/-- The names of measures are the names of the measures that there are. -/
structure IsIndexed (model : Model) : Prop where
  nodup : (model.measures.map (·.id)).Nodup
  names : model.measureNames = .ofMembers (·.id) (·.aliasName) model.measures

section

variable {α : Type} {id : α → String} {member : α} {members : List α}

/-- A member takes the place of the one with its id, or comes last. -/
lemma put_eq (h : (members.map id).Nodup) :
    put id member members =
      if id member ∈ members.map id then
        members.map fun other => if id other = id member then member else other
      else members ++ [member] := by
  induction members with
  | nil => rfl
  | cons first others ih =>
    rw [List.map_cons, List.nodup_cons] at h
    unfold put
    by_cases hid : id first = id member
    · have hothers : ∀ other ∈ others, id other ≠ id member :=
        fun other hother hsame => h.1 (hid ▸ hsame ▸ List.mem_map_of_mem hother)
      have hkept : (others.map fun other => if id other = id member then member else other) = others :=
        (List.map_congr_left fun other hother => if_neg (hothers other hother)).trans (List.map_id _)
      simp [hid, hkept]
    · rw [if_neg hid, ih h.2]
      by_cases hmem : id member ∈ others.map id <;> simp [hid, Ne.symm hid, hmem]

lemma nodup_put (h : (members.map id).Nodup) : ((put id member members).map id).Nodup := by
  rw [put_eq h]
  split
  · have hids : ((members.map fun other => if id other = id member then member else other).map id) =
        members.map id := by
      rw [List.map_map]
      refine List.map_congr_left fun other _ => ?_
      by_cases hid : id other = id member <;> simp [hid]
    rwa [hids]
  · next hnew =>
    rw [List.map_append, List.nodup_append]
    refine ⟨h, by simp, fun first hfirst last hlast => ?_⟩
    obtain rfl : last = id member := by simpa using hlast
    exact fun hsame => hnew (hsame ▸ hfirst)

end

/-- Every operation on models keeps the index in step. -/
theorem Reachable.isIndexed {model : Model} (h : Reachable model) : model.IsIndexed := by
  induction h with
  | empty backend => exact ⟨List.nodup_nil, rfl⟩
  | insertDimension dimension _ ih => exact ⟨ih.nodup, ih.names⟩
  | insertMeasure measure _ ih => exact ⟨nodup_put ih.nodup, rfl⟩
  | @removeMeasure model id _ ih =>
    unfold Model.removeMeasure
    split
    · exact ⟨ih.nodup.sublist (List.eraseP_sublist.map _), rfl⟩
    · exact ih
  | @allMeasures model _ ih =>
    unfold Model.allMeasures
    split
    · exact ih
    · exact ⟨ih.nodup, ih.names⟩

/-- A name stands for the measure with that id, or else for the last one with that alias. -/
theorem IsIndexed.measure?_eq {model : Model} (h : model.IsIndexed) (name : String) :
    model.measure? name = (model.measures.find? (·.id == name)).or
      (model.measures.reverse.find? (·.aliasName == some name)) := by
  rw [measure?, h.names, NameIndex.member?_ofMembers]

lemma IsIndexed.mem_of_measure? {model : Model} (h : model.IsIndexed) {name : String}
    {measure : Measure} (hname : model.measure? name = some measure) : measure ∈ model.measures := by
  rw [h.measure?_eq, Option.or_eq_some_iff] at hname
  rcases hname with hid | ⟨-, halias⟩
  · exact List.mem_of_find?_eq_some hid
  · exact List.mem_reverse.mp (List.mem_of_find?_eq_some halias)

lemma IsIndexed.eq_of_id_eq {model : Model} (h : model.IsIndexed) {a b : Measure}
    (ha : a ∈ model.measures) (hb : b ∈ model.measures) (hid : a.id = b.id) : a = b :=
  List.inj_on_of_nodup_map h.nodup ha hb hid

lemma IsIndexed.measure?_id {model : Model} (h : model.IsIndexed) {measure : Measure}
    (hmem : measure ∈ model.measures) : model.measure? measure.id = some measure := by
  have hfound : ∃ found, model.measures.find? (·.id == measure.id) = some found := by
    rw [← Option.isSome_iff_exists, List.find?_isSome]
    exact ⟨measure, hmem, beq_self_eq_true _⟩
  obtain ⟨found, hfound⟩ := hfound
  have hid : found.id = measure.id := by simpa using List.find?_some hfound
  rw [h.measure?_eq, hfound, h.eq_of_id_eq (List.mem_of_find?_eq_some hfound) hmem hid]
  rfl

lemma measureId_eq {model : Model} {name : String} {measure : Measure}
    (h : model.measure? name = some measure) : model.measureId name = measure.id := by
  rw [measureId, h]

lemma IsIndexed.measureId_measureId {model : Model} (h : model.IsIndexed) (name : String) :
    model.measureId (model.measureId name) = model.measureId name := by
  cases hname : model.measure? name with
  | none => simp only [measureId, hname]
  | some measure =>
    rw [measureId_eq hname, measureId_eq (h.measure?_id (h.mem_of_measure? hname))]

lemma mem_withoutRepeats {id : String} {seen ids : List String} :
    id ∈ withoutRepeats seen ids ↔ id ∈ ids ∧ id ∉ seen := by
  induction ids generalizing seen with
  | nil => simp [withoutRepeats]
  | cons other others ih =>
    unfold withoutRepeats
    by_cases hseen : other ∈ seen
    · rw [if_pos (List.contains_iff_mem.mpr hseen), ih, List.mem_cons]
      grind
    · rw [if_neg (by rwa [List.contains_iff_mem]), List.mem_cons, ih, List.mem_cons, List.mem_cons]
      grind

/-- What a formula refers to are ids, as far as the model has them. -/
lemma IsIndexed.measureId_of_mem_dependentIds {model : Model} (h : model.IsIndexed)
    {name id : String} (hid : id ∈ model.dependentIds name) : model.measureId id = id := by
  unfold dependentIds at hid
  split at hid
  · cases hid
  · obtain ⟨reference, -, rfl⟩ := List.mem_map.mp (mem_withoutRepeats.mp hid).1
    exact h.measureId_measureId _

end Model

/-- The measure itself, with another formula if it is the one with this id. -/
def Measure.renewed (id : String) (formula : Option String) (measure : Measure) : Measure :=
  if measure.id = id then { measure with formula } else measure

namespace Measure

@[simp] lemma renewed_id (id : String) (formula : Option String) (measure : Measure) :
    (measure.renewed id formula).id = measure.id := by
  unfold renewed
  split <;> rfl

@[simp] lemma renewed_aliasName (id : String) (formula : Option String) (measure : Measure) :
    (measure.renewed id formula).aliasName = measure.aliasName := by
  unfold renewed
  split <;> rfl

lemma renewed_of_ne {id : String} {formula : Option String} {measure : Measure}
    (h : measure.id ≠ id) : measure.renewed id formula = measure := if_neg h

end Measure

namespace Model

/-- To put a measure back with another formula leaves all measures where they are. -/
lemma put_eq_map {measure : Measure} {measures : List Measure} (h : (measures.map (·.id)).Nodup)
    (hmem : measure ∈ measures) (formula : Option String) :
    put (·.id) { measure with formula } measures =
      measures.map (Measure.renewed measure.id formula) := by
  rw [put_eq h, if_pos (List.mem_map_of_mem hmem)]
  refine List.map_congr_left fun other hother => ?_
  unfold Measure.renewed
  split
  · next hid => rw [List.inj_on_of_nodup_map h hother hmem hid]
  · rfl

section

variable {model : Model} {measure : Measure} (h : model.IsIndexed)
  (hmem : measure ∈ model.measures) (formula : Option String)

include h hmem

lemma IsIndexed.measure?_insertMeasure (name : String) :
    (model.insertMeasure { measure with formula }).measure? name =
      (model.measure? name).map (Measure.renewed measure.id formula) := by
  have hindexed : (model.insertMeasure { measure with formula }).IsIndexed :=
    ⟨nodup_put h.nodup, rfl⟩
  have hmeasures : (model.insertMeasure { measure with formula }).measures =
      model.measures.map (Measure.renewed measure.id formula) := put_eq_map h.nodup hmem formula
  have hid : (fun other : Measure => other.id == name) ∘ Measure.renewed measure.id formula =
      (·.id == name) := by
    funext other
    simp
  have halias : (fun other : Measure => other.aliasName == some name) ∘
      Measure.renewed measure.id formula = (·.aliasName == some name) := by
    funext other
    simp
  rw [hindexed.measure?_eq, h.measure?_eq, hmeasures, ← List.map_reverse, List.find?_map,
    List.find?_map, hid, halias]
  cases model.measures.find? (·.id == name) <;> rfl

lemma IsIndexed.measureId_insertMeasure (name : String) :
    (model.insertMeasure { measure with formula }).measureId name = model.measureId name := by
  unfold measureId
  rw [h.measure?_insertMeasure hmem]
  cases model.measure? name with
  | none => rfl
  | some other => exact other.renewed_id measure.id formula

/-- A new formula of one measure changes nothing about what the others refer to. -/
lemma IsIndexed.dependentIds_insertMeasure {name : String}
    (hname : model.measureId name ≠ measure.id) :
    (model.insertMeasure { measure with formula }).dependentIds name = model.dependentIds name := by
  unfold dependentIds
  simp only [h.measure?_insertMeasure hmem, h.measureId_insertMeasure hmem]
  cases hfound : model.measure? name with
  | none => rfl
  | some other =>
    rw [measureId_eq hfound] at hname
    rw [Option.map_some, Measure.renewed_of_ne hname]

end

end Model

end OlapFormula
