import OlapFormula.Proofs.Dependency.Loading

/-!
# The guard against cycles

The guard speaks exactly if a measure that the formula refers to leads back to the measure under work,
whatever other cycles the model has and whatever its names stand for.
-/

namespace OlapFormula.Dependency

open Relation

variable {model : Model} {editing : String} {root : Node}

lemma guard_eq_nil_iff :
    guard model editing root = [] ↔
      (graphOf model (model.measureId editing) root).cycle? (model.measureId editing) = none := by
  unfold guard
  dsimp only
  split <;> simp_all

/-- The guard says nothing exactly if no measure in the formula leads back to the one under work. -/
lemma guard_eq_nil_iff_not_transGen (model : Model) (editing : String) (root : Node) :
    guard model editing root = [] ↔
      ∀ ref ∈ root.measureRefs,
        ¬ ReflTransGen model.DependsOn ref.id (model.measureId editing) := by
  rw [guard_eq_nil_iff, ← Option.not_isSome_iff_eq_none, DependencyGraph.cycle?_isSome_iff,
    transGen_graphOf_iff]
  simp only [not_exists, not_and]

lemma codes_guard (model : Model) (editing : String) (root : Node) :
    (guard model editing root).map (·.code) = [.cyclicalDependency] ↔
      guard model editing root ≠ [] := by
  unfold guard
  dsimp only
  split <;> simp [cycleMessage]

/-- A way from a measure in the formula over what the formulas in the model refer to, which comes to the
measure under work at its end and not before. -/
structure LeadsBack (model : Model) (root : Node) (editing : String) (way : List String) : Prop where
  start : ∃ ref ∈ root.measureRefs, way.head? = some ref.id
  steps : way.IsChain model.DependsOn
  finish : way.getLast? = some editing
  once : editing ∉ way.dropLast

lemma exists_leadsBack_iff :
    (∃ way, LeadsBack model root editing way) ↔
      ∃ ref ∈ root.measureRefs, ReflTransGen model.DependsOn ref.id editing := by
  constructor
  · rintro ⟨way, ⟨ref, href, hstart⟩, hsteps, hfinish, honce⟩
    exact ⟨ref, href, reflTransGen_iff_exists_way.mpr ⟨way, hstart, hsteps, hfinish, honce⟩⟩
  · rintro ⟨ref, href, hway⟩
    obtain ⟨way, hstart, hsteps, hfinish, honce⟩ := reflTransGen_iff_exists_way.mp hway
    exact ⟨way, ⟨ref, href, hstart⟩, hsteps, hfinish, honce⟩

/-- The guard speaks of a cycle exactly if there is a way back, and is silent otherwise. The search behind
it ends by itself: no larger count would let it find anything else. -/
theorem guard_iff_leadsBack (model : Model) (editing : String) (root : Node) :
    ((guard model editing root).map (·.code) = [.cyclicalDependency] ↔
        ∃ way, LeadsBack model root (model.measureId editing) way) ∧
      (guard model editing root = [] ↔
        ¬ ∃ way, LeadsBack model root (model.measureId editing) way) ∧
      ∀ count, (graphOf model (model.measureId editing) root).entries.length ≤ count →
        cycle? (graphOf model (model.measureId editing) root).precedents count
            (model.measureId editing) =
          (graphOf model (model.measureId editing) root).cycle? (model.measureId editing) := by
  have hsilent : guard model editing root = [] ↔
      ¬ ∃ way, LeadsBack model root (model.measureId editing) way := by
    rw [guard_eq_nil_iff_not_transGen, exists_leadsBack_iff]
    simp only [not_exists, not_and]
  refine ⟨?_, hsilent, fun count hcount => DependencyGraph.cycle?_eq _ _ hcount⟩
  rw [codes_guard, ne_eq, hsilent, not_not]

end OlapFormula.Dependency
