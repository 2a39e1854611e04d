import Mathlib.Data.List.Chain
import OlapFormula.Proofs.Dependency.Search

/-!
# The graph that is searched

Loading ends only when everything was loaded that the formula leads to, so the graph has every reference
that a way back can take. It has no other ones, and so the guard speaks exactly if there is a way back.
-/

namespace OlapFormula

open Relation

section

variable {r r' : String → String → Prop} {P : String → Prop} {target : String}

/-- Relations that agree away from the target agree about what leads to it. -/
lemma reflTransGen_congr (hr : ∀ a, P a → a ≠ target → ∀ b, r a b → r' a b ∧ P b) {a : String}
    (ha : P a) (h : ReflTransGen r a target) : ReflTransGen r' a target := by
  induction h using ReflTransGen.head_induction_on with
  | refl => exact .refl
  | @head a b hab _ ih =>
    by_cases htarget : a = target
    · exact htarget ▸ ReflTransGen.refl
    · obtain ⟨hedge, hb⟩ := hr a ha htarget b hab
      exact .head hedge (ih hb)

/-- What leads to the target leads there by a way that meets it at its end only. -/
lemma reflTransGen_iff_exists_way {a : String} :
    ReflTransGen r a target ↔ ∃ way : List String, way.head? = some a ∧ way.IsChain r ∧
      way.getLast? = some target ∧ target ∉ way.dropLast := by
  constructor
  · intro h
    induction h using ReflTransGen.head_induction_on with
    | refl => exact ⟨[target], rfl, .singleton _, rfl, List.not_mem_nil⟩
    | @head a b hab _ ih =>
      by_cases htarget : a = target
      · exact ⟨[target], by rw [htarget]; rfl, .singleton _, rfl, List.not_mem_nil⟩
      · obtain ⟨way, hstart, hsteps, hend, honce⟩ := ih
        obtain ⟨rest, rfl⟩ : ∃ rest, way = b :: rest := List.head?_eq_some_iff.mp hstart
        refine ⟨a :: b :: rest, rfl, .cons_cons hab hsteps, by simpa using hend, ?_⟩
        rw [List.dropLast_cons_of_ne_nil (List.cons_ne_nil _ _), List.mem_cons, not_or]
        exact ⟨Ne.symm htarget, honce⟩
  · rintro ⟨way, hstart, hsteps, hend, -⟩
    induction way generalizing a with
    | nil => cases hstart
    | cons first way ih =>
      obtain rfl : first = a := by simpa using hstart
      cases way with
      | nil =>
        obtain rfl : first = target := by simpa using hend
        exact .refl
      | cons second way =>
        obtain ⟨hstep, hrest⟩ := List.isChain_cons_cons.mp hsteps
        exact .head hstep (ih rfl hrest (by simpa using hend))

end

namespace DependencyGraph

variable {graph : DependencyGraph} {a b : String}

lemma lookup_addTo (precedent dependent : String) (entries : List (String × List String)) :
    ((addTo precedent dependent entries).lookup a).getD [] =
      let precedents := (entries.lookup a).getD []
      if a = dependent ∧ precedent ∉ precedents then precedents ++ [precedent] else precedents := by
  induction entries with
  | nil =>
    by_cases ha : a = dependent
    · simp [addTo, ha]
    · simp [addTo, List.lookup_cons, beq_false_of_ne ha, ha]
  | cons entry entries ih =>
    obtain ⟨measure, precedents⟩ := entry
    unfold addTo
    by_cases ha : a = measure
    · by_cases hmeasure : measure = dependent
      · by_cases hold : precedent ∈ precedents <;> simp [hmeasure, ha, hold]
      · simp [hmeasure, ha]
    · by_cases hmeasure : measure = dependent
      · have hne : a ≠ dependent := hmeasure ▸ ha
        simp [hmeasure, List.lookup_cons, beq_false_of_ne hne, hne]
      · simpa [hmeasure, List.lookup_cons, beq_false_of_ne ha] using ih

lemma mem_precedents_add (precedent dependent : String) :
    b ∈ (graph.add precedent dependent).precedents a ↔
      a = dependent ∧ b = precedent ∨ b ∈ graph.precedents a := by
  unfold precedents add
  rw [lookup_addTo]
  grind

lemma mem_precedents_addAll (precedents : List String) (dependent : String) :
    b ∈ (graph.addAll precedents dependent).precedents a ↔
      a = dependent ∧ b ∈ precedents ∨ b ∈ graph.precedents a := by
  induction precedents generalizing graph with
  | nil => simp [addAll]
  | cons precedent precedents ih =>
    rw [addAll, List.foldl_cons, ← addAll, ih, mem_precedents_add, List.mem_cons]
    tauto

/-- The measures with precedents have entries in the graph, so their number bounds the search. -/
lemma mem_entries_of_precedents (h : graph.precedents a ≠ []) :
    a ∈ (graph.entries.map (·.1)).toFinset := by
  unfold precedents at h
  cases hfound : graph.entries.lookup a with
  | none => simp [hfound] at h
  | some precedents =>
    obtain ⟨before, after, heq, -⟩ := List.lookup_eq_some_iff.mp hfound
    simp [heq]

lemma card_entries_le (graph : DependencyGraph) :
    (graph.entries.map (·.1)).toFinset.card ≤ graph.entries.length := by
  simpa using List.toFinset_card_le (graph.entries.map (·.1))

/-- A way back is found exactly if there is one. -/
theorem cycle?_isSome_iff (graph : DependencyGraph) (measure : String) :
    (graph.cycle? measure).isSome ↔
      TransGen (Dependency.Refers graph.precedents) measure measure :=
  Dependency.cycle?_isSome_iff (fun _ _ => mem_entries_of_precedents) graph.card_entries_le

/-- The search is not cut short: no larger count finds anything else. -/
theorem cycle?_eq (graph : DependencyGraph) (measure : String) {count : Nat}
    (h : graph.entries.length ≤ count) :
    Dependency.cycle? graph.precedents count measure = graph.cycle? measure :=
  Dependency.cycle?_congr (fun _ _ => mem_entries_of_precedents) (graph.card_entries_le.trans h)
    graph.card_entries_le

end DependencyGraph

/-- The formula of `a` refers to `b`. -/
def Model.DependsOn (model : Model) (a b : String) : Prop := b ∈ model.dependentIds a

namespace Dependency

variable {model : Model} {editing : String} {ids loaded waiting : List String}
  {graph : DependencyGraph} {measure : String}

/-- Loading is under way for a formula that refers to the measures `ids`: the graph has what was loaded,
and what that refers to is loaded or waits. -/
structure IsLoading (model : Model) (editing : String) (ids loaded : List String)
    (graph : DependencyGraph) (waiting : List String) : Prop where
  unloaded : editing ∉ loaded
  precedents : ∀ a b, b ∈ graph.precedents a ↔
    a = editing ∧ b ∈ ids ∨ a ∈ loaded ∧ model.DependsOn a b
  start : ∀ b ∈ ids, b = editing ∨ b ∈ loaded ∨ b ∈ waiting
  closed : ∀ a ∈ loaded, ∀ b, model.DependsOn a b → b = editing ∨ b ∈ loaded ∨ b ∈ waiting

namespace IsLoading

lemma skip (h : IsLoading model editing ids loaded graph (measure :: waiting))
    (hdone : measure = editing ∨ measure ∈ loaded) :
    IsLoading model editing ids loaded graph waiting where
  unloaded := h.unloaded
  precedents := h.precedents
  start b hb := by
    have hstart := h.start b hb
    grind
  closed a ha b hb := by
    have hclosed := h.closed a ha b hb
    grind

lemma next (h : IsLoading model editing ids loaded graph (measure :: waiting))
    (hnew : ¬(measure = editing ∨ measure ∈ loaded)) :
    IsLoading model editing ids (measure :: loaded)
      (graph.addAll (model.dependentIds measure) measure)
      ((model.dependentIds measure).reverse ++ waiting) where
  unloaded := by
    rw [List.mem_cons, not_or]
    exact ⟨fun hsame => hnew (Or.inl hsame.symm), h.unloaded⟩
  precedents a b := by
    rw [DependencyGraph.mem_precedents_addAll, h.precedents, Model.DependsOn]
    grind
  start b hb := by
    have hstart := h.start b hb
    grind
  closed a ha b hb := by
    rcases List.mem_cons.mp ha with rfl | ha
    · exact Or.inr (Or.inr (List.mem_append_left _ (List.mem_reverse.mpr hb)))
    · have hclosed := h.closed a ha b hb
      grind

/-- Loading ends when nothing waits any more. -/
lemma exists_loaded (h : IsLoading model editing ids loaded graph waiting) :
    ∃ loaded', IsLoading model editing ids loaded' (load model editing loaded graph waiting) [] := by
  induction loaded, graph, waiting using load.induct model editing with
  | case1 loaded graph =>
    rw [load]
    exact ⟨loaded, h⟩
  | case2 loaded graph measure waiting hdone ih =>
    rw [load, if_pos hdone]
    exact ih (h.skip hdone)
  | case3 loaded graph measure waiting hnew precedents ih =>
    rw [load, if_neg hnew]
    exact ih (h.next hnew)

end IsLoading

lemma isLoading_start (model : Model) (editing : String) (ids : List String) :
    IsLoading model editing ids [] (({} : DependencyGraph).addAll ids editing) ids.reverse where
  unloaded := List.not_mem_nil
  precedents a b := by
    rw [DependencyGraph.mem_precedents_addAll]
    simp [DependencyGraph.precedents]
  start b hb := Or.inr (Or.inr (List.mem_reverse.mpr hb))
  closed a ha := absurd ha List.not_mem_nil

/-- The graph has a way from the measure back to itself exactly if a reference in the formula leads back
to it in the model. -/
theorem transGen_graphOf_iff (model : Model) (editing : String) (root : Node) :
    TransGen (Refers (graphOf model editing root).precedents) editing editing ↔
      ∃ ref ∈ root.measureRefs, ReflTransGen model.DependsOn ref.id editing := by
  obtain ⟨loaded, hloaded⟩ :=
    (isLoading_start model editing (root.measureRefs.map (·.id))).exists_loaded
  rw [← graphOf] at hloaded
  rw [TransGen.head'_iff]
  constructor
  · rintro ⟨b, hb, hway⟩
    rcases (hloaded.precedents _ _).mp hb with ⟨-, hids⟩ | ⟨hediting, -⟩
    · obtain ⟨ref, href, rfl⟩ := List.mem_map.mp hids
      refine ⟨ref, href, reflTransGen_congr (P := fun _ => True) (fun a _ ha b hab => ?_) trivial hway⟩
      rcases (hloaded.precedents _ _).mp hab with ⟨hsame, -⟩ | ⟨-, hdepends⟩
      · exact absurd hsame ha
      · exact ⟨hdepends, trivial⟩
    · exact absurd hediting hloaded.unloaded
  · rintro ⟨ref, href, hway⟩
    have hids : ref.id ∈ root.measureRefs.map (·.id) := List.mem_map_of_mem href
    refine ⟨ref.id, (hloaded.precedents _ _).mpr (Or.inl ⟨rfl, hids⟩), ?_⟩
    -- Whatever is on the way was loaded, unless it is the measure itself.
    refine reflTransGen_congr (P := fun a => a = editing ∨ a ∈ loaded) (fun a ha hne b hab => ?_) ?_ hway
    · have hmem := ha.resolve_left hne
      exact ⟨(hloaded.precedents _ _).mpr (Or.inr ⟨hmem, hab⟩), by simpa using hloaded.closed a hmem b hab⟩
    · simpa using hloaded.start _ hids

end Dependency

end OlapFormula
