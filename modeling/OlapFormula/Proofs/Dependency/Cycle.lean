import OlapFormula.Proofs.Dependency.Loading

/-!
# Ways back in a graph

A graph that has been told of some references has exactly these. The search in it finds a way from a measure
back to itself exactly if there is one, and the way that it finds meets no other measure twice.
-/

namespace OlapFormula

open Relation

namespace DependencyGraph

variable {graph : DependencyGraph} {references : List (String × String)} {measure a b : String}

/-- The graph that has been told of references one after the other, each a precedent and a dependent. -/
def ofReferences (references : List (String × String)) : DependencyGraph :=
  references.foldl (fun graph reference => graph.add reference.1 reference.2) {}

/-- The first measure was said to refer to the second one. -/
def RefersTo (references : List (String × String)) (dependent precedent : String) : Prop :=
  (precedent, dependent) ∈ references

lemma mem_precedents_foldl_add :
    b ∈ (references.foldl (fun graph reference => graph.add reference.1 reference.2) graph).precedents a ↔
      RefersTo references a b ∨ b ∈ graph.precedents a := by
  induction references generalizing graph with
  | nil => simp [RefersTo]
  | cons reference references ih =>
    rw [List.foldl_cons, ih, mem_precedents_add, RefersTo, RefersTo, List.mem_cons, Prod.ext_iff]
    tauto

lemma mem_precedents_ofReferences :
    b ∈ (ofReferences references).precedents a ↔ RefersTo references a b := by
  rw [ofReferences, mem_precedents_foldl_add]
  simp [precedents]

lemma refers_ofReferences :
    Dependency.Refers (ofReferences references).precedents = RefersTo references := by
  funext a b
  exact propext mem_precedents_ofReferences

/-- A way from a measure back to itself over references. It meets the measure at its two ends, and every
other measure at most once. -/
structure IsCycle (references : List (String × String)) (measure : String) (path : List String) :
    Prop where
  start : path.head? = some measure
  finish : path.getLast? = some measure
  steps : path.IsChain (RefersTo references)
  ends : path.count measure = 2
  once : ∀ other, other ≠ measure → path.count other ≤ 1

lemma isCycle_of_isSimpleWay {next : String} {rest : List String}
    (h : Dependency.IsSimpleWay (ofReferences references).precedents measure [] (measure :: next :: rest)) :
    IsCycle references measure (measure :: next :: rest) := by
  generalize hway : measure :: next :: rest = way at h
  have hlast : way = way.dropLast ++ [measure] := (List.dropLast_append_getLast? _ h.finish).symm
  have hmem : measure ∈ way.dropLast := by
    rw [← hway, List.dropLast_cons_of_ne_nil (List.cons_ne_nil _ _)]
    exact List.mem_cons_self ..
  refine ⟨by rw [← hway]; rfl, h.finish, refers_ofReferences ▸ h.steps, ?_, ?_⟩
  · rw [hlast, List.count_append, List.count_eq_one_of_mem h.nodup hmem, List.count_singleton_self]
  · intro other hother
    rw [hlast, List.count_append, List.count_singleton, if_neg (by simpa using Ne.symm hother)]
    exact List.nodup_iff_count_le_one.mp h.nodup other

/-- The search finds a way back exactly if there is one, and what it finds is one that meets no other
measure twice. It ends by itself: no larger count would let it find anything else. -/
theorem cycle?_ofReferences (references : List (String × String)) (measure : String) :
    (((ofReferences references).cycle? measure).isSome ↔
        TransGen (RefersTo references) measure measure) ∧
      (∀ path, (ofReferences references).cycle? measure = some path →
        IsCycle references measure path) ∧
      ∀ count, (ofReferences references).entries.length ≤ count →
        Dependency.cycle? (ofReferences references).precedents count measure =
          (ofReferences references).cycle? measure := by
  refine ⟨?_, fun path hpath => ?_, fun count hcount => cycle?_eq _ _ hcount⟩
  · rw [cycle?_isSome_iff, refers_ofReferences]
  · obtain ⟨found, hfound, rfl⟩ := Option.map_eq_some_iff.mp hpath
    obtain ⟨next, rest, rfl, hway⟩ := Dependency.search_eq_some (Prod.ext rfl hfound)
    exact isCycle_of_isSimpleWay hway

/-- `B` and `D` refer to each other, and the search leaves them again before it finds the way over `C`. -/
example : (ofReferences [("B", "A"), ("C", "A"), ("D", "B"), ("B", "D"), ("D", "C"), ("A", "C")]).cycle? "A" =
    some ["A", "C", "A"] := by
  decide +kernel

end DependencyGraph

end OlapFormula
