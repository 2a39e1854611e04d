import OlapFormula.Proofs.Model.Names

/-!
# Removing a measure

A name that stands for another measure keeps standing for it.
-/

namespace OlapFormula

namespace Model

lemma eraseP_id_eq {measures : List Measure} (h : (measures.map (·.id)).Nodup) (id : String) :
    measures.eraseP (·.id == id) = measures.filter (·.id != id) := by
  induction measures with
  | nil => rfl
  | cons measure measures ih =>
    rw [List.map_cons, List.nodup_cons] at h
    by_cases hid : measure.id = id
    · subst hid
      have hothers : ∀ other ∈ measures, (other.id != measure.id) = true := by
        intro other hother
        have hne : other.id ≠ measure.id := fun hsame => h.1 (hsame ▸ List.mem_map_of_mem hother)
        simpa using hne
      rw [List.eraseP_cons_of_pos (by simp), List.filter_cons_of_neg (by simp),
        List.filter_eq_self.mpr hothers]
    · rw [List.eraseP_cons_of_neg (by simpa using hid), List.filter_cons_of_pos (by simpa using hid), ih h.2]

/-- The first element with one property is the first with both if it has the other one as well. -/
lemma find?_filter_of_find? {α : Type} {p q : α → Bool} {xs : List α} {x : α} (h : xs.find? p = some x)
    (hq : q x = true) : (xs.filter q).find? p = some x := by
  induction xs with
  | nil => cases h
  | cons first xs ih =>
    rw [List.find?_cons] at h
    split at h
    · next hfirst =>
      obtain rfl := Option.some.inj h
      rw [List.filter_cons_of_pos hq, List.find?_cons_of_pos hfirst]
    · next hfirst =>
      rw [List.filter_cons]
      split
      · rw [List.find?_cons_of_neg (by simp [hfirst]), ih h]
      · exact ih h

variable {model : Model} {m : Measure}

lemma removeMeasure_fields (model : Model) (id : String) :
    (model.removeMeasure id).1.backend = model.backend ∧
      (model.removeMeasure id).1.dimensionNames.member? (model.removeMeasure id).1.dimensions =
        model.dimensionNames.member? model.dimensions := by
  unfold removeMeasure
  split <;> exact ⟨rfl, rfl⟩

lemma IsIndexed.measures_removeMeasure (h : model.IsIndexed) (id : String) :
    (model.removeMeasure id).1.measures = model.measures.filter (·.id != id) := by
  unfold removeMeasure
  split
  · exact eraseP_id_eq h.nodup id
  · next hnone =>
    refine (List.filter_eq_self.mpr fun measure hmeasure => ?_).symm
    simpa using List.find?_eq_none.mp hnone measure hmeasure

/-- Names of other measures are not concerned. -/
theorem IsIndexed.measure?_removeMeasure (h : model.IsIndexed) (hm : m ∈ model.measures)
    (hreduced : (model.removeMeasure m.id).1.IsIndexed) {name : String} {other : Measure}
    (hname : model.measure? name = some other) (hother : other ≠ m) :
    (model.removeMeasure m.id).1.measure? name = some other := by
  have hkept : (other.id != m.id) = true := by
    rw [bne_iff_ne]
    exact fun hid => hother (h.eq_of_id_eq (h.mem_of_measure? hname) hm hid)
  rw [hreduced.measure?_eq, h.measures_removeMeasure, ← List.filter_reverse]
  rw [h.measure?_eq, Option.or_eq_some_iff] at hname
  rcases hname with hid | ⟨hnone, halias⟩
  · rw [find?_filter_of_find? hid hkept]
    rfl
  · have hfound := find?_filter_of_find? (q := (·.id != m.id)) halias hkept
    have habsent : (model.measures.filter (·.id != m.id)).find? (·.id == name) = none :=
      List.find?_eq_none.mpr fun measure hmeasure =>
        List.find?_eq_none.mp hnone measure (List.mem_of_mem_filter hmeasure)
    rw [habsent, hfound]
    rfl

end Model

end OlapFormula
