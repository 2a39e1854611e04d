import OlapFormula.Proofs.Compiler.Accepted
import OlapFormula.Proofs.Compiler.Reread
import OlapFormula.Proofs.Node.Height
import OlapFormula.Proofs.Node.RoundTrip

/-!
# Derived measures

There is one derived measure for each restricted measure of an accepted formula. Its formula is accepted
again, and says the same, if and only if each of its filters is readable.
-/

namespace OlapFormula

/-- The formula of a restricted measure does not nest deeper than formulas may. -/
lemma RestrictedMeasure.parse_eq_expr {r : RestrictedMeasure} (hbase : r.base.reference.IsWellFormed)
    (hfilters : ∀ f ∈ r.filters, f.dimension.reference.IsWellFormed) :
    Expr.parse {} r.text = .ok r.expr := by
  obtain ⟨ws, hws, hneeds⟩ := r.isNested hbase hfilters
  have hheight := r.height_expr_le
  have hnesting := r.nesting_le
  exact hneeds.toReadable.parse (by decide) hws (le_trans hnesting (by decide))
    (le_trans hheight (by decide))

namespace RestrictedMeasure

lemma mem_of_mem_distinct {seen : List String} {rs : List RestrictedMeasure} {r : RestrictedMeasure}
    (h : r ∈ distinct seen rs) : r ∈ rs := by
  induction rs generalizing seen with
  | nil => cases h
  | cons first rs ih =>
    unfold distinct at h
    split at h
    · exact List.mem_cons_of_mem _ (ih h)
    · rcases List.mem_cons.mp h with rfl | hrest
      · exact List.mem_cons_self ..
      · exact List.mem_cons_of_mem _ (ih hrest)

lemma mem_ids_distinct {seen : List String} {rs : List RestrictedMeasure} {id : String} :
    id ∈ (distinct seen rs).map (·.id) ↔ id ∉ seen ∧ id ∈ rs.map (·.id) := by
  induction rs generalizing seen with
  | nil => simp [distinct]
  | cons first rs ih =>
    unfold distinct
    by_cases hseen : first.id ∈ seen
    · rw [if_pos (by simpa using hseen), ih, List.map_cons, List.mem_cons]
      constructor
      · rintro ⟨hnew, hmem⟩
        exact ⟨hnew, Or.inr hmem⟩
      · rintro ⟨hnew, rfl | hmem⟩
        · exact absurd hseen hnew
        · exact ⟨hnew, hmem⟩
    · rw [if_neg (by simpa using hseen), List.map_cons, List.mem_cons, ih, List.map_cons, List.mem_cons,
        List.mem_cons, not_or]
      by_cases hid : id = first.id
      · simp [hid, hseen]
      · simp [hid]

lemma nodup_ids_distinct (seen : List String) (rs : List RestrictedMeasure) :
    ((distinct seen rs).map (·.id)).Nodup := by
  induction rs generalizing seen with
  | nil => exact List.nodup_nil
  | cons first rs ih =>
    unfold distinct
    split
    · exact ih seen
    · rw [List.map_cons, List.nodup_cons, mem_ids_distinct]
      exact ⟨fun h => h.1 (List.mem_cons_self ..), ih _⟩

end RestrictedMeasure

/-- The same measure, with the same members of the same dimensions. -/
structure RestrictedMeasure.Same (a b : RestrictedMeasure) : Prop where
  id_eq : a.id = b.id
  base_eq : a.base = b.base
  filters : List.Forall₂ MemberFilter.Same a.filters b.filters

lemma RestrictedMeasure.same_stripped (r : RestrictedMeasure) : r.Same r.stripped where
  id_eq := rfl
  base_eq := rfl
  filters := by
    unfold stripped
    rw [List.forall₂_map_right_iff, List.forall₂_same]
    exact fun filter _ => filter.same_stripped

namespace Compiler

variable {compiler : Compiler} {r : RestrictedMeasure}

lemma parse_text_of_isSound (h : r.IsSound compiler.settings compiler.model)
    (hlimits : compiler.settings.limits = {}) :
    Expr.parse compiler.settings.limits r.text = .ok r.expr := by
  rw [hlimits]
  exact r.parse_eq_expr h.resolved.1.1 fun filter hfilter => (h.resolved.2 filter hfilter).1

/-- A restricted measure is a number, so it stays as it is at the root. -/
lemma buildRoot_of_restricted {settings : Settings} {model : Model} {e : Expr}
    (h : (Construction.build settings model e).1 = .restricted r) :
    Construction.buildRoot settings model e =
      (.restricted r, (Construction.build settings model e).2) := by
  have hroot : Construction.checkRoot settings.dateOrder (.restricted r) = (.restricted r, []) := rfl
  unfold Construction.buildRoot
  dsimp only
  rw [h, hroot, List.append_nil]

/-- The formula of a sound measure is accepted if and only if its filters are readable. -/
lemma exists_compile_text_iff (h : r.IsSound compiler.settings compiler.model)
    (hlimits : compiler.settings.limits = {}) :
    (∃ again, compiler.compile none r.text = .ok again) ↔
      ∀ filter ∈ r.filters, filter.IsReadable compiler.settings.flags := by
  obtain ⟨herrors, hnode⟩ := Construction.build_restricted h
  have hparse := parse_text_of_isSound h hlimits
  constructor
  · rintro ⟨again, hagain⟩
    obtain ⟨e, he, hmessages, -⟩ := exists_build hagain
    obtain rfl := Except.ok.inj (hparse.symm.trans he)
    exact herrors.mp hmessages
  · intro hreadable
    have hbuilt := buildRoot_of_restricted (hnode hreadable)
    refine ⟨_, compile_eq_ok_iff.mpr ⟨r.expr, hparse, ?_, nofun, rfl⟩⟩
    rw [hbuilt]
    exact herrors.mpr hreadable

lemma root_of_compile_text (h : r.IsSound compiler.settings compiler.model)
    (hlimits : compiler.settings.limits = {}) {again : CompiledFormula}
    (hagain : compiler.compile none r.text = .ok again) : again.root = .restricted r.stripped := by
  have hreadable := (exists_compile_text_iff h hlimits).mp ⟨again, hagain⟩
  obtain ⟨e, he, -, -, rfl⟩ := compile_eq_ok_iff.mp hagain
  obtain rfl := Except.ok.inj ((parse_text_of_isSound h hlimits).symm.trans he)
  dsimp only
  rw [buildRoot_of_restricted ((Construction.build_restricted h).2 hreadable)]

section

variable {editing : Option String} {text : String} {compiled : CompiledFormula}

lemma derived_eq (h : compiler.compile editing text = .ok compiled) :
    compiled.derived = compiled.root.derivedMeasures := by
  obtain ⟨e, -, -, -, rfl⟩ := compile_eq_ok_iff.mp h
  rfl

lemma ids_derived (h : compiler.compile editing text = .ok compiled) :
    compiled.derived.map (·.id) =
      (RestrictedMeasure.distinct [] compiled.root.restrictedMeasures).map (·.id) := by
  rw [derived_eq h, Node.derivedMeasures, List.map_map]
  rfl

lemma mem_ids_derived (h : compiler.compile editing text = .ok compiled) {id : String} :
    id ∈ compiled.derived.map (·.id) ↔ id ∈ compiled.root.restrictedMeasures.map (·.id) := by
  rw [ids_derived h, RestrictedMeasure.mem_ids_distinct]
  exact and_iff_right List.not_mem_nil

end

/-- There is one derived measure for each restricted measure of an accepted formula. Its own formula is
accepted if and only if each of its filters is readable, and is then compiled to that restricted
measure. -/
theorem derived_faithful {editing : Option String} {text : String} {compiled : CompiledFormula}
    (hlimits : compiler.settings.limits = {})
    (h : compiler.compile editing text = .ok compiled) :
    (compiled.derived.map (·.id)).Nodup ∧
      (∀ id, id ∈ compiled.derived.map (·.id) ↔
        id ∈ compiled.root.restrictedMeasures.map (·.id)) ∧
      ∀ measure ∈ compiled.derived, ∃ r ∈ compiled.root.restrictedMeasures,
        measure.id = r.id ∧ measure.formula = some r.text ∧
          ((∃ again, compiler.compile none r.text = .ok again) ↔
            ∀ filter ∈ r.filters, filter.IsReadable compiler.settings.flags) ∧
          ∀ again, compiler.compile none r.text = .ok again →
            ∃ other, again.root = .restricted other ∧ r.Same other := by
  refine ⟨?_, fun id => mem_ids_derived h, fun measure hmeasure => ?_⟩
  · rw [ids_derived h]
    exact RestrictedMeasure.nodup_ids_distinct ..
  · rw [derived_eq h] at hmeasure
    obtain ⟨r, hdistinct, rfl⟩ := List.mem_map.mp hmeasure
    have hr := RestrictedMeasure.mem_of_mem_distinct hdistinct
    have hsound := isSound_of_mem_restrictedMeasures h hr
    refine ⟨r, hr, rfl, rfl, exists_compile_text_iff hsound hlimits, fun again hagain => ?_⟩
    exact ⟨r.stripped, root_of_compile_text hsound hlimits hagain, r.same_stripped⟩

theorem derived_faithful_of_list :
    let model : Model := .ofMembers .hana [{ id := "City" }] [{ id := "Sales" }]
    let compiler : Compiler := { model }
    let text := "RESTRICT([Sales], [d/City] IN \x7b\"Paris\", \"Rome\"\x7d)"
    ∃ compiled, compiler.compile none text = .ok compiled ∧
      (compiled.derived.map (·.id)).Nodup ∧
      (∀ id, id ∈ compiled.derived.map (·.id) ↔
        id ∈ compiled.root.restrictedMeasures.map (·.id)) ∧
      ∀ measure ∈ compiled.derived, ∃ r ∈ compiled.root.restrictedMeasures,
        measure.id = r.id ∧ measure.formula = some r.text ∧
          ((∃ again, compiler.compile none r.text = .ok again) ↔
            ∀ filter ∈ r.filters, filter.IsReadable compiler.settings.flags) ∧
          ∀ again, compiler.compile none r.text = .ok again →
            ∃ other, again.root = .restricted other ∧ r.Same other := by
  intro model compiler text
  obtain ⟨compiled, hcompiled⟩ := exists_compiled
    (show (compiler.compile none text).isOk = true by decide +kernel)
  exact ⟨compiled, hcompiled, derived_faithful rfl hcompiled⟩

/-- The elements of a list are not compared with the dimension. But a filter with one of them is written
as a comparison, so the derived measure has a formula that is not accepted. -/
theorem exists_rejected_derived :
    let model : Model := .ofMembers .hana [{ id := "City" }] [{ id := "Sales" }]
    let compiler : Compiler := { model }
    ∃ compiled, compiler.compile none "RESTRICT([Sales], [d/City] IN \x7b5\x7d)" = .ok compiled ∧
      ∃ measure ∈ compiled.derived, ∃ formula, measure.formula = some formula ∧
        ∀ again, compiler.compile none formula ≠ .ok again := by
  intro model compiler
  have hderived : ((compiler.compile none "RESTRICT([Sales], [d/City] IN \x7b5\x7d)").toOption.map
      fun compiled => compiled.derived.map (·.formula)) =
        some [some "RESTRICT([Sales], [d/City] = 5)"] := by decide +kernel
  have hrejected : (compiler.compile none "RESTRICT([Sales], [d/City] = 5)").isOk = false := by
    decide +kernel
  cases hcompile : compiler.compile none "RESTRICT([Sales], [d/City] IN \x7b5\x7d)" with
  | error messages =>
    rw [hcompile] at hderived
    cases hderived
  | ok compiled =>
    rw [hcompile] at hderived
    have hformulas : compiled.derived.map (·.formula) = [some "RESTRICT([Sales], [d/City] = 5)"] :=
      Option.some.inj hderived
    have hmem : some "RESTRICT([Sales], [d/City] = 5)" ∈ compiled.derived.map (·.formula) := by
      rw [hformulas]
      exact List.mem_singleton_self _
    obtain ⟨measure, hmeasure, hformula⟩ := List.mem_map.mp hmem
    refine ⟨compiled, rfl, measure, hmeasure, _, hformula, fun again hagain => ?_⟩
    rw [hagain] at hrejected
    cases hrejected

end Compiler

end OlapFormula
