import OlapFormula.Proofs.Compiler.Accepted
import OlapFormula.Proofs.Construction.Forgetting
import OlapFormula.Proofs.Expr.Fields
import OlapFormula.Proofs.Expr.Sound
import OlapFormula.Proofs.Model.Removal
import OlapFormula.Token.References

/-!
# Formulas after a measure is removed

An accepted formula is validated again in the model without one of the measures it refers to. Each reference to
that measure is found fault with, and nothing else is exactly if the calls and the root take the types that are
left. Not all do: an operator on numbers gives a number even where nothing is known of its operands, so what
takes a measure no longer takes that.
-/

namespace OlapFormula

open Message
open Node (forget)

/-- The references to a measure in a text, in the order in which they stand there. -/
def Model.referencesTo (model : Model) (m : Measure) (text : String) : List FieldReference :=
  ((Lexeme.scan text.toList).filterMap Token.reference?).filter fun r =>
    r.kind == .measure && model.measure? r.id == some m

/-- The compiler once the measure is removed from its model. -/
def Compiler.withoutMeasure (compiler : Compiler) (m : Measure) : Compiler :=
  { compiler with model := (compiler.model.removeMeasure m.id).1 }

/-- The root of a formula may be of this type; truth values are cast. -/
def DataType.isRootType (type : DataType) : Bool := type == .unknown || type.isNumeric || type.isBoolean

namespace Construction

section

variable (order : DateOrder) (root : Node)

lemma split_checkRoot :
    aboutMeasures (checkRoot order root).2 = [] ∧
      others (checkRoot order root).2 = (checkRoot order root).2 := by
  unfold checkRoot
  dsimp only
  split
  · exact ⟨rfl, rfl⟩
  · split
    · exact ⟨rfl, rfl⟩
    · split <;> exact ⟨rfl, rfl⟩

lemma checkRoot_messages (h : root.type.isRootType = true) : (checkRoot order root).2 = [] := by
  unfold DataType.isRootType at h
  rw [Bool.or_eq_true] at h
  unfold checkRoot
  dsimp only
  split
  · rfl
  · next hother => rw [if_pos (h.resolve_left hother)]

lemma hasErrors_checkRoot :
    hasErrors (checkRoot order root).2 = false ↔ root.type.isRootType = true := by
  refine ⟨fun h => ?_, fun h => by rw [checkRoot_messages order root h]; rfl⟩
  unfold DataType.isRootType
  rw [Bool.or_eq_true]
  unfold checkRoot at h
  dsimp only at h
  split at h
  · next htype => exact Or.inl htype
  · split at h
    · next hboolean => exact Or.inr hboolean
    · split at h <;> cases h

end

variable {settings : Settings} {model reduced : Model} {m : Measure}

/-- The calls and the root of a formula take the types that are left without the measure. -/
structure StaysTyped (settings : Settings) (model : Model) (m : Measure) (e : Expr) : Prop where
  calls : ∀ call ∈ callSites settings model e, FitsWithout settings m call
  root : (forget m (build settings model e).1).type.isRootType = true

lemma buildRoot_messages (settings : Settings) (model : Model) (e : Expr) :
    (buildRoot settings model e).2 = (build settings model e).2 ++
      (checkRoot settings.dateOrder (build settings model e).1).2 := rfl

/-- A formula without an error is built again without an error, but for those about measures, exactly if it
stays typed, and then with the same messages. -/
theorem others_buildRoot (hbackend : reduced.backend = model.backend)
    (hdimensions : ∀ name, reduced.dimension? name = model.dimension? name) {e : Expr}
    (hfields : ∀ r ∈ e.fields, Loses model m reduced r)
    (h : hasErrors (buildRoot settings model e).2 = false) :
    (hasErrors (others (buildRoot settings reduced e).2) = false ↔ StaysTyped settings model m e) ∧
      (StaysTyped settings model m e →
        others (buildRoot settings reduced e).2 = (buildRoot settings model e).2) := by
  rw [buildRoot_messages, hasErrors_append, Bool.or_eq_false_iff] at h
  obtain ⟨hbuild, hroot⟩ := h
  have hrebuilt := isRebuilt_build hbackend hdimensions hfields hbuild
  have hsplit : others (buildRoot settings reduced e).2 = others (build settings reduced e).2 ++
      (checkRoot settings.dateOrder (build settings reduced e).1).2 := by
    rw [buildRoot_messages, others_append, (split_checkRoot _ _).2]
  rw [hsplit]
  constructor
  · rw [hasErrors_append, Bool.or_eq_false_iff, hrebuilt.fits_iff, hasErrors_checkRoot]
    constructor
    · rintro ⟨hcalls, hroot⟩
      rw [hrebuilt.node hcalls] at hroot
      exact ⟨hcalls, hroot⟩
    · rintro ⟨hcalls, hroot⟩
      rw [hrebuilt.node hcalls]
      exact ⟨hcalls, hroot⟩
  · rintro ⟨hcalls, hreduced⟩
    rw [hrebuilt.messages hcalls, hrebuilt.node hcalls, checkRoot_messages _ _ hreduced, buildRoot_messages,
      checkRoot_messages _ _ ((hasErrors_checkRoot _ _).mp hroot)]

/-- In the reduced model the unknown measures are those that were this one. -/
lemma filter_fields_of_loses {e : Expr} (hfields : ∀ r ∈ e.fields, Loses model m reduced r)
    (h : hasErrors (build settings model e).2 = false) :
    (e.fields.filter fun r => r.namesMeasure && (reduced.measure? r.id).isNone) =
      e.fields.filter fun r => r.namesMeasure && model.measure? r.id == some m := by
  refine List.filter_congr fun r hr => ?_
  cases hnames : r.namesMeasure with
  | false => rfl
  | true =>
    obtain ⟨found, hfound⟩ := Option.ne_none_iff_exists'.mp (measure?_ne_none_of_build h r hr hnames)
    rw [hfields r hr hnames, hfound]
    by_cases hsame : found = m <;> simp [Option.filter, hsame]

end Construction

namespace Expr

open Construction

variable {limits : NestingLimits} {text : String} {e : Expr}

/-- The references of a formula to a measure are those in its text, since each reference is of some kind. -/
lemma filter_fields_of_parse (h : parse limits text = .ok e) (model : Model) (m : Measure) :
    (e.fields.filter fun r => r.namesMeasure && model.measure? r.id == some m) =
      model.referencesTo m text := by
  have hkind : ∀ r ∈ e.fields, r.namesMeasure = (r.kind == .measure) := by
    intro r hr
    have hkind := (isWellFormed_of_parse h r hr).kind
    rw [FieldReference.namesMeasure, beq_eq_false_iff_ne.mpr hkind, Bool.or_false]
  have hreferences : e.fields = (Lexeme.scan text.toList).filterMap Token.reference? := by
    rw [(derives_of_parse h).fields_eq, references, Lexeme.words, List.filterMap_map]
    rfl
  rw [Model.referencesTo, ← hreferences]
  exact List.filter_congr fun r hr => by rw [hkind r hr]

end Expr

namespace Model

variable {settings : Settings} {model : Model} {m : Measure} {limits : NestingLimits} {text : String} {e : Expr}

/-- Where no reference to the measure finds another one, the measure is all that is lost. -/
lemma Reachable.loses_removeMeasure (h : Reachable model) (hm : m ∈ model.measures)
    (hparse : Expr.parse limits text = .ok e)
    (hbuild : hasErrors (Construction.build settings model e).2 = false)
    (hlost : ∀ r ∈ model.referencesTo m text, (model.removeMeasure m.id).1.measure? r.id = none) :
    ∀ r ∈ e.fields, Construction.Loses model m (model.removeMeasure m.id).1 r := by
  intro r hr hnames
  obtain ⟨found, hfound⟩ :=
    Option.ne_none_iff_exists'.mp (Construction.measure?_ne_none_of_build hbuild r hr hnames)
  rw [hfound]
  by_cases hsame : found = m
  · subst hsame
    have hmem : r ∈ model.referencesTo found text := by
      rw [← Expr.filter_fields_of_parse hparse, List.mem_filter, hnames, hfound]
      exact ⟨hr, by simp⟩
    rw [hlost r hmem]
    simp [Option.filter]
  · rw [h.isIndexed.measure?_removeMeasure hm (h.removeMeasure m.id).isIndexed hfound hsame]
    simp [Option.filter, hsame]

end Model

namespace Compiler

/-- An accepted formula is validated once more after a measure is removed, where none of its references to the
measure finds another one. There is one error for each of these references, in their order. Besides, there are
the messages from before and no other errors exactly if the formula stays typed. -/
theorem validate_withoutMeasure {compiler : Compiler} (hmodel : compiler.model.Reachable) {text : String}
    {compiled : CompiledFormula} (hcompiled : compiler.compile none text = .ok compiled) {m : Measure}
    (hm : m ∈ compiler.model.measures)
    (hlost : ∀ r ∈ compiler.model.referencesTo m text,
      (compiler.withoutMeasure m).model.measure? r.id = none) :
    ∃ e, Expr.parse compiler.settings.limits text = .ok e ∧
      let messages := (compiler.withoutMeasure m).validate none text
      aboutMeasures messages = (compiler.model.referencesTo m text).map unknownMeasure ∧
        (hasErrors (others messages) = false ↔
          Construction.StaysTyped compiler.settings compiler.model m e) ∧
        (Construction.StaysTyped compiler.settings compiler.model m e →
          others messages = compiled.messages) := by
  obtain ⟨e, hparse, hroot, -, rfl⟩ := compile_eq_ok_iff.mp hcompiled
  have hbuild : hasErrors (Construction.build compiler.settings compiler.model e).2 = false := by
    rw [Construction.buildRoot_messages, hasErrors_append, Bool.or_eq_false_iff] at hroot
    exact hroot.1
  have hloses := hmodel.loses_removeMeasure hm hparse hbuild hlost
  obtain ⟨hbackend, hnames⟩ := Model.removeMeasure_fields compiler.model m.id
  have hdimensions (name : String) :
      (compiler.withoutMeasure m).model.dimension? name = compiler.model.dimension? name := by
    rw [Model.dimension?, Model.dimension?, withoutMeasure, hnames]
  have hvalidate : (compiler.withoutMeasure m).validate none text =
      (Construction.buildRoot compiler.settings (compiler.withoutMeasure m).model e).2 := by
    unfold validate run
    rw [show (compiler.withoutMeasure m).settings = compiler.settings from rfl, hparse]
    exact List.append_nil _
  have hunknown := Construction.filter_fields_of_loses hloses hbuild
  refine ⟨e, hparse, ?_, ?_⟩
  · rw [hvalidate, Construction.buildRoot_messages, aboutMeasures_append, (Construction.split_checkRoot _ _).1,
      List.append_nil, Construction.aboutMeasures_build, ← Expr.filter_fields_of_parse hparse]
    exact congrArg (List.map unknownMeasure) hunknown
  · rw [hvalidate]
    exact Construction.others_buildRoot hbackend hdimensions hloses hroot

theorem validate_withoutMeasure_of_quotient :
    let m : Measure := { id := "Sales", aliasName := some "Revenue" }
    let model := (({ backend := .hana } : Model).insertMeasure { id := "Costs" }).insertMeasure m
    let compiler : Compiler := { model }
    let text := "IF([Sales] > [Costs], [Costs] / [Revenue], 0)"
    model.Reachable ∧ m ∈ model.measures ∧
      (∀ r ∈ model.referencesTo m text, (compiler.withoutMeasure m).model.measure? r.id = none) ∧
      ∃ compiled e, compiler.compile none text = .ok compiled ∧
        Expr.parse compiler.settings.limits text = .ok e ∧
        Construction.StaysTyped compiler.settings model m e ∧
        let messages := (compiler.withoutMeasure m).validate none text
        aboutMeasures messages =
          [{ code := .invalidMeasure, text := "Unknown measure Sales" },
            { code := .invalidMeasure, text := "Unknown measure Revenue" }] ∧
        others messages = compiled.messages := by
  intro m model compiler text
  have hmodel : model.Reachable := .insertMeasure _ (.insertMeasure _ (.empty _))
  have hm : m ∈ model.measures := by decide
  have hlost : ∀ r ∈ model.referencesTo m text, (compiler.withoutMeasure m).model.measure? r.id = none := by
    decide +kernel
  have hunknown : (model.referencesTo m text).map unknownMeasure =
      [{ code := .invalidMeasure, text := "Unknown measure Sales" },
        { code := .invalidMeasure, text := "Unknown measure Revenue" }] := by
    decide +kernel
  have hothers : hasErrors (others ((compiler.withoutMeasure m).validate none text)) = false := by
    decide +kernel
  obtain ⟨compiled, hcompiled⟩ := exists_compiled
    (show (compiler.compile none text).isOk = true by decide +kernel)
  obtain ⟨e, hparse, habout, htyped, hsame⟩ := validate_withoutMeasure hmodel hcompiled hm hlost
  have hstays := htyped.mp hothers
  exact ⟨hmodel, hm, hlost, compiled, e, hcompiled, hparse, hstays, habout.trans hunknown, hsame hstays⟩

/-- It does happen that more errors are reported: a sum is a number where nothing is known of what is added up,
and is no longer taken for a measure. -/
theorem sum_cascades :
    let m : Measure := { id := "Sales" }
    let model := ({ backend := .hana } : Model).insertMeasure m
    let compiler : Compiler := { model }
    let text := "GRANDTOTAL([Sales] + 1)"
    (compiler.compile none text).isOk = true ∧ m ∈ model.measures ∧
      (∀ r ∈ model.referencesTo m text, (compiler.withoutMeasure m).model.measure? r.id = none) ∧
      (compiler.withoutMeasure m).validate none text =
        [{ code := .invalidMeasure, text := "Unknown measure Sales" },
          { code := .typeMismatch, text := "GRANDTOTAL expects a measure as its first argument" }] := by
  decide +kernel

end Compiler

end OlapFormula
