import OlapFormula.Proofs.Checks.Silent
import OlapFormula.Proofs.Compiler.Accepted

/-!
# Wider flags

A flag that is switched on never makes a check stricter and never changes what a name stands for. So what is
accepted under some flags is accepted, and compiled to the same formula, under all flags that allow for more.
-/

namespace OlapFormula

namespace FeatureFlags

/-- Everything that the first flags allow for is allowed for by the second. -/
structure IsWithin (narrow wide : FeatureFlags) : Prop where
  stringArguments : narrow.stringArguments → wide.stringArguments
  dimensionArguments : narrow.dimensionArguments → wide.dimensionArguments
  percentageFunctions : narrow.percentageFunctions → wide.percentageFunctions
  dateFunctions : narrow.dateFunctions → wide.dateFunctions
  stringDimensionCompatibility :
    narrow.stringDimensionCompatibility → wide.stringDimensionCompatibility
  dateDimensionCompatibility : narrow.dateDimensionCompatibility → wide.dateDimensionCompatibility
  dimensionFilterCompatibility :
    narrow.dimensionFilterCompatibility → wide.dimensionFilterCompatibility

namespace IsWithin

variable {narrow wide : FeatureFlags} (h : narrow.IsWithin wide)

include h

lemma isEnabled {feature : Feature} (hfeature : narrow.isEnabled feature = true) :
    wide.isEnabled feature = true := by
  cases feature with
  | percentageFunctions => exact h.percentageFunctions hfeature
  | dateFunctions => exact h.dateFunctions hfeature

lemma isEnabled_item {item : FunctionItem} (hitem : item.isEnabled narrow = true) :
    item.isEnabled wide = true := by
  unfold FunctionItem.isEnabled at hitem ⊢
  rw [Option.all_eq_true] at hitem ⊢
  exact fun feature hfeature => h.isEnabled (hitem feature hfeature)

lemma mem_members {group : CompatibilityGroup} {type : DataType}
    (htype : type ∈ group.members narrow) : type ∈ group.members wide := by
  have hgrows {small large : List DataType} {a b : Bool} (hab : a = true → b = true)
      (hsmall : small ⊆ large) (hmem : type ∈ if a then large else small) :
      type ∈ if b then large else small := by
    cases a with
    | true => rwa [hab rfl]
    | false =>
      cases b with
      | true => exact hsmall hmem
      | false => exact hmem
  cases group with
  | stringLike => exact hgrows h.stringDimensionCompatibility (by decide) htype
  | numberLike => exact htype
  | dateLike => exact hgrows h.dateDimensionCompatibility (by decide) htype
  | filterLike => exact hgrows h.dimensionFilterCompatibility (by decide) htype

lemma covers {group : CompatibilityGroup} {type : DataType} (htype : group.covers narrow type = true) :
    group.covers wide type = true := by
  obtain ⟨ancestor, hancestor, hmem⟩ := List.any_eq_true.mp htype
  rw [List.contains_iff_mem] at hmem
  exact List.any_eq_true.mpr ⟨ancestor, hancestor, List.contains_iff_mem.mpr (h.mem_members hmem)⟩

lemma areCompatible {a b : DataType} (hab : narrow.areCompatible a b = true) :
    wide.areCompatible a b = true := by
  unfold FeatureFlags.areCompatible at hab ⊢
  rw [Bool.or_eq_true] at hab ⊢
  refine hab.imp_right fun hgroup => ?_
  obtain ⟨group, hmem, hcovers⟩ := List.any_eq_true.mp hgroup
  rw [Bool.and_eq_true] at hcovers
  refine List.any_eq_true.mpr ⟨group, hmem, ?_⟩
  rw [h.covers hcovers.1, h.covers hcovers.2]
  rfl

lemma accepts {expected actual : DataType} (haccepts : narrow.accepts expected actual = true) :
    wide.accepts expected actual = true := by
  unfold FeatureFlags.accepts at haccepts ⊢
  rw [Bool.or_eq_true] at haccepts ⊢
  exact haccepts.imp_right h.areCompatible

lemma agree {a b : DataType} (hab : narrow.agree a b = true) : wide.agree a b = true := by
  unfold FeatureFlags.agree at hab ⊢
  rw [Bool.or_eq_true] at hab ⊢
  exact hab.imp_right h.areCompatible

lemma allowsDimensions {usage : DimensionUsage}
    (husage : Checks.allowsDimensions narrow usage = true) :
    Checks.allowsDimensions wide usage = true := by
  cases usage with
  | never => cases husage
  | gated => exact h.dimensionArguments husage
  | filter | always => rfl

end IsWithin

end FeatureFlags

namespace Catalog

/-- The variants of a name depend on the same flag. -/
lemma feature_of_mem_variants {name : String} {a b : FunctionItem} (ha : a ∈ variants name)
    (hb : b ∈ variants name) : a.feature = b.feature := by
  have hall : ∀ a ∈ items, ∀ b ∈ items, a.name = b.name → a.feature = b.feature := by
    decide +kernel
  obtain ⟨ha, haname⟩ := List.mem_filter.mp ha
  obtain ⟨hb, hbname⟩ := List.mem_filter.mp hb
  rw [beq_iff_eq] at haname hbname
  exact hall a ha b hb (String.toList_injective (haname.trans hbname.symm))

lemma isEnabled_congr {a b : FunctionItem} (h : a.feature = b.feature) (flags : FeatureFlags) :
    a.isEnabled flags = b.isEnabled flags := by
  rw [FunctionItem.isEnabled, h, ← FunctionItem.isEnabled]

/-- A name stands for the same item under wider flags. -/
theorem lookup_of_isWithin {narrow wide : FeatureFlags} (h : narrow.IsWithin wide) {backend : Backend}
    {allowInternal : Bool} {name : String} {item : FunctionItem}
    (hitem : lookup narrow backend allowInternal name = .ok item) :
    lookup wide backend allowInternal name = .ok item := by
  have hsame : ((variants name).filter fun item => allowInternal || !item.internal).filter
      (·.isEnabled narrow) ≠ [] →
      ((variants name).filter fun item => allowInternal || !item.internal).filter (·.isEnabled wide) =
        ((variants name).filter fun item => allowInternal || !item.internal).filter
          (·.isEnabled narrow) := by
    intro hne
    obtain ⟨found, hfound⟩ := List.exists_mem_of_ne_nil _ hne
    obtain ⟨hvisible, henabled⟩ := List.mem_filter.mp hfound
    refine List.filter_congr fun item hitem => ?_
    have hfeature := feature_of_mem_variants (List.mem_of_mem_filter hitem)
      (List.mem_of_mem_filter hvisible)
    rw [isEnabled_congr hfeature, isEnabled_congr hfeature, henabled, h.isEnabled_item henabled]
  unfold lookup at hitem ⊢
  dsimp only at hitem ⊢
  by_cases henabled : ((variants name).filter fun item => allowInternal || !item.internal).filter
      (·.isEnabled narrow) = []
  · rw [henabled] at hitem
    split_ifs at hitem
    cases hitem
  · rwa [hsame henabled]

end Catalog

namespace Construction

variable {settings : Settings} {wide : FeatureFlags} (h : settings.flags.IsWithin wide)

include h

/-- A call that passes under some flags passes under wider ones. -/
theorem Passes.of_isWithin {name : String} {item : FunctionItem} {args : List Node}
    (hpasses : Passes settings name item args) :
    Passes { settings with flags := wide } name item args := by
  rw [passes_iff] at hpasses ⊢
  intro check
  have hnarrow := hpasses check
  cases check with
  | knownFunction | arity | mixedList | item => exact hnarrow
  | stringUsage =>
    rw [Check.messages, Checks.hasErrors_stringUsage] at hnarrow ⊢
    exact hnarrow.imp_right (Or.imp_left h.stringArguments)
  | dimensionUsage =>
    rw [Check.messages, Checks.hasErrors_dimensionUsage] at hnarrow ⊢
    exact fun ref href => (hnarrow ref href).imp_left h.allowsDimensions
  | argumentTypes =>
    rw [Check.messages, Checks.hasErrors_argumentTypes] at hnarrow ⊢
    intro position contract type hcontract htype
    obtain ⟨expected, hmem, haccepts⟩ :=
      List.any_eq_true.mp (hnarrow position contract type hcontract htype)
    exact List.any_eq_true.mpr ⟨expected, hmem, h.accepts haccepts⟩
  | sameType =>
    rw [Check.messages, Checks.hasErrors_sameType] at hnarrow ⊢
    intro position contract other actual expected hcontract hother hactual hexpected
    exact h.agree (hnarrow position contract other actual expected hcontract hother hactual hexpected)

lemma ofCall_of_isWithin {name : String} {item wideItem : Except Catalog.Unavailable FunctionItem}
    (hitem : ∀ found, item = .ok found → wideItem = .ok found) {args : List Node}
    (hmessages : Message.hasErrors (ofCall settings name item args).2 = false) :
    ofCall { settings with flags := wide } name wideItem args = ofCall settings name item args := by
  obtain ⟨found, rfl⟩ := exists_item_of_hasErrors hmessages
  have hpasses := hasErrors_ofCall_iff.mp hmessages
  rw [hitem found rfl, ofCall_eq hpasses, ofCall_eq (hpasses.of_isWithin h)]

lemma calledItem_of_isWithin {model : Model} {e : Expr} {item : FunctionItem}
    (hitem : calledItem settings model e = .ok item) :
    calledItem { settings with flags := wide } model e = .ok item := by
  cases e with
  | binary _ _ _ | unary _ _ | call _ _ => exact Catalog.lookup_of_isWithin h hitem
  | number _ | string _ | boolean _ | null | field _ | list _ => cases hitem

omit h in
lemma buildAll_congr {other : Settings} {model : Model} {es : List Expr}
    (hes : ∀ e ∈ es, build other model e = build settings model e) :
    buildAll other model es = buildAll settings model es := by
  induction es with
  | nil => rfl
  | cons e es ih =>
    rw [List.forall_mem_cons] at hes
    rw [buildAll, buildAll, hes.1, ih hes.2]

/-- What is built without an error is built in the same way under wider flags. -/
theorem build_of_isWithin {model : Model} {e : Expr}
    (hmessages : Message.hasErrors (build settings model e).2 = false) :
    build { settings with flags := wide } model e = build settings model e := by
  induction e using Expr.induction_of_children with
  | number spelling => rw [build, build]
  | string value => rw [build, build]
  | boolean value => rw [build, build]
  | null => rw [build, build]
  | field reference => rw [build, build]
  | call e name hname ih =>
    rw [build_eq_buildCall hname] at hmessages
    obtain ⟨hchildren, hcall⟩ := hasErrors_buildCall.mp hmessages
    have hargs := buildAll_congr fun child hchild => ih child hchild (hchildren child hchild)
    rw [build_eq_buildCall hname, build_eq_buildCall hname]
    unfold buildCall
    dsimp only
    rw [← buildAll_nodes] at hcall ⊢
    rw [← buildAll_nodes, hargs, ofCall_of_isWithin h (fun _ => calledItem_of_isWithin h) hcall]
  | list items ih =>
    rw [build] at hmessages ⊢
    rw [build, buildAll_congr fun item hitem =>
      ih item hitem ((hasErrors_buildAll items).mp hmessages item hitem)]

end Construction

namespace Compiler

def withFlags (compiler : Compiler) (flags : FeatureFlags) : Compiler :=
  { compiler with settings := { compiler.settings with flags } }

/-- What is accepted under some flags is compiled to the same formula, with the same messages and derived
measures, under flags that allow for more. -/
theorem compile_withFlags {compiler : Compiler} {wide : FeatureFlags}
    (h : compiler.settings.flags.IsWithin wide) {editing : Option String} {text : String}
    {compiled : CompiledFormula} (hcompiled : compiler.compile editing text = .ok compiled) :
    (compiler.withFlags wide).compile editing text = .ok compiled := by
  obtain ⟨e, hparse, hmessages, hcycles, rfl⟩ := compile_eq_ok_iff.mp hcompiled
  have hbuild : Construction.buildRoot (compiler.withFlags wide).settings compiler.model e =
      Construction.buildRoot compiler.settings compiler.model e := by
    unfold Construction.buildRoot at hmessages ⊢
    rw [Message.hasErrors_append, Bool.or_eq_false_iff] at hmessages
    rw [withFlags, Construction.build_of_isWithin h hmessages.1]
  refine compile_eq_ok_iff.mpr ⟨e, hparse, ?_⟩
  rw [show (compiler.withFlags wide).model = compiler.model from rfl, hbuild]
  exact ⟨hmessages, hcycles, rfl⟩

theorem compile_withFlags_of_restrict :
    let narrow : FeatureFlags := ⟨false, false, false, true, false, false, true⟩
    let wide : FeatureFlags := ⟨true, false, true, true, false, true, true⟩
    let model : Model := .ofMembers .hana [{ id := "City" }] [{ id := "Sales" }]
    let compiler : Compiler := { settings := { flags := narrow }, model }
    let text := "RESTRICT([Sales], [d/City] IN \x7b\"Paris\"\x7d) / [Sales]"
    compiler.settings.flags.IsWithin wide ∧ ∃ compiled, compiler.compile none text = .ok compiled ∧
      (compiler.withFlags wide).compile none text = .ok compiled := by
  intro narrow wide model compiler text
  have hwithin : compiler.settings.flags.IsWithin wide := by constructor <;> decide
  obtain ⟨compiled, hcompiled⟩ := exists_compiled
    (show (compiler.compile none text).isOk = true by decide +kernel)
  exact ⟨hwithin, compiled, hcompiled, compile_withFlags hwithin hcompiled⟩

end Compiler

end OlapFormula
