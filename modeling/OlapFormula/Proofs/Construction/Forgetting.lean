import OlapFormula.Proofs.Checks.Codes
import OlapFormula.Proofs.Checks.Forgetting
import OlapFormula.Proofs.Construction.CallSites
import OlapFormula.Proofs.Lowering.Forgetting

/-!
# Building without a measure

A formula that is built without an error is built again in a model without one of the measures. Each reference
to that measure is found fault with once. Nothing else is as long as every call takes the types that its
arguments have without the measure.
-/

namespace OlapFormula

open Node (forget)

/-- A reference that is looked up among the measures. -/
def FieldReference.namesMeasure (r : FieldReference) : Bool := r.kind == .measure || r.kind == .unknown

namespace Message

def unknownMeasure (r : FieldReference) : Message :=
  { code := .invalidMeasure, text := "Unknown measure " ++ r.id }

/-- The messages about unknown measures. -/
def aboutMeasures (messages : List Message) : List Message := messages.filter (·.code == .invalidMeasure)

/-- The messages about anything else. -/
def others (messages : List Message) : List Message := messages.filter (·.code != .invalidMeasure)

lemma aboutMeasures_append (a b : List Message) :
    aboutMeasures (a ++ b) = aboutMeasures a ++ aboutMeasures b := List.filter_append ..

lemma others_append (a b : List Message) : others (a ++ b) = others a ++ others b := List.filter_append ..

lemma aboutMeasures_flatMap {α : Type} (xs : List α) (f : α → List Message) :
    aboutMeasures (xs.flatMap f) = xs.flatMap fun x => aboutMeasures (f x) := List.filter_flatMap ..

lemma others_flatMap {α : Type} (xs : List α) (f : α → List Message) :
    others (xs.flatMap f) = xs.flatMap fun x => others (f x) := List.filter_flatMap ..

/-- Messages about calls are not about measures. -/
lemma AreAboutCalls.split {messages : List Message} (h : AreAboutCalls messages) :
    aboutMeasures messages = [] ∧ others messages = messages := by
  have hcode (message : Message) (hmessage : message ∈ messages) : message.code ≠ .invalidMeasure := by
    intro hcode
    have hcall := h message hmessage
    rw [hcode] at hcall
    exact absurd hcall (by decide)
  constructor
  · exact List.filter_eq_nil_iff.mpr fun message hmessage => by simpa using hcode message hmessage
  · exact List.filter_eq_self.mpr fun message hmessage => by simpa using hcode message hmessage

end Message

open Message

namespace Construction

variable {settings : Settings} {model reduced : Model} {m : Measure}

lemma areAboutCalls_ofCall (name : String) (item : Except Catalog.Unavailable FunctionItem)
    (args : List Node) : AreAboutCalls (ofCall settings name item args).2 := by
  cases item with
  | error reason => exact Check.areAboutCalls_run _ _ _
  | ok item =>
    rw [ofCall_messages]
    exact Check.areAboutCalls_run _ _ _

lemma aboutMeasures_ofField (model : Model) (r : FieldReference) :
    aboutMeasures (ofField model r).2 =
      if r.namesMeasure && (model.measure? r.id).isNone then [unknownMeasure r] else [] := by
  have hsuffix (dimension : Dimension) (suffix : FieldSuffix) :
      aboutMeasures (suffixMessages dimension suffix) = [] := by
    unfold suffixMessages
    split
    · split <;> rfl
    · split <;> rfl
  have hmeasure : aboutMeasures (ofMeasure model r).2 =
      if (model.measure? r.id).isNone then [unknownMeasure r] else [] := by
    rw [ofMeasure, aboutMeasures_append]
    split <;> split <;> rfl
  unfold ofField
  split
  · next hkind => rw [hmeasure, FieldReference.namesMeasure, hkind]; rfl
  · next hkind => rw [hmeasure, FieldReference.namesMeasure, hkind]; rfl
  · next hkind =>
    rw [FieldReference.namesMeasure, hkind]
    unfold ofDimension
    split
    · rfl
    · cases r.suffix with
      | none => rfl
      | some suffix => exact hsuffix _ suffix
  · next hkind => rw [FieldReference.namesMeasure, hkind]; rfl
  · next hkind => rw [FieldReference.namesMeasure, hkind]; rfl

/-- Whatever else is wrong with a formula, each reference to an unknown measure is found fault with once. -/
theorem aboutMeasures_build (settings : Settings) (model : Model) (e : Expr) :
    aboutMeasures (build settings model e).2 =
      (e.fields.filter fun r => r.namesMeasure && (model.measure? r.id).isNone).map unknownMeasure := by
  have hall {es : List Expr} (ih : ∀ e ∈ es, aboutMeasures (build settings model e).2 =
      (e.fields.filter fun r => r.namesMeasure && (model.measure? r.id).isNone).map unknownMeasure) :
      aboutMeasures (buildAll settings model es).2 =
        ((Expr.fieldsOfAll es).filter fun r => r.namesMeasure && (model.measure? r.id).isNone).map
          unknownMeasure := by
    rw [buildAll_messages, aboutMeasures_flatMap, Expr.fieldsOfAll_eq, List.filter_flatMap, List.map_flatMap]
    exact List.flatMap_congr ih
  induction e using Expr.induction_of_children with
  | number spelling =>
    rw [build, ofSpelling]
    split <;> rfl
  | string value => rfl
  | boolean value => rfl
  | null => rfl
  | field reference =>
    rw [build, aboutMeasures_ofField, Expr.fields, List.filter_singleton]
    cases reference.namesMeasure && (model.measure? reference.id).isNone <;> rfl
  | call e name hname ih =>
    rw [build_eq_buildCall hname, buildCall, aboutMeasures_append, hall ih,
      (areAboutCalls_ofCall name _ _).split.1, List.append_nil, Expr.fields_of_callName hname]
  | list items ih =>
    rw [build_list]
    exact hall ih

/-- No reference to an unknown measure is accepted. -/
lemma measure?_ne_none_of_build {e : Expr} (h : hasErrors (build settings model e).2 = false) :
    ∀ r ∈ e.fields, r.namesMeasure = true → model.measure? r.id ≠ none := by
  intro r hr hnames hnone
  have habout : unknownMeasure r ∈ aboutMeasures (build settings model e).2 := by
    rw [aboutMeasures_build]
    exact List.mem_map_of_mem (List.mem_filter.mpr ⟨hr, by rw [hnames, hnone]; rfl⟩)
  have herrors : hasErrors (build settings model e).2 = true :=
    List.any_eq_true.mpr ⟨unknownMeasure r, List.mem_of_mem_filter habout, rfl⟩
  rw [h] at herrors
  cases herrors

/-- The call takes the types that its arguments have without the measure. -/
def FitsWithout (settings : Settings) (m : Measure) (call : CallSite) : Prop :=
  ∀ item, call.item = .ok item →
    item.FitsTypes settings.flags ((call.args.map (forget m)).map Node.type)

/-- The reference names no measure in the reduced model if it names this one, and the same one otherwise. -/
def Loses (model : Model) (m : Measure) (reduced : Model) (r : FieldReference) : Prop :=
  r.namesMeasure = true → reduced.measure? r.id = (model.measure? r.id).filter (· ≠ m)

/-- A call that is made without an error is made in the same way exactly if it takes the new types. -/
lemma ofCall_forget {name : String} {item : Except Catalog.Unavailable FunctionItem} {args : List Node}
    (h : hasErrors (ofCall settings name item args).2 = false) :
    (hasErrors (ofCall settings name item (args.map (forget m))).2 = false ↔
      FitsWithout settings m (callSite name item args)) ∧
    (FitsWithout settings m (callSite name item args) →
      ofCall settings name item (args.map (forget m)) =
        (forget m (ofCall settings name item args).1, (ofCall settings name item args).2)) := by
  obtain ⟨found, rfl⟩ := exists_item_of_hasErrors h
  have hpasses := hasErrors_ofCall_iff.mp h
  have hiff : FitsWithout settings m (callSite name (.ok found) args) ↔
      Passes settings name found (found.kind.prepare (args.map (forget m))) := by
    rw [← Node.map_forget_prepare, passes_forget_iff m hpasses]
    exact ⟨fun hfits => hfits found rfl, fun hfits _ hitem => Except.ok.inj hitem ▸ hfits⟩
  refine ⟨hasErrors_ofCall_iff.trans hiff.symm, fun hfits => ?_⟩
  rw [ofCall_eq (hiff.mp hfits), ofCall_eq hpasses, ← Node.map_forget_prepare, ← Node.forget_call,
    Node.lowerRoot_forget, (itemMessages_forget m hpasses).2 (hfits found rfl).measure]

/-- What is built in the reduced model is what was built before, with other messages about measures only,
exactly if the calls take the new types. -/
structure IsRebuilt (settings : Settings) (m : Measure) (calls : List CallSite) (before after : Built) :
    Prop where
  fits_iff : hasErrors (others after.2) = false ↔ ∀ call ∈ calls, FitsWithout settings m call
  node : (∀ call ∈ calls, FitsWithout settings m call) → after.1 = forget m before.1
  messages : (∀ call ∈ calls, FitsWithout settings m call) → others after.2 = before.2

/-- A reference without an error is forgotten, or it stands for the same thing. -/
lemma ofField_forget (hdimensions : ∀ name, reduced.dimension? name = model.dimension? name)
    {r : FieldReference} (hloses : Loses model m reduced r) (h : hasErrors (ofField model r).2 = false) :
    (ofField reduced r).1 = forget m (ofField model r).1 ∧
      others (ofField reduced r).2 = (ofField model r).2 := by
  have hmeasure (hnames : r.namesMeasure = true) (h : hasErrors (ofMeasure model r).2 = false) :
      (ofMeasure reduced r).1 = forget m (ofMeasure model r).1 ∧
        others (ofMeasure reduced r).2 = (ofMeasure model r).2 := by
    obtain ⟨hsuffix, hknown⟩ := hasErrors_ofMeasure.mp h
    obtain ⟨measure, hfound⟩ := Option.ne_none_iff_exists'.mp hknown
    have hreduced := hloses hnames
    rw [hfound] at hreduced
    unfold ofMeasure
    rw [hsuffix, hfound, hreduced]
    by_cases hlost : measure = m
    · subst hlost
      simp [Option.filter, MeasureRef.forget, others]
    · simp [Option.filter, MeasureRef.forget, others, hlost]
  have hsuffix (dimension : Dimension) (suffix : FieldSuffix) :
      others (suffixMessages dimension suffix) = suffixMessages dimension suffix := by
    unfold suffixMessages
    split
    · split <;> rfl
    · split <;> rfl
  unfold ofField at h ⊢
  split at h
  · next hkind => exact hmeasure (by rw [FieldReference.namesMeasure, hkind]; rfl) h
  · next hkind => exact hmeasure (by rw [FieldReference.namesMeasure, hkind]; rfl) h
  · unfold ofDimension
    rw [hdimensions]
    split
    · exact ⟨rfl, rfl⟩
    · refine ⟨rfl, ?_⟩
      cases r.suffix with
      | none => rfl
      | some suffix => exact hsuffix _ suffix
  · exact ⟨rfl, rfl⟩
  · exact ⟨rfl, rfl⟩

lemma isRebuilt_of_no_calls {before after : Built} (hnode : after.1 = forget m before.1)
    (hmessages : others after.2 = before.2) (h : hasErrors before.2 = false) :
    IsRebuilt settings m [] before after where
  fits_iff := iff_of_true (by rw [hmessages, h]) fun _ hcall => nomatch hcall
  node _ := hnode
  messages _ := hmessages

section

variable {es : List Expr} (ih : ∀ e ∈ es,
  IsRebuilt settings m (callSites settings model e) (build settings model e) (build settings reduced e))

include ih

lemma hasErrors_others_buildAll : hasErrors (others (buildAll settings reduced es).2) = false ↔
    ∀ call ∈ callSitesOfAll settings model es, FitsWithout settings m call := by
  rw [buildAll_messages, others_flatMap, hasErrors_flatMap, forall_callSitesOfAll]
  exact forall₂_congr fun e he => (ih e he).fits_iff

variable (hfits : ∀ call ∈ callSitesOfAll settings model es, FitsWithout settings m call)

include hfits

lemma map_build_forget : es.map (fun e => (build settings reduced e).1) =
    (es.map fun e => (build settings model e).1).map (forget m) := by
  rw [List.map_map]
  exact List.map_congr_left fun e he => (ih e he).node (forall_callSitesOfAll.mp hfits e he)

lemma others_buildAll : others (buildAll settings reduced es).2 = (buildAll settings model es).2 := by
  rw [buildAll_messages, buildAll_messages, others_flatMap]
  exact List.flatMap_congr fun e he => (ih e he).messages (forall_callSitesOfAll.mp hfits e he)

omit hfits in
/-- A call is rebuilt if everything in it is. -/
lemma isRebuilt_buildCall {name : String} {item : Except Catalog.Unavailable FunctionItem}
    (hcall : hasErrors (ofCall settings name item (es.map fun e => (build settings model e).1)).2 = false) :
    IsRebuilt settings m
      (callSitesOfAll settings model es ++
        [callSite name item (es.map fun e => (build settings model e).1)])
      (buildCall settings model name item es) (buildCall settings reduced name item es) := by
  obtain ⟨hiff, hsame⟩ := ofCall_forget (m := m) hcall
  have hothers (args : List Node) :
      others (ofCall settings name item args).2 = (ofCall settings name item args).2 :=
    (areAboutCalls_ofCall name item args).split.2
  unfold buildCall
  dsimp only
  refine ⟨?_, fun hfits => ?_, fun hfits => ?_⟩
  · rw [List.forall_mem_append, List.forall_mem_singleton, others_append, hasErrors_append,
      Bool.or_eq_false_iff, hasErrors_others_buildAll ih, hothers]
    exact and_congr_right fun hfits => by rw [map_build_forget ih hfits, hiff]
  · rw [List.forall_mem_append, List.forall_mem_singleton] at hfits
    rw [map_build_forget ih hfits.1, hsame hfits.2]
  · rw [List.forall_mem_append, List.forall_mem_singleton] at hfits
    rw [others_append, hothers, others_buildAll ih hfits.1, map_build_forget ih hfits.1, hsame hfits.2]

end

lemma calledItem_congr (hbackend : reduced.backend = model.backend) (e : Expr) :
    calledItem settings reduced e = calledItem settings model e := by
  cases e <;> simp only [calledItem, hbackend]

/-- An expression that is built without an error is rebuilt. -/
theorem isRebuilt_build (hbackend : reduced.backend = model.backend)
    (hdimensions : ∀ name, reduced.dimension? name = model.dimension? name) {e : Expr}
    (hfields : ∀ r ∈ e.fields, Loses model m reduced r)
    (h : hasErrors (build settings model e).2 = false) :
    IsRebuilt settings m (callSites settings model e) (build settings model e) (build settings reduced e) := by
  have hall {es : List Expr}
      (ih : ∀ e ∈ es, (∀ r ∈ e.fields, Loses model m reduced r) → hasErrors (build settings model e).2 = false →
        IsRebuilt settings m (callSites settings model e) (build settings model e) (build settings reduced e))
      (hfields : ∀ r ∈ Expr.fieldsOfAll es, Loses model m reduced r)
      (h : ∀ e ∈ es, hasErrors (build settings model e).2 = false) :
      ∀ e ∈ es, IsRebuilt settings m (callSites settings model e) (build settings model e)
        (build settings reduced e) :=
    fun e he => ih e he (Expr.forall_fieldsOfAll.mp hfields e he) (h e he)
  induction e using Expr.induction_of_children with
  | number spelling =>
    have hsilent : (ofSpelling spelling).2 = [] ∧
        forget m (ofSpelling spelling).1 = (ofSpelling spelling).1 := by
      rw [build, ofSpelling] at h
      rw [ofSpelling]
      split at h
      · exact ⟨rfl, rfl⟩
      · cases h
    rw [build, build]
    exact isRebuilt_of_no_calls hsilent.2.symm (by rw [hsilent.1]; rfl) (by rw [hsilent.1]; rfl)
  | string value => exact isRebuilt_of_no_calls rfl rfl rfl
  | boolean value => exact isRebuilt_of_no_calls rfl rfl rfl
  | null => exact isRebuilt_of_no_calls rfl rfl rfl
  | field reference =>
    rw [build] at h
    rw [build, build]
    have hsame := ofField_forget hdimensions (hfields reference (List.mem_singleton_self _)) h
    exact isRebuilt_of_no_calls hsame.1 hsame.2 h
  | call e name hname ih =>
    rw [build_eq_buildCall hname] at h
    rw [Expr.fields_of_callName hname] at hfields
    obtain ⟨hchildren, hcall⟩ := hasErrors_buildCall.mp h
    rw [build_eq_buildCall hname, build_eq_buildCall hname, calledItem_congr hbackend,
      callSites_of_callName hname]
    exact isRebuilt_buildCall (hall ih hfields hchildren) hcall
  | list items ih =>
    rw [build_list] at h
    have hitems := hall ih hfields ((hasErrors_buildAll items).mp h)
    rw [build_list, build_list, callSites]
    refine ⟨hasErrors_others_buildAll hitems, fun hfits => ?_, others_buildAll hitems⟩
    rw [Node.forget_list, ← map_build_forget hitems hfits]

end Construction

end OlapFormula
