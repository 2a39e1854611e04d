import OlapFormula.Proofs.Checks.Silent
import OlapFormula.Proofs.Checks.Surface
import OlapFormula.Proofs.Node.Forgetting

/-!
# Checks without a measure

A call that passes is checked again with one of the measures forgotten. Only the types of the arguments have
changed, so what is left to check is whether the item takes the new ones.
-/

namespace OlapFormula

open Node (forget)

/-- The first of the types is that of a measure, as far as it is known. `RESTRICT` looks at the reference
instead. -/
def FunctionKind.TakesMeasure (kind : FunctionKind) (types : List DataType) : Prop :=
  kind ≠ .restrict → ∀ type ∈ types.head?, type = .measure ∨ type = .unknown

/-- Everything that the checks ask of the types of arguments. -/
structure FunctionItem.FitsTypes (flags : FeatureFlags) (item : FunctionItem) (types : List DataType) :
    Prop where
  strings : item.strings = .allowed ∨ flags.stringArguments = true ∨ ∀ type ∈ types, type.isString = false
  accepts : item.AcceptsTypes flags types
  mixed : ∀ a b, types = [a, b] → (a = .listOfMixed ↔ b = .listOfMixed)
  measure : item.category = .olap → item.kind.TakesMeasure types
  alike : item.AreAlike flags types

variable (m : Measure)

namespace Checks

lemma measureArgument_restrict_forget {node : Node}
    (h : Message.hasErrors (measureArgument .restrict node) = false) :
    measureArgument .restrict (forget m node) = measureArgument .restrict node := by
  have hunknown {node : Node} (hunknown : node.type = .unknown) : measureArgument .restrict node = [] := by
    unfold measureArgument
    split
    · rfl
    · rw [hunknown]
      rfl
    · next hkind _ => exact absurd rfl hkind
  by_cases hknown : node.type = .unknown
  · rw [hunknown hknown, hunknown (Node.type_forget_eq_unknown m hknown)]
  · obtain ⟨ref, rfl⟩ := exists_measure h hknown
    rfl

/-- Functions but `RESTRICT` ask for the type of a measure. -/
lemma hasErrors_measureArgument {kind : FunctionKind} (hkind : kind ≠ .restrict) {node : Node} :
    Message.hasErrors (measureArgument kind node) = false ↔
      node.type = .measure ∨ node.type = .unknown := by
  unfold measureArgument
  split
  · exact absurd rfl hkind
  · exact absurd rfl hkind
  · split
    · next hmeasure => exact iff_of_true rfl (by simpa using hmeasure)
    · next hmeasure =>
      exact iff_of_false (by simp [Message.hasErrors, Message.isError, MessageCode.severity])
        (by simpa using hmeasure)

lemma measureArgument_eq_nil {kind : FunctionKind} {node : Node}
    (h : Message.hasErrors (measureArgument kind node) = false) : measureArgument kind node = [] := by
  refine Message.eq_nil_of_hasErrors (fun message hmessage => ?_) h
  unfold measureArgument at hmessage
  split at hmessage
  · cases hmessage
  · split at hmessage
    · cases hmessage
    · rw [List.mem_singleton.mp hmessage]
      rfl
  · split at hmessage
    · cases hmessage
    · rw [List.mem_singleton.mp hmessage]
      rfl

/-- What selects something is of a known type, so it does not matter that types are looked at. -/
lemma selectionsOf_eq (nodes : List Node) : selectionsOf nodes = nodes.flatMap Selection.flatten := by
  induction nodes with
  | nil => rfl
  | cons node nodes ih =>
    by_cases hknown : node.type = .unknown
    · have hempty : Selection.flatten node = [] := by
        by_contra hselects
        exact (Selection.type_of_flatten hselects).1 hknown
      rw [selectionsOf, List.filter_cons_of_neg (by simp [hknown]), ← selectionsOf, ih, List.flatMap_cons,
        hempty, List.nil_append]
    · rw [selectionsOf, List.filter_cons_of_pos (by simp [hknown]), List.flatMap_cons, ← selectionsOf, ih,
        List.flatMap_cons]

lemma filters_forget {nodes : List Node} (h : Message.hasErrors (filters nodes) = false) :
    filters (nodes.map (forget m)) = filters nodes := by
  have hselections : selectionsOf (nodes.map (forget m)) = selectionsOf nodes := by
    simp only [selectionsOf_eq, List.flatMap_map, Node.flatten_forget]
  have hshape {node : Node} (h : node.type = .unknown ∨ Selection.flatten node ≠ []) :
      filterShape node = [] := by
    unfold filterShape
    rw [if_pos]
    simpa using h
  have hpasses (node : Node) (hnode : node ∈ nodes) :
      node.type = .unknown ∨ Selection.flatten node ≠ [] :=
    or_iff_not_imp_left.mpr (flatten_ne_nil h hnode)
  have hbefore : nodes.flatMap filterShape = [] :=
    List.flatMap_eq_nil_iff.mpr fun node hnode => hshape (hpasses node hnode)
  have hafter : (nodes.map (forget m)).flatMap filterShape = [] := by
    refine List.flatMap_eq_nil_iff.mpr (List.forall_mem_map.mpr fun node hnode => hshape ?_)
    rw [Node.flatten_forget]
    exact (hpasses node hnode).imp_left (Node.type_forget_eq_unknown m)
  unfold filters
  rw [hselections, hbefore, hafter]

lemma map_forget_of_dimensionIds? {nodes : List Node} (h : (Rewriting.dimensionIds? nodes).isSome) :
    nodes.map (forget m) = nodes := by
  induction nodes with
  | nil => rfl
  | cons node nodes ih =>
    cases node with
    | dimension ref =>
      rw [Rewriting.dimensionIds?, Option.isSome_map] at h
      rw [List.map_cons, ih h, Node.forget_dimension]
    | const _ | constList _ | measure _ | array _ | call _ _ | restricted _ => cases h

lemma axes_forget {kind : FunctionKind} {nodes : List Node} (h : Message.hasErrors (axes kind nodes) = false) :
    nodes.map (forget m) = nodes := by
  rw [axes, Message.hasErrors_append, Bool.or_eq_false_iff] at h
  exact map_forget_of_dimensionIds? m (isSome_dimensionIds? h.1)

/-- What is said about the arguments after the measure. -/
def membersAfter (kind : FunctionKind) (rest : List Node) : List Message :=
  match kind with
  | .restrict => filters rest
  | .subtotal | .percentOfSubtotal => axes kind rest
  | _ => []

lemma members_cons (kind : FunctionKind) (measure : Node) (rest : List Node) :
    members kind (measure :: rest) = measureArgument kind measure ++ membersAfter kind rest := rfl

lemma membersAfter_forget {kind : FunctionKind} {rest : List Node}
    (h : Message.hasErrors (membersAfter kind rest) = false) :
    membersAfter kind (rest.map (forget m)) = membersAfter kind rest := by
  cases kind with
  | restrict => exact filters_forget m h
  | subtotal | percentOfSubtotal => rw [axes_forget m h]
  | _ => rfl

/-- Only the measure itself can be found fault with. -/
lemma members_forget {kind : FunctionKind} {args : List Node}
    (h : Message.hasErrors (members kind args) = false) :
    (Message.hasErrors (members kind (args.map (forget m))) = false ↔
      kind.TakesMeasure ((args.map (forget m)).map Node.type)) ∧
    (kind.TakesMeasure ((args.map (forget m)).map Node.type) →
      members kind (args.map (forget m)) = members kind args) := by
  cases args with
  | nil => exact ⟨iff_of_true rfl (fun _ _ hnone => nomatch hnone), fun _ => rfl⟩
  | cons measure rest =>
    rw [members_cons, Message.hasErrors_append, Bool.or_eq_false_iff] at h
    rw [List.map_cons, members_cons, members_cons, membersAfter_forget m h.2, Message.hasErrors_append, h.2,
      Bool.or_false]
    by_cases hkind : kind = .restrict
    · subst hkind
      rw [measureArgument_restrict_forget m h.1]
      exact ⟨iff_of_true h.1 fun hother => absurd rfl hother, fun _ => rfl⟩
    · have htakes : kind.TakesMeasure ((forget m measure :: rest.map (forget m)).map Node.type) ↔
          Message.hasErrors (measureArgument kind (forget m measure)) = false := by
        rw [hasErrors_measureArgument hkind]
        simp [FunctionKind.TakesMeasure, hkind]
      refine ⟨htakes.symm, fun hfits => ?_⟩
      rw [measureArgument_eq_nil (htakes.mp hfits), measureArgument_eq_nil h.1]

@[simp] lemma constantNumber?_forget (node : Node) :
    (forget m node).constantNumber? = node.constantNumber? := by
  induction node using Node.induction with
  | const _ | constList _ | dimension _ | measure _ | restricted _ | array _ _ => simp [Node.constantNumber?]
  | call kind args ih =>
    rw [Node.forget_call]
    cases kind with
    | float =>
      cases args with
      | nil => rfl
      | cons arg args => exact ih arg (List.mem_cons_self ..)
    | _ => simp [Node.constantNumber?]

lemma constants_forget {kind : FunctionKind} {args : List Node}
    (h : Message.hasErrors (constants kind args) = false) :
    constants kind (args.map (forget m)) = constants kind args := by
  cases kind with
  | divide | mod =>
    match args with
    | [] | [_] | _ :: _ :: _ :: _ => rfl
    | [_, _] => simp [constants, divisor]
  | power =>
    match args with
    | [] | [_] | _ :: _ :: _ :: _ => rfl
    | [_, _] => simp [constants, power]
  | sqrt =>
    match args with
    | [] | _ :: _ :: _ => rfl
    | [_] => simp [constants, squareRoot]
  | log | log10 =>
    match args with
    | [] | _ :: _ :: _ => rfl
    | [_] => simp [constants, logarithm]
  | dateDiffHana =>
    match args with
    | [] | [_] | [_, _] | _ :: _ :: _ :: _ :: _ => rfl
    | [_, _, unit] =>
      have hunit : Message.hasErrors (granularity unit) = false := h
      obtain ⟨text, known, rfl, -⟩ := exists_granularity hunit
      rfl
  | _ => rfl

end Checks

namespace Construction

variable {settings : Settings} {name : String} {item : FunctionItem} {args : List Node}

/-- What is said about the item stays the same if there still is a measure where there has to be one. -/
lemma itemMessages_forget (h : Passes settings name item args) :
    (Message.hasErrors (Check.itemMessages item (args.map (forget m))) = false ↔
      (item.category = .olap → item.kind.TakesMeasure ((args.map (forget m)).map Node.type))) ∧
    ((item.category = .olap → item.kind.TakesMeasure ((args.map (forget m)).map Node.type)) →
      Check.itemMessages item (args.map (forget m)) = Check.itemMessages item args) := by
  have hitem := h.hasErrors_itemMessages
  unfold Check.itemMessages at hitem ⊢
  cases hcategory : item.category with
  | olap =>
    rw [hcategory] at hitem
    obtain ⟨hiff, hsame⟩ := Checks.members_forget m hitem
    exact ⟨hiff.trans (by simp), fun htakes => hsame (htakes rfl)⟩
  | operator | logical | math | text | date =>
    rw [hcategory] at hitem
    have hsame := Checks.constants_forget m hitem
    exact ⟨iff_of_true (hsame ▸ hitem) nofun, fun _ => hsame⟩

/-- A call that passes still passes exactly if the item takes the new types. -/
theorem passes_forget_iff (h : Passes settings name item args) :
    Passes settings name item (args.map (forget m)) ↔
      item.FitsTypes settings.flags ((args.map (forget m)).map Node.type) := by
  have hbefore := passes_iff.mp h
  have hdimensions : (args.map (forget m)).filterMap Node.dimension? = args.filterMap Node.dimension? := by
    simp only [List.filterMap_map, Function.comp_def, Node.dimension?_forget]
  rw [passes_iff]
  constructor
  · intro hafter
    have hstrings := Checks.hasErrors_stringUsage.mp (hafter .stringUsage)
    exact
      { strings := hstrings.imp_right (Or.imp_right List.forall_mem_map.mpr)
        accepts := Checks.hasErrors_argumentTypes.mp (hafter .argumentTypes)
        mixed := Checks.hasErrors_mixedList.mp (hafter .mixedList)
        measure := (itemMessages_forget m h).1.mp (hafter .item)
        alike := Checks.hasErrors_sameType.mp (hafter .sameType) }
  · intro hfits check
    cases check with
    | knownFunction => rfl
    | arity =>
      have harity := hbefore .arity
      rw [Check.messages, Checks.arity, CallSite.withItem] at harity ⊢
      rwa [List.length_map]
    | stringUsage =>
      exact Checks.hasErrors_stringUsage.mpr
        (hfits.strings.imp_right (Or.imp_right List.forall_mem_map.mp))
    | dimensionUsage =>
      have husage := hbefore .dimensionUsage
      rw [Check.messages, Checks.hasErrors_dimensionUsage] at husage ⊢
      rwa [hdimensions]
    | argumentTypes => exact Checks.hasErrors_argumentTypes.mpr hfits.accepts
    | mixedList => exact Checks.hasErrors_mixedList.mpr hfits.mixed
    | item => exact (itemMessages_forget m h).1.mpr hfits.measure
    | sameType => exact Checks.hasErrors_sameType.mpr hfits.alike

end Construction

end OlapFormula
