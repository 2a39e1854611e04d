import OlapFormula.Proofs.Checks.SameType
import OlapFormula.Proofs.Construction.Invariant

/-!
# Calls that pass the checks

A call passes if none of the checks finds an error in it. What each check asks for is said here for the
calls of which the formula of a restricted measure consists.
-/

namespace OlapFormula

namespace Check

variable {flags : FeatureFlags} {call : CallSite}

lemma run_continue {checks : List Check} {messages : List Message}
    (h : run flags call checks = (messages, .continue)) :
    messages = checks.flatMap fun check => check.messages flags call := by
  induction checks generalizing messages with
  | nil =>
    cases h
    rfl
  | cons check checks ih =>
    unfold run at h
    dsimp only at h
    split at h
    · cases h
    · cases hrest : run flags call checks with
      | mk more flow =>
        rw [hrest] at h
        obtain ⟨rfl, rfl⟩ := Prod.mk.inj h
        rw [List.flatMap_cons, ← ih hrest]

lemma run_of_not_halts {checks : List Check}
    (h : ∀ check ∈ checks, check.halts (check.messages flags call) = false) :
    run flags call checks = (checks.flatMap fun check => check.messages flags call, .continue) := by
  induction checks with
  | nil => rfl
  | cons check checks ih =>
    obtain ⟨hfirst, hrest⟩ := List.forall_mem_cons.mp h
    simp [run, hfirst, ih hrest]

lemma isError_countMessage (item : FunctionItem) (count : Nat) :
    (Checks.countMessage item count).isError = true := by
  unfold Checks.countMessage
  dsimp only
  split
  · rfl
  · split <;> rfl

lemma not_halts_of_hasErrors {name : String} {item : FunctionItem} {args : List Node} {check : Check}
    (h : Message.hasErrors (check.messages flags ⟨name, .ok item, args⟩) = false) :
    check.halts (check.messages flags ⟨name, .ok item, args⟩) = false := by
  cases check with
  | knownFunction => rfl
  | arity =>
    unfold messages Checks.arity CallSite.withItem at h ⊢
    dsimp only at h ⊢
    split
    · rfl
    · next hcount =>
      rw [if_neg hcount] at h
      simp [Message.hasErrors, isError_countMessage] at h
  | stringUsage | dimensionUsage | argumentTypes | mixedList | item | sameType => rfl

lemma run_of_hasErrors {name : String} {item : FunctionItem} {args : List Node} {checks : List Check}
    (h : Message.hasErrors (run flags ⟨name, .ok item, args⟩ checks).1 = false) :
    (run flags ⟨name, .ok item, args⟩ checks).2 = .continue := by
  induction checks with
  | nil => rfl
  | cons check checks ih =>
    unfold run at h ⊢
    dsimp only at h ⊢
    split at h
    · next hhalts =>
      exact absurd hhalts (by simp [not_halts_of_hasErrors h])
    · next hhalts =>
      rw [if_neg hhalts]
      rw [Message.hasErrors_append, Bool.or_eq_false_iff] at h
      exact ih h.2

end Check

namespace Construction

variable {settings : Settings} {model : Model} {name : String} {item : FunctionItem} {args : List Node}

lemma Resolves.mem_variants (h : Resolves settings model name item) : item ∈ Catalog.variants name := by
  rcases h with h | h
  · exact Catalog.mem_variants_of_lookup h
  · exact Catalog.mem_variants_of_lookup h

lemma Resolves.mem_items (h : Resolves settings model name item) : item ∈ Catalog.items :=
  List.mem_of_mem_filter h.mem_variants

theorem passes_iff : Passes settings name item args ↔ ∀ check : Check,
    Message.hasErrors (check.messages settings.flags ⟨name, .ok item, args⟩) = false := by
  constructor
  · rintro ⟨messages, hrun, herrors⟩ check
    rw [Check.run_continue hrun, Message.hasErrors_flatMap] at herrors
    exact herrors check (by cases check <;> decide)
  · intro h
    refine ⟨_, Check.run_of_not_halts fun check _ => Check.not_halts_of_hasErrors (h check), ?_⟩
    rw [Message.hasErrors_flatMap]
    exact fun check _ => h check

lemma Passes.accepts (h : Passes settings name item args) :
    item.arity.accepts args.length = true := by
  by_contra haccepts
  have harity := passes_iff.mp h .arity
  simp [Check.messages, Checks.arity, CallSite.withItem, haccepts, Message.hasErrors,
    Check.isError_countMessage] at harity

lemma ofCall_node (h : Passes settings name item (item.kind.prepare args)) :
    (ofCall settings name (.ok item) args).1 =
      (Node.call item.kind (item.kind.prepare args)).lowerRoot settings.dateOrder := by
  obtain ⟨messages, hrun, herrors⟩ := h
  simp [ofCall, hrun, herrors]

lemma passes_of_hasErrors
    (h : Message.hasErrors (Check.run settings.flags ⟨name, .ok item, args⟩ Check.all).1 = false) :
    Passes settings name item args :=
  ⟨_, Prod.ext rfl (Check.run_of_hasErrors h), h⟩

lemma ofCall_messages : (ofCall settings name (.ok item) args).2 =
    (Check.run settings.flags ⟨name, .ok item, item.kind.prepare args⟩ Check.all).1 := by
  unfold ofCall
  dsimp only
  generalize Check.run settings.flags ⟨name, .ok item, item.kind.prepare args⟩ Check.all = found
  obtain ⟨messages, flow⟩ := found
  cases flow <;> rfl

/-- The calls that pass are those that nothing is wrong with. -/
lemma hasErrors_ofCall_iff : Message.hasErrors (ofCall settings name (.ok item) args).2 = false ↔
    Passes settings name item (item.kind.prepare args) := by
  rw [ofCall_messages]
  constructor
  · exact passes_of_hasErrors
  · rintro ⟨messages, hrun, herrors⟩
    rw [hrun]
    exact herrors

/-- There is something wrong with a name that stands for nothing. -/
lemma exists_item_of_hasErrors {item : Except Catalog.Unavailable FunctionItem}
    (h : Message.hasErrors (ofCall settings name item args).2 = false) :
    ∃ found, item = .ok found := by
  cases item with
  | error reason => cases h
  | ok found => exact ⟨found, rfl⟩

lemma accepts_ofElements (flags : FeatureFlags) (types : List DataType) :
    flags.accepts .list (DataType.ofElements types) = true := by
  have hlist : (DataType.ofElements types).isSubtypeOf .list = true := by
    unfold DataType.ofElements
    dsimp only
    split_ifs <;> rfl
  simp [FeatureFlags.accepts, hlist]

lemma passes_negate (settings : Settings) (name : String) (value : Decimal) :
    Passes settings name (Catalog.itemOf .negate) [.number value] := by
  rw [passes_iff]
  intro check
  cases check <;> rfl

section

variable {ref : DimensionRef} {dimension : Dimension} (hresolved : ref.dimension = some dimension)

include hresolved

lemma type_of_resolved :
    ref.type = .dimension ∨ ref.type = .dateDimension ∨ ref.type = .dimensionAttribute := by
  unfold DimensionRef.type
  rw [hresolved]
  dsimp only
  split
  · exact Or.inr (Or.inr rfl)
  · unfold Dimension.dataType
    split
    · exact Or.inr (Or.inl rfl)
    · exact Or.inl rfl

/-- A dimension is compared with a constant of a type that goes with it. -/
lemma passes_equal_iff {value : Literal} (hvalue : value ≠ .null) :
    Passes settings name (Catalog.itemOf .equal) [.dimension ref, .const value] ↔
      settings.flags.areCompatible ref.type value.type = true := by
  have htype := type_of_resolved hresolved
  have hknown : (ref.type == .unknown || value.type == .unknown) = false := by
    rcases htype with h | h | h <;> cases value <;> simp_all [Literal.type]
  have hmixed : ((ref.type == .listOfMixed) != (value.type == .listOfMixed)) = false := by
    rcases htype with h | h | h <;> cases value <;> simp_all [Literal.type]
  have hsame : Message.hasErrors (Check.messages settings.flags
      ⟨name, .ok (Catalog.itemOf .equal), [.dimension ref, .const value]⟩ .sameType) = false ↔
      settings.flags.areCompatible ref.type value.type = true := by
    rw [Check.messages, Checks.hasErrors_sameType, List.map_cons, List.map_singleton,
      FunctionItem.areAlike_comparison (Catalog.itemOf_mem .equal) rfl]
    simp only [Node.type, FeatureFlags.agree, hknown, Bool.false_or]
  rw [passes_iff]
  refine ⟨fun h => hsame.mp (h .sameType), fun h check => ?_⟩
  cases check with
  | knownFunction | arity | stringUsage | item => rfl
  | dimensionUsage =>
    have hfilter : (Catalog.itemOf .equal).dimensions = .filter := rfl
    simp [Check.messages, Checks.dimensionUsage, CallSite.withItem, Node.dimension?, hfilter,
      Checks.allowsDimensions, Message.hasErrors]
  | argumentTypes => rfl
  | mixedList =>
    simp [Check.messages, Checks.mixedList, Node.type, hmixed, Message.hasErrors]
  | sameType => exact hsame.mpr h

/-- Members of a dimension are listed if there is a type for the list. -/
lemma passes_isIn_iff {values : List Literal} :
    Passes settings name (Catalog.itemOf .isIn) [.dimension ref, .constList values] ↔
      DataType.ofElements (values.map Literal.type) ≠ .listOfMixed := by
  have htype := type_of_resolved hresolved
  have hmixed : (ref.type == .listOfMixed) = false := by
    rcases htype with h | h | h <;> simp [h]
  rw [passes_iff]
  constructor
  · intro h hlist
    have hmessages := h .mixedList
    simp [Check.messages, Checks.mixedList, Node.type, hmixed, hlist, Message.hasErrors,
      Message.isError, MessageCode.severity] at hmessages
  · intro h check
    cases check with
    | knownFunction | arity | stringUsage | item | sameType => rfl
    | dimensionUsage =>
      have hfilter : (Catalog.itemOf .isIn).dimensions = .filter := rfl
      simp [Check.messages, Checks.dimensionUsage, CallSite.withItem, Node.dimension?, hfilter,
        Checks.allowsDimensions, Message.hasErrors]
    | argumentTypes =>
      have hfirst : (Catalog.itemOf .isIn).contract? 0 = some (Catalog.required [.any]) := rfl
      have hsecond : (Catalog.itemOf .isIn).contract? 1 = some (Catalog.required [.list]) := rfl
      have haccepts : settings.flags.accepts .any ref.type = true := rfl
      simp [Check.messages, Checks.argumentTypes, CallSite.withItem, Checks.mismatches, Node.type,
        hfirst, hsecond, Catalog.required, haccepts, accepts_ofElements, Checks.mismatchMessages,
        Message.hasErrors]
    | mixedList =>
      simp [Check.messages, Checks.mixedList, Node.type, hmixed, h, Message.hasErrors]

end

end Construction

end OlapFormula
