import OlapFormula.Proofs.Checks.Restrict

/-!
# When checks are silent

Only the check of an item has things to say that are no errors. For each of the others it is said here what
it asks of a call, and that it is silent if it gets that.
-/

namespace OlapFormula

namespace Message

lemma eq_nil_of_hasErrors {messages : List Message} (hall : ∀ message ∈ messages, message.isError = true)
    (h : hasErrors messages = false) : messages = [] := by
  cases messages with
  | nil => rfl
  | cons first rest =>
    rw [hasErrors, List.any_cons, hall first (List.mem_cons_self ..)] at h
    cases h

end Message

/-- The item takes an argument of each type in its place. -/
def FunctionItem.AcceptsTypes (flags : FeatureFlags) (item : FunctionItem) (types : List DataType) :
    Prop :=
  ∀ position contract type, item.contract? position = some contract → types[position]? = some type →
    (contract.types.any fun expected => flags.accepts expected type) = true

namespace Checks

variable {flags : FeatureFlags} {name : String} {item : FunctionItem} {args : List Node}

/-- Strings are accepted everywhere, or where the item is not subject to the flag. -/
theorem hasErrors_stringUsage :
    Message.hasErrors (stringUsage flags ⟨name, .ok item, args⟩) = false ↔
      item.strings = .allowed ∨ flags.stringArguments = true ∨
        ∀ arg ∈ args, arg.type.isString = false := by
  unfold stringUsage CallSite.withItem
  dsimp only
  by_cases hfree : item.strings = .allowed ∨ flags.stringArguments = true
  · rw [if_pos (by simpa using hfree)]
    exact iff_of_true rfl (hfree.imp_right Or.inl)
  · rw [if_neg (by simpa using hfree), hasErrors_eachArgument]
    rw [← or_assoc, or_iff_right hfree]
    constructor
    · intro h arg harg
      obtain ⟨position, hposition⟩ := List.mem_iff_getElem?.mp harg
      have hchecked := h position arg hposition
      by_contra hstring
      rw [if_pos (by simpa using hstring)] at hchecked
      cases hchecked
    · intro h position arg harg
      rw [if_neg (by simp [h arg (List.mem_of_getElem? harg)])]
      rfl

theorem hasErrors_dimensionUsage :
    Message.hasErrors (dimensionUsage flags ⟨name, .ok item, args⟩) = false ↔
      ∀ ref ∈ args.filterMap Node.dimension?, allowsDimensions flags item.dimensions = true ∧
        (ref.isVersion = true → item.dimensions = .filter) := by
  unfold dimensionUsage CallSite.withItem
  dsimp only
  rw [Message.hasErrors_flatMap]
  refine forall₂_congr fun ref _ => ?_
  by_cases hallowed : allowsDimensions flags item.dimensions = true
  · rw [if_neg (by simp [hallowed])]
    by_cases hversion : (ref.isVersion && item.dimensions != .filter) = true
    · rw [if_pos hversion]
      refine iff_of_false (by simp [Message.hasErrors, Message.isError, MessageCode.severity]) ?_
      rintro ⟨-, hfilter⟩
      rw [Bool.and_eq_true, bne_iff_ne] at hversion
      exact hversion.2 (hfilter hversion.1)
    · rw [if_neg hversion]
      refine iff_of_true rfl ⟨hallowed, fun href => ?_⟩
      simpa [href] using hversion
  · rw [if_pos (by simp [hallowed])]
    exact iff_of_false (by simp [Message.hasErrors, Message.isError, MessageCode.severity])
      fun h => hallowed h.1

theorem hasErrors_argumentTypes :
    Message.hasErrors (argumentTypes flags ⟨name, .ok item, args⟩) = false ↔
      item.AcceptsTypes flags (args.map Node.type) := by
  unfold argumentTypes CallSite.withItem
  dsimp only
  rw [hasErrors_mismatchMessages, mismatches, List.flatten_eq_nil_iff]
  simp only [List.mem_mapIdx, FunctionItem.AcceptsTypes]
  constructor
  · intro h position contract type hcontract htype
    obtain ⟨hlt, rfl⟩ := List.getElem?_eq_some_iff.mp htype
    have hfound := h _ ⟨position, hlt, rfl⟩
    rw [hcontract] at hfound
    by_contra hrejected
    dsimp only at hfound
    rw [if_neg hrejected] at hfound
    cases hfound
  · rintro h _ ⟨position, hlt, rfl⟩
    cases hcontract : item.contract? position with
    | none => rfl
    | some contract =>
      exact if_pos (h position contract _ hcontract (List.getElem?_eq_getElem hlt))

/-- Of two arguments either both or none are lists of mixed types. -/
theorem hasErrors_mixedList {call : CallSite} : Message.hasErrors (mixedList call) = false ↔
    ∀ a b, call.args.map Node.type = [a, b] → (a = .listOfMixed ↔ b = .listOfMixed) := by
  unfold mixedList
  split
  · next a b hargs =>
    rw [hargs]
    by_cases hmixed : ((a.type == .listOfMixed) != (b.type == .listOfMixed)) = true
    · rw [if_pos hmixed]
      refine iff_of_false (by simp [Message.hasErrors, Message.isError, MessageCode.severity]) fun h => ?_
      have hsame := h a.type b.type rfl
      rw [bne_iff_ne, ne_eq, Bool.eq_iff_iff, beq_iff_eq, beq_iff_eq] at hmixed
      exact hmixed hsame
    · rw [if_neg hmixed]
      refine iff_of_true rfl fun a' b' hsame => ?_
      cases hsame
      rw [bne_iff_ne, ne_eq, not_not, Bool.eq_iff_iff, beq_iff_eq, beq_iff_eq] at hmixed
      exact hmixed
  · next hargs =>
    refine iff_of_true rfl fun _ _ htypes => ?_
    obtain ⟨a, _, hrest, -, hlast⟩ := List.map_eq_cons_iff.mp htypes
    obtain ⟨b, rfl, -⟩ := List.map_eq_singleton_iff.mp hlast
    exact absurd hrest (hargs a b)

end Checks

namespace Check

variable {flags : FeatureFlags} {name : String} {item : FunctionItem} {args : List Node} {check : Check}

lemma isError_of_mem_messages (hcheck : check ≠ .item) :
    ∀ message ∈ check.messages flags ⟨name, .ok item, args⟩, message.isError = true := by
  cases check with
  | item => exact absurd rfl hcheck
  | knownFunction => exact fun _ h => by cases h
  | arity =>
    simp only [messages, Checks.arity, CallSite.withItem]
    split
    · simp
    · simp [isError_countMessage]
  | stringUsage =>
    simp only [messages, Checks.stringUsage, CallSite.withItem]
    split
    · simp
    · refine Checks.forall_mem_eachArgument fun position arg => ?_
      split <;> simp [Message.isError, MessageCode.severity]
  | dimensionUsage =>
    simp only [messages, Checks.dimensionUsage, CallSite.withItem, List.mem_flatMap]
    rintro message ⟨ref, -, hmessage⟩
    split_ifs at hmessage <;> simp_all [Message.isError, MessageCode.severity]
  | argumentTypes =>
    simp only [messages, Checks.argumentTypes, CallSite.withItem, Checks.mismatchMessages]
    split
    · split <;> simp [Checks.mismatchMessage, Message.isError, MessageCode.severity]
    · simp [Checks.mismatchMessage, Message.isError, MessageCode.severity]
  | mixedList =>
    simp only [messages, Checks.mixedList]
    split
    · split <;> simp [Message.isError, MessageCode.severity]
    · simp
  | sameType =>
    simp only [messages, Checks.sameType, CallSite.withItem]
    refine Checks.forall_mem_eachArgument fun position arg => ?_
    split
    · simp
    · split
      · simp
      · split <;> simp [Message.isError, MessageCode.severity]

/-- Every check but that of the item is silent unless it finds an error. -/
theorem messages_eq_nil (hcheck : check ≠ .item)
    (h : Message.hasErrors (check.messages flags ⟨name, .ok item, args⟩) = false) :
    check.messages flags ⟨name, .ok item, args⟩ = [] :=
  Message.eq_nil_of_hasErrors (isError_of_mem_messages hcheck) h

end Check

namespace Construction

variable {settings : Settings} {name : String} {item : FunctionItem} {args : List Node}

/-- All there is to say about a call that passes comes from its item. -/
theorem Passes.run_eq (h : Passes settings name item args) :
    Check.run settings.flags ⟨name, .ok item, args⟩ Check.all =
      (Check.itemMessages item args, .continue) := by
  have hchecks := passes_iff.mp h
  have hsilent (check : Check) (hcheck : check ≠ .item) :=
    Check.messages_eq_nil hcheck (hchecks check)
  rw [Check.run_of_not_halts fun check _ => Check.not_halts_of_hasErrors (hchecks check)]
  simp only [Check.all, List.flatMap_cons, List.flatMap_nil, hsilent, ne_eq, reduceCtorEq,
    not_false_eq_true, List.nil_append, List.append_nil]
  rfl

lemma ofCall_eq (h : Passes settings name item (item.kind.prepare args)) :
    ofCall settings name (.ok item) args =
      ((Node.call item.kind (item.kind.prepare args)).lowerRoot settings.dateOrder,
        Check.itemMessages item (item.kind.prepare args)) := by
  refine Prod.ext (ofCall_node h) ?_
  simp only [ofCall, h.run_eq]

end Construction

end OlapFormula
