import OlapFormula.Proofs.Function.Catalog

/-!
# Arguments that have to be like others

An item may declare that one argument has to be like another one: the operands of a comparison, and the
branches of `IF`. What that asks of the types is said here for calls in formulas and for nodes.
-/

namespace OlapFormula

/-- The types go together, as far as they are known. -/
def FeatureFlags.agree (flags : FeatureFlags) (a b : DataType) : Bool :=
  a == .unknown || b == .unknown || flags.areCompatible a b

namespace FunctionItem

/-- Types of arguments agree where the item declares one argument to be like another one. -/
def AreAlike (flags : FeatureFlags) (item : FunctionItem) (types : List DataType) : Prop :=
  ∀ position contract other actual expected, item.contract? position = some contract →
    contract.sameTypeAs = some other → types[position]? = some actual →
    types[other]? = some expected → flags.agree expected actual = true

variable {flags : FeatureFlags} {item : FunctionItem}

lemma contract?_mem {position : Nat} {contract : ArgumentContract}
    (h : item.contract? position = some contract) : contract ∈ item.arguments := by
  unfold contract? at h
  split at h
  · next found hfound =>
    obtain rfl := Option.some.inj h
    exact List.mem_of_getElem? hfound
  · split at h
    · exact List.mem_of_getLast? h
    · cases h

/-- Nothing is asked by an item that declares no argument to be like another one. -/
lemma areAlike_of_none (h : ∀ contract ∈ item.arguments, contract.sameTypeAs = none)
    (types : List DataType) : item.AreAlike flags types := by
  intro position contract other actual expected hcontract hother
  rw [h contract (contract?_mem hcontract)] at hother
  cases hother

end FunctionItem

namespace Checks

variable {flags : FeatureFlags} {name : String} {item : FunctionItem} {args : List Node}

lemma forall_mem_eachArgument {P : Message → Prop} {call : CallSite} {check : Nat → Node → List Message}
    (h : ∀ position arg, ∀ message ∈ check position arg, P message) :
    ∀ message ∈ call.eachArgument check, P message := by
  intro message hmessage
  obtain ⟨_, hmem, hmessage⟩ := List.mem_flatten.mp hmessage
  obtain ⟨position, hlt, rfl⟩ := List.mem_mapIdx.mp hmem
  exact h position _ message hmessage

lemma hasErrors_eachArgument {call : CallSite} {check : Nat → Node → List Message} :
    Message.hasErrors (call.eachArgument check) = false ↔
      ∀ position arg, call.args[position]? = some arg →
        Message.hasErrors (check position arg) = false := by
  simp only [CallSite.eachArgument, Message.hasErrors, List.any_eq_false, List.mem_flatten,
    List.mem_mapIdx]
  constructor
  · intro h position arg harg message hmessage
    obtain ⟨hlt, rfl⟩ := List.getElem?_eq_some_iff.mp harg
    exact h message ⟨_, ⟨position, hlt, rfl⟩, hmessage⟩
  · rintro h message ⟨_, ⟨position, hlt, rfl⟩, hmessage⟩
    exact h position _ (List.getElem?_eq_getElem hlt) message hmessage

/-- The check finds an error unless the types are as the item declares. -/
theorem hasErrors_sameType : Message.hasErrors (sameType flags ⟨name, .ok item, args⟩) = false ↔
    item.AreAlike flags (args.map Node.type) := by
  unfold sameType CallSite.withItem
  dsimp only
  rw [hasErrors_eachArgument]
  simp only [FunctionItem.AreAlike, List.getElem?_map, Option.map_eq_some_iff]
  constructor
  · rintro h position contract other _ _ hcontract hother ⟨arg, harg, rfl⟩ ⟨reference, hreference, rfl⟩
    have hdeclared : (item.contract? position).bind (·.sameTypeAs) = some other := by
      rw [hcontract]
      exact hother
    have hchecked := h position arg harg
    rw [hdeclared] at hchecked
    simp only [hreference] at hchecked
    by_contra hdisagree
    rw [FeatureFlags.agree] at hdisagree
    simp [hdisagree, Message.hasErrors, Message.isError, MessageCode.severity] at hchecked
  · intro h position arg harg
    cases hdeclared : (item.contract? position).bind (·.sameTypeAs) with
    | none => rfl
    | some other =>
      obtain ⟨contract, hcontract, hother⟩ := Option.bind_eq_some_iff.mp hdeclared
      dsimp only
      cases hreference : args[other]? with
      | none => rfl
      | some reference =>
        have hagree : flags.agree reference.type arg.type = true :=
          h position contract other _ _ hcontract hother ⟨arg, harg, rfl⟩ ⟨reference, hreference, rfl⟩
        rw [FeatureFlags.agree] at hagree
        simp only [hagree, if_true]
        rfl

end Checks

namespace Catalog

lemma contracts_of_kind_eq {a b : FunctionItem} (ha : a ∈ items) (hb : b ∈ items)
    (hkind : a.kind = b.kind) : a.arguments = b.arguments ∧ a.arity = b.arity := by
  have hall : ∀ item ∈ items,
      item.arguments = (itemOf item.kind).arguments ∧ item.arity = (itemOf item.kind).arity := by decide
  obtain ⟨harguments, harity⟩ := hall a ha
  rw [harguments, harity, hkind]
  exact ⟨(hall b hb).1.symm, (hall b hb).2.symm⟩

lemma contracts_of_isComparison {item : FunctionItem} (hitem : item ∈ items)
    (hkind : item.kind.isComparison = true) :
    item.arguments = [required [.any], { types := [.any], sameTypeAs := some 0 }] ∧
      item.arity = .range 2 (some 0) := by
  obtain ⟨harguments, harity⟩ :=
    contracts_of_kind_eq hitem (itemOf_mem item.kind) (kind_itemOf item.kind).symm
  rw [harguments, harity]
  revert hkind
  cases item.kind <;> intro hkind <;> first | exact ⟨rfl, rfl⟩ | cases hkind

end Catalog

namespace FunctionItem

variable {flags : FeatureFlags} {item : FunctionItem}

/-- Items of one kind ask for the same. -/
lemma AreAlike.of_kind_eq {other : FunctionItem} (hitem : item ∈ Catalog.items)
    (hother : other ∈ Catalog.items) (hkind : item.kind = other.kind) {types : List DataType}
    (h : item.AreAlike flags types) : other.AreAlike flags types := by
  obtain ⟨harguments, harity⟩ := Catalog.contracts_of_kind_eq hitem hother hkind
  have hcontract (position : Nat) : other.contract? position = item.contract? position := by
    rw [contract?, contract?, harguments, harity]
  intro position contract
  rw [hcontract]
  exact h position contract

lemma areAlike_comparison (hitem : item ∈ Catalog.items) (hkind : item.kind.isComparison = true)
    {a b : DataType} : item.AreAlike flags [a, b] ↔ flags.agree a b = true := by
  obtain ⟨harguments, harity⟩ := Catalog.contracts_of_isComparison hitem hkind
  constructor
  · intro h
    refine h 1 { types := [.any], sameTypeAs := some 0 } 0 b a ?_ rfl rfl rfl
    rw [contract?, harguments]
    rfl
  · intro h position contract other actual expected hcontract hother hactual hexpected
    match position with
    | 0 =>
      rw [contract?, harguments] at hcontract
      cases hcontract
      cases hother
    | 1 =>
      rw [contract?, harguments] at hcontract
      cases hcontract
      cases hother
      cases hactual
      cases hexpected
      exact h
    | position + 2 => simp at hactual

end FunctionItem

namespace Node

variable {flags : FeatureFlags}

/-- The arguments of a call agree where its function declares one to be like another one. -/
def IsSameTyped (flags : FeatureFlags) : Node → Prop
  | .call kind args =>
    ∀ item ∈ Catalog.items, item.kind = kind → item.AreAlike flags (args.map type)
  | _ => True

lemma isSameTyped_comparison {kind : FunctionKind} (hkind : kind.isComparison = true) {a b : Node} :
    IsSameTyped flags (.call kind [a, b]) ↔ flags.agree a.type b.type = true := by
  constructor
  · intro h
    have hitem := Catalog.kind_itemOf kind
    have hcomparison : (Catalog.itemOf kind).kind.isComparison = true := by rwa [hitem]
    exact (FunctionItem.areAlike_comparison (Catalog.itemOf_mem kind) hcomparison).mp
      (h _ (Catalog.itemOf_mem kind) hitem)
  · rintro h item hitem rfl
    exact (FunctionItem.areAlike_comparison hitem hkind).mpr h

end Node

end OlapFormula
