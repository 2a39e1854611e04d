import OlapFormula.Proofs.Checks.Passing
import OlapFormula.Proofs.Compiler.Resolved

/-!
# Accepted formulas are well formed

Only the calls that are written are checked. Those that rewriting and casts add have as many arguments as
their functions take all the same, and what a formula refers to stays known to the model wherever lowering
moves it.
-/

namespace OlapFormula

open Construction

namespace Catalog

lemma accepts_of_isMade {item : FunctionItem} (hitem : item ∈ items) {count : Nat}
    (h : Node.IsMade item.kind count) : item.arity.accepts count = true := by
  have hall : ∀ item ∈ items, (Node.madeCount item.kind).all item.arity.accepts = true := by
    decide +kernel
  have haccepts := hall item hitem
  rw [show Node.madeCount item.kind = some count from h] at haccepts
  exact haccepts

lemma accepts_comparison {item : FunctionItem} (hitem : item ∈ items)
    (hkind : item.kind.isComparison = true) : item.arity.accepts 2 = true := by
  obtain ⟨-, harity⟩ := contracts_of_isComparison hitem hkind
  rw [harity]
  rfl

end Catalog

namespace Node

/-- A call has a number of arguments that its function takes. -/
def HasArity : Node → Prop
  | .call kind args => ∀ item ∈ Catalog.items, item.kind = kind → item.arity.accepts args.length = true
  | _ => True

/-- The references in the leaf are known to the model. -/
def IsKnown (model : Model) : Node → Prop
  | .dimension ref => ref.IsKnown model
  | .measure ref => ref.IsKnown model
  | .restricted derived =>
    derived.base.IsKnown model ∧ ∀ filter ∈ derived.filters, filter.dimension.IsKnown model
  | _ => True

structure IsWellFormed (model : Model) (node : Node) : Prop where
  arity : node.HasArity
  known : node.IsKnown model

lemma IsResolved.isKnown {R : FieldReference → Prop} {model : Model} {node : Node}
    (h : node.IsResolved R model) : node.IsKnown model := by
  cases node with
  | dimension ref => exact h.2.isKnown
  | measure ref => exact h.2.isKnown
  | restricted derived => exact ⟨h.1.2.isKnown, fun filter hfilter => (h.2 filter hfilter).2.isKnown⟩
  | const _ | constList _ | call _ _ | array _ => exact trivial

lemma isKept_hasArity : IsKept HasArity where
  const _ := trivial
  constList _ := trivial
  array _ := trivial
  made hkind _ hitem heq := Catalog.accepts_of_isMade hitem (heq ▸ hkind)
  key _ _ h := h

/-- A cast to a whole number is a number, whether it is computed or not. -/
lemma isNumeric_lowerRoot_int (order : DateOrder) (node : Node) :
    ((Node.call .int [node]).lowerRoot order).type.isNumeric = true := by
  have hmade : IsMade .int [node].length := rfl
  rw [lowerRoot, lowerWithin_of_rewrite? (hmade.isPrimitive order [node]), folded]
  cases hfold : (Node.call .int [node]).fold? order with
  | none => rfl
  | some value =>
    unfold fold? at hfold
    simp only [Option.bind_eq_bind, Option.bind_eq_some_iff, Option.pure_def,
      Option.some.injEq] at hfold
    obtain ⟨values, -, constant, hconstant, rfl⟩ := hfold
    have hnumber : ∃ n, constant = .number n := by
      simp only [Folding.ofConstants, Option.orElse_eq_orElse, Option.orElse_eq_or,
        Option.or_eq_some_iff, Option.map_eq_some_iff] at hconstant
      rcases hconstant with ⟨n, -, rfl⟩ | ⟨-, n, -, rfl⟩
      · exact ⟨n, rfl⟩
      · exact ⟨n, rfl⟩
    obtain ⟨n, rfl⟩ := hnumber
    rfl

end Node

namespace Construction

/-- What is returned as a formula may be a number. -/
lemma type_checkRoot {order : DateOrder} {root : Node}
    (h : Message.hasErrors (checkRoot order root).2 = false) :
    (checkRoot order root).1.type = .unknown ∨ (checkRoot order root).1.type.isNumeric = true := by
  have hcast : (castRoot order root).type.isNumeric = true := by
    unfold castRoot
    dsimp only
    split
    · exact Node.isNumeric_lowerRoot_int order root
    · rfl
  unfold checkRoot at h ⊢
  dsimp only at h ⊢
  split
  · next htype => simpa using htype
  · next hnumeric =>
    rw [if_neg hnumeric] at h
    split
    · exact Or.inr hcast
    · next hboolean =>
      rw [if_neg hboolean] at h
      split at h
      · simp [Message.hasErrors, Message.isError, MessageCode.severity] at h
      · simp [Message.hasErrors, Message.isError, MessageCode.severity] at h

lemma isEstablished_hasArity (settings : Settings) (model : Model) :
    IsEstablished settings model (fun _ => True) (fun _ => True) Node.HasArity where
  kept := Node.isKept_hasArity
  field reference _ _ := by
    rcases ofField_node model reference with hnode | ⟨dimension, hnode⟩
    · rw [hnode]
      exact trivial
    · rw [hnode]
      exact trivial
  call name item args hresolves _ hpasses := by
    intro other hother hkind
    obtain ⟨-, harity⟩ := Catalog.contracts_of_kind_eq hother hresolves.mem_items hkind
    rw [harity]
    exact hpasses.accepts
  compares name item args comparison _ _ _ hcompares := by
    obtain ⟨_, _, _, _, -, -, -, ⟨-, rfl⟩ | ⟨-, rfl⟩⟩ := hcompares.exists_element
    · exact fun other hother hkind => Catalog.accepts_comparison hother (hkind ▸ rfl)
    · exact fun other hother hkind => Catalog.accepts_comparison hother (hkind ▸ rfl)
  restricted _ _ _ _ _ _ _ _ _ _ := trivial

end Construction

/-- In an accepted formula every call has a number of arguments that its function takes, every reference
is known to the model, and the formula as a whole may be a number. -/
theorem Compiler.root_isWellFormed {compiler : Compiler} {editing : Option String} {text : String}
    {compiled : CompiledFormula} (h : compiler.compile editing text = .ok compiled) :
    (∀ node ∈ compiled.root.preorder, node.IsWellFormed compiler.model) ∧
      (compiled.type = .unknown ∨ compiled.type.isNumeric = true) := by
  have harity := everywhere_root_of_established
    (isEstablished_hasArity compiler.settings compiler.model) (fun _ _ _ _ => trivial)
    (fun _ _ _ _ => trivial) h
  have hresolved := everywhere_root
    (isInherited_isResolved compiler.settings compiler.model fun _ => True)
    (fun _ _ _ _ => trivial) h
  refine ⟨fun node hnode => ⟨harity node hnode, (hresolved node hnode).isKnown⟩, ?_⟩
  obtain ⟨e, -, -, hmessages, hroot⟩ := exists_build h
  rw [CompiledFormula.type, hroot]
  exact type_checkRoot hmessages

/-- A formula with a rewritten membership, a cast quotient and a root that is no number until it is cast. -/
theorem Compiler.root_isWellFormed_of_cast :
    let compiler : Compiler :=
      { model := .ofMembers .hana [{ id := "City", properties := ["Zip"] }] [{ id := "Sales" }] }
    let text := "RESTRICT([Sales], [d/City].[p/Zip] IN \x7b\"1\", \"2\"\x7d) / 2 > 1"
    ∃ compiled, compiler.compile none text = .ok compiled ∧
      (∀ node ∈ compiled.root.preorder, node.IsWellFormed compiler.model) ∧
      (compiled.type = .unknown ∨ compiled.type.isNumeric = true) := by
  intro compiler text
  obtain ⟨compiled, hcompiled⟩ := exists_compiled
    (show (compiler.compile none text).isOk = true by decide +kernel)
  exact ⟨compiled, hcompiled, root_isWellFormed hcompiled⟩

end OlapFormula
