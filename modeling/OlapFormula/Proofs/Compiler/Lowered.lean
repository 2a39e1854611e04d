import OlapFormula.Proofs.Checks.Surface
import OlapFormula.Proofs.Compiler.Derived
import OlapFormula.Proofs.Construction.CallSites
import OlapFormula.Proofs.Restriction.Selected

/-!
# Surface calls in accepted formulas

Whatever is left of surface calls in the root of an accepted formula was written there and has passed its
checks, so it is a call of `RESTRICT` with a part of unknown type.
-/

namespace OlapFormula

open Construction Node

namespace CallSite

/-- A call of `RESTRICT` with a part of unknown type. -/
def IsVague (call : CallSite) : Prop :=
  (∃ item, call.item = .ok item ∧ item.kind = .restrict) ∧
    RestrictedMeasure.hasUnknownPart call.args = true

end CallSite

namespace Node

/-- The node is one of the calls as it was checked. -/
def IsCallOf (calls : List CallSite) : Node → Prop
  | .call kind args => ∃ call ∈ calls, ∃ item, call.item = .ok item ∧ item.kind = kind ∧ call.args = args
  | _ => False

lemma not_isSurface {kind : FunctionKind} (hsurface : kind.isSurface = false)
    (hmembership : kind.isMembership = false) (args : List Node) : ¬ (Node.call kind args).IsSurface := by
  simp [IsSurface, hsurface, hmembership]

lemma not_isSurface_of_isMade {kind : FunctionKind} {args : List Node} (h : IsMade kind args.length) :
    ¬ (Node.call kind args).IsSurface := by
  apply not_isSurface
  · cases kind <;> first | rfl | cases h
  · cases kind <;> first | rfl | cases h

lemma not_isSurface_comparison {kind : FunctionKind} (hkind : kind.isComparison) (args : List Node) :
    ¬ (Node.call kind args).IsSurface := by
  apply not_isSurface
  · cases kind <;> first | rfl | cases hkind
  · cases kind <;> first | rfl | cases hkind

lemma isKept_isSurface_imp (calls : List CallSite) :
    IsKept fun node => node.IsSurface → node.IsCallOf calls where
  const _ h := h.elim
  constList _ h := h.elim
  array _ h := h.elim
  made hkind h := (not_isSurface_of_isMade hkind h).elim
  key _ hkind _ h := (not_isSurface_comparison hkind _ h).elim

end Node

namespace Construction

variable {settings : Settings} {model : Model}

/-- Surface calls are not made while a formula is lowered, so those that there are were written. -/
lemma invariant_isSurface_imp (settings : Settings) (model : Model) (calls : List CallSite) :
    Invariant settings model (fun _ => True) (· ∈ calls)
      (IsSettledWith settings.dateOrder fun node => node.IsSurface → node.IsCallOf calls) where
  const value := ⟨isNormal_const value, (isKept_isSurface_imp calls).everywhere_const value⟩
  field reference _ hmessages := by
    refine ⟨(invariant_isNormal settings model).field reference trivial hmessages, everywhere_ofField ?_⟩
    rcases ofField_node model reference with hnode | ⟨dimension, hnode⟩
    · rw [hnode]
      exact False.elim
    · rw [hnode]
      exact False.elim
  list items hitems :=
    ⟨isNormal_list fun item hitem => (hitems item hitem).normal,
      (isKept_isSurface_imp calls).everywhere_list fun item hitem => (hitems item hitem).everywhere⟩
  call name item args _ hcall hargs _ := by
    have hkept := isKept_isSurface_imp calls
    refine hkept.isSettledWith_lowerRoot (hkept.isSettledWith_prepare item.kind hargs) ?_ ?_ ?_
    · exact fun _ => ⟨_, hcall, item, rfl, rfl, rfl⟩
    · intro comparison hcompares hsurface
      obtain ⟨_, _, _, _, -, -, -, ⟨-, rfl⟩ | ⟨-, rfl⟩⟩ := hcompares.exists_element
      · exact (not_isSurface_comparison rfl _ hsurface).elim
      · exact (not_isSurface_comparison rfl _ hsurface).elim
    · exact fun _ _ _ _ _ _ => False.elim

end Construction

namespace Compiler

/-- Lowering leaves no surface call in an accepted formula but the calls of `RESTRICT` that have a part of
unknown type; every other call of `RESTRICT` becomes a restricted measure, and each restricted measure in
the root has a derived measure. -/
theorem root_isLowered {compiler : Compiler} {editing : Option String} {text : String}
    {compiled : CompiledFormula} (h : compiler.compile editing text = .ok compiled) :
    ∃ e, Expr.parse compiler.settings.limits text = .ok e ∧
      (∀ node ∈ compiled.root.preorder, node.IsSurface →
        ∃ call ∈ callSites compiler.settings compiler.model e,
          call.IsVague ∧ node = .call .restrict call.args) ∧
      (∀ call ∈ callSites compiler.settings compiler.model e,
        (∃ item, call.item = .ok item ∧ item.kind = .restrict) →
          (call.IsVague ∧ (Node.call .restrict call.args).lowerRoot compiler.settings.dateOrder =
            .call .restrict call.args) ∨
          (¬ call.IsVague ∧ ∃ derived,
            (Node.call .restrict call.args).lowerRoot compiler.settings.dateOrder =
              .restricted derived)) ∧
      ∀ derived ∈ compiled.root.restrictedMeasures, derived.id ∈ compiled.derived.map (·.id) := by
  obtain ⟨e, hparse, hmessages, -, hroot⟩ := exists_build h
  have hpasses := passes_of_mem_callSites hmessages
  refine ⟨e, hparse, ?_, ?_, ?_⟩
  · intro node hnode hsurface
    have hnormal := isNormal_root h node hnode
    have hcalled : Everywhere (fun node => node.IsSurface →
        node.IsCallOf (callSites compiler.settings compiler.model e)) compiled.root := by
      rw [hroot]
      exact (isKept_isSurface_imp _).everywhere_checkRoot
        ((invariant_isSurface_imp compiler.settings compiler.model _).build e (fun _ _ => trivial)
          (fun _ hcall => hcall) hmessages)
    have hcall := hcalled node hnode hsurface
    cases node with
    | call kind args =>
      obtain ⟨call, hmem, item, hitem, rfl, rfl⟩ := hcall
      obtain ⟨found, hfound, hresolves, hpass⟩ := hpasses call hmem
      obtain rfl := Except.ok.inj (hitem.symm.trans hfound)
      obtain ⟨hkind, hunknown⟩ :=
        eq_restrict_of_passes hresolves.mem_items hpass hsurface hnormal.rewrite
      exact ⟨call, hmem, ⟨⟨item, hitem, hkind⟩, hunknown⟩, by rw [hkind]⟩
    | const _ | constList _ | dimension _ | measure _ | array _ | restricted _ => exact hcall.elim
  · rintro call hmem ⟨item, hitem, hkind⟩
    obtain ⟨found, hfound, hresolves, hpass⟩ := hpasses call hmem
    obtain rfl := Except.ok.inj (hitem.symm.trans hfound)
    obtain rfl := Catalog.eq_itemOf_restrict hresolves.mem_items hkind
    have hcount : (Arity.range 2 none).accepts call.args.length = true := hpass.accepts
    obtain ⟨base, filters, hargs⟩ := exists_cons hcount
    rw [hargs] at hpass
    by_cases hunknown : RestrictedMeasure.hasUnknownPart (base :: filters) = true
    · have hnone := (ofArgs?_eq_none_iff hpass).mpr hunknown
      refine Or.inl ⟨⟨⟨_, hitem, rfl⟩, by rwa [hargs]⟩, ?_⟩
      rw [hargs, RestrictedMeasure.lowerRoot_restrict_of_none hnone]
    · have hsome := (ofArgs?_eq_none_iff hpass).not.mpr hunknown
      obtain ⟨derived, hderived⟩ := Option.ne_none_iff_exists'.mp hsome
      refine Or.inr ⟨fun hvague => hunknown (hargs ▸ hvague.2), derived, ?_⟩
      rw [hargs, RestrictedMeasure.lowerRoot_restrict hderived]
  · exact fun derived hmem => (mem_ids_derived h).mpr (List.mem_map.mpr ⟨derived, hmem, rfl⟩)

def isRestrictCall : Node → Bool
  | .call .restrict _ => true
  | _ => false

lemma isSurface_of_isRestrictCall {node : Node} (h : isRestrictCall node = true) : node.IsSurface := by
  unfold isRestrictCall at h
  split at h
  · exact Or.inl rfl
  · cases h

/-- `NULL` is taken for a filter, and the call stays. -/
theorem exists_unlowered :
    let compiler : Compiler := { model := .ofMembers .hana [] [{ id := "Sales" }] }
    ∃ compiled, compiler.compile none "RESTRICT([Sales], NULL)" = .ok compiled ∧
      ∃ node ∈ compiled.root.preorder, node.IsSurface := by
  intro compiler
  obtain ⟨compiled, hcompiled, hleft⟩ :
      ∃ compiled, compiler.compile none "RESTRICT([Sales], NULL)" = .ok compiled ∧
        compiled.root.preorder.any isRestrictCall = true :=
    exists_compiled_and (by decide +kernel)
  obtain ⟨node, hnode, hrestrict⟩ := List.any_eq_true.mp hleft
  exact ⟨compiled, hcompiled, node, hnode, isSurface_of_isRestrictCall hrestrict⟩

/-- Shares of restricted measures and differences of dates are lowered. -/
theorem root_isLowered_of_shares :
    let compiler : Compiler :=
      { model := .ofMembers .hana [{ id := "City" }, { id := "Time", dateLike := true }]
          [{ id := "Sales" }] }
    let text := "PERCENTOFSUBTOTAL(RESTRICT([Sales], [d/City] IN \x7b\"Paris\", \"Rome\"\x7d), [d/City]) + " ++
      "DATEDIFF([d/Time], \"2024-03-15\", \"Month\")"
    ∃ compiled, compiler.compile none text = .ok compiled ∧
      ∀ node ∈ compiled.root.preorder, ¬ node.IsSurface := by
  intro compiler text
  obtain ⟨compiled, hcompiled⟩ := exists_compiled
    (show (compiler.compile none text).isOk = true by decide +kernel)
  have hknown : ((Expr.parse compiler.settings.limits text).toOption.map fun e =>
      (callSites compiler.settings compiler.model e).any fun call =>
        RestrictedMeasure.hasUnknownPart call.args) = some false := by decide +kernel
  obtain ⟨e, hparse, hsurface, -, -⟩ := root_isLowered hcompiled
  rw [hparse] at hknown
  refine ⟨compiled, hcompiled, fun node hnode hleft => ?_⟩
  obtain ⟨call, hcall, hvague, -⟩ := hsurface node hnode hleft
  exact List.any_eq_false.mp (Option.some.inj hknown) call hcall hvague.2

end Compiler

end OlapFormula
