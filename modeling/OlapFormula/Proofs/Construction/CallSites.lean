import OlapFormula.Proofs.Checks.Passing

/-!
# Call sites

The calls that are checked while an expression is built without an error are those of items, with arguments
that are built without an error, and all of them pass.
-/

namespace OlapFormula.Construction

variable {settings : Settings} {model : Model}

/-- What holds of each call without an error, made from nodes without an error, holds of all call sites of
an expression without an error. -/
theorem forall_callSites {Q : CallSite → Prop}
    (hQ : ∀ name item args,
      (∀ found, item = .ok found → Resolves settings model name found) →
      (∀ arg ∈ args, ∃ e, arg = (build settings model e).1 ∧
        Message.hasErrors (build settings model e).2 = false) →
      Message.hasErrors (ofCall settings name item args).2 = false → Q (callSite name item args))
    {e : Expr} (hmessages : Message.hasErrors (build settings model e).2 = false) :
    ∀ call ∈ callSites settings model e, Q call := by
  induction e using Expr.induction_of_children with
  | number _ | string _ | boolean _ | null | field _ => simp [callSites]
  | call e name hname ih =>
    rw [build_eq_buildCall hname] at hmessages
    obtain ⟨hchildren, hcall⟩ := hasErrors_buildCall.mp hmessages
    rw [callSites_of_callName hname, List.forall_mem_append, List.forall_mem_singleton, forall_callSitesOfAll]
    refine ⟨fun child hchild => ih child hchild (hchildren child hchild),
      hQ _ _ _ (fun _ hitem => resolves_calledItem hname hitem) ?_ hcall⟩
    exact List.forall_mem_map.mpr fun child hchild => ⟨child, rfl, hchildren child hchild⟩
  | list items ih =>
    rw [build_list] at hmessages
    rw [callSites, forall_callSitesOfAll]
    exact fun item hitem => ih item hitem ((hasErrors_buildAll items).mp hmessages item hitem)

lemma passes_of_mem_callSites {e : Expr}
    (hmessages : Message.hasErrors (build settings model e).2 = false) :
    ∀ call ∈ callSites settings model e, ∃ item, call.item = .ok item ∧
      Resolves settings model call.name item ∧ Passes settings call.name item call.args := by
  refine forall_callSites (Q := fun call => ∃ item, call.item = .ok item ∧
    Resolves settings model call.name item ∧ Passes settings call.name item call.args)
    (fun name item args hresolves _ hcall => ?_) hmessages
  obtain ⟨found, rfl⟩ := exists_item_of_hasErrors hcall
  exact ⟨found, rfl, hresolves found rfl, hasErrors_ofCall_iff.mp hcall⟩

end OlapFormula.Construction
