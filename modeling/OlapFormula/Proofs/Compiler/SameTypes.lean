import OlapFormula.Proofs.Compiler.Kept
import OlapFormula.Proofs.Construction.CallSites

/-!
# Types of arguments in accepted formulas

Where a function declares one argument to be like another one, their types agree when the call is checked,
and lowering does not change them any more. Only membership is lowered to comparisons that were never
checked: their operands are as like each other as the subject and the elements of the list.
-/

namespace OlapFormula

open Construction Node

namespace CallSite

/-- What a membership compares: its subject with each element of its list. -/
def compared (call : CallSite) : List (Node × Node) :=
  match call.item, call.args with
  | .ok item, [subject, list] =>
    if item.kind = .isIn ∨ item.kind = .notIn then
      ((Rewriting.elements? list).getD []).map (subject, ·)
    else []
  | _, _ => []

/-- A membership lists nothing but elements that are like its subject. -/
def ListsAlike (flags : FeatureFlags) (call : CallSite) : Prop :=
  ∀ pair ∈ call.compared, flags.agree pair.1.type pair.2.type = true

instance (flags : FeatureFlags) (call : CallSite) : Decidable (call.ListsAlike flags) :=
  inferInstanceAs (Decidable (∀ pair ∈ call.compared, flags.agree pair.1.type pair.2.type = true))

lemma mem_compared {call : CallSite} {subject element : Node} :
    (subject, element) ∈ call.compared ↔ ∃ item list elements, call.item = .ok item ∧
      (item.kind = .isIn ∨ item.kind = .notIn) ∧ call.args = [subject, list] ∧
      Rewriting.elements? list = some elements ∧ element ∈ elements := by
  constructor
  · intro h
    unfold compared at h
    split at h
    · next item found list hitem hargs =>
      split at h
      · next hkind =>
        obtain ⟨_, helement, heq⟩ := List.mem_map.mp h
        obtain ⟨rfl, rfl⟩ := Prod.mk.inj heq
        cases helements : Rewriting.elements? list with
        | none =>
          rw [helements] at helement
          cases helement
        | some elements =>
          rw [helements] at helement
          exact ⟨item, list, elements, hitem, hkind, hargs, helements, helement⟩
      · cases h
    · cases h
  · rintro ⟨item, list, elements, hitem, hkind, hargs, helements, helement⟩
    simp [compared, hitem, hargs, hkind, helements, helement]

end CallSite

namespace Node

variable {order : DateOrder} {flags : FeatureFlags}

/-- A comparison for which one of the memberships stands, with its member or the key of a member. -/
inductive IsListed (calls : List CallSite) : Node → Prop
  | comparison {call : CallSite} {item : FunctionItem} {node : Node} : call ∈ calls →
    call.item = .ok item → Compares item.kind call.args node → IsListed calls node
  | key {kind : FunctionKind} {ref : DimensionRef} {value : String} (key : String) :
    IsListed calls (.call kind [.dimension ref, .string value]) →
    IsListed calls (.call kind [.dimension ref, .string key])

/-- Keys are strings, as the members are that they stand for. -/
lemma IsSameTyped.key {kind : FunctionKind} {ref : DimensionRef} {value : String}
    (h : IsSameTyped flags (.call kind [.dimension ref, .string value])) (key : String) :
    IsSameTyped flags (.call kind [.dimension ref, .string key]) := h

lemma IsListed.isSameTyped {calls : List CallSite} {node : Node} (h : IsListed calls node)
    (halike : ∀ call ∈ calls, call.ListsAlike flags) : node.IsSameTyped flags := by
  induction h with
  | @comparison call item node hcall hitem hcompares =>
    obtain ⟨subject, list, elements, element, hargs, helements, helement, hkind⟩ :=
      hcompares.exists_element
    have hmembership : item.kind = .isIn ∨ item.kind = .notIn := hkind.imp (·.1) (·.1)
    have hagree : flags.agree subject.type element.type = true :=
      halike call hcall (subject, element) (CallSite.mem_compared.mpr
        ⟨item, list, elements, hitem, hmembership, hargs, helements, helement⟩)
    rcases hkind with ⟨-, rfl⟩ | ⟨-, rfl⟩
    · exact (isSameTyped_comparison rfl).mpr hagree
    · exact (isSameTyped_comparison rfl).mpr hagree
  | key key _ ih => exact ih.key key

lemma isSameTyped_of_isMade {kind : FunctionKind} {args : List Node} (h : IsMade kind args.length) :
    IsSameTyped flags (.call kind args) := by
  have hall : ∀ item ∈ Catalog.items, (madeCount item.kind).isSome →
      ∀ contract ∈ item.arguments, contract.sameTypeAs = none := by decide +kernel
  rintro item hitem rfl
  exact FunctionItem.areAlike_of_none (hall item hitem (Option.isSome_of_eq_some h)) _

lemma isKept_isSameTyped_or_isListed (flags : FeatureFlags) (calls : List CallSite) :
    IsKept fun node => node.IsSameTyped flags ∨ node.IsListed calls where
  const _ := Or.inl trivial
  constList _ := Or.inl trivial
  array _ := Or.inl trivial
  made h := Or.inl (isSameTyped_of_isMade h)
  key key _ h := h.imp (·.key key) (·.key key)

/-- Two constants that do not agree are not compared, but left as they are. -/
lemma fold?_of_not_agree {kind : FunctionKind} (hkind : kind = .equal ∨ kind = .notEqual)
    {a b : Node} (hunlike : flags.agree a.type b.type ≠ true) :
    (Node.call kind [a, b]).fold? order = none := by
  have hnone : ∀ values, literals? [a, b] = some values → Folding.ofConstants kind values = none := by
    intro values hvalues
    simp only [literals?, Option.bind_eq_bind, Option.bind_eq_some_iff, Option.pure_def,
      Option.some.injEq] at hvalues
    obtain ⟨u, hu, _, ⟨v, hv, _, rfl, rfl⟩, rfl⟩ := hvalues
    have ha : a = .const u := by
      cases a <;> cases hu
      rfl
    have hb : b = .const v := by
      cases b <;> cases hv
      rfl
    subst ha hb
    rcases hkind with rfl | rfl <;> cases u <;> cases v <;> first | exact absurd rfl hunlike | rfl
  cases hliterals : literals? [a, b] with
  | none => rcases hkind with rfl | rfl <;> simp [fold?, hliterals]
  | some values =>
    have hvalues := hnone values hliterals
    rcases hkind with rfl | rfl <;> simp [fold?, hliterals, hvalues]

lemma not_everywhere_comparison {kind : FunctionKind} (hkind : kind = .equal ∨ kind = .notEqual)
    {a b : Node} (hunlike : flags.agree a.type b.type ≠ true) (budget : Nat) :
    ¬ Everywhere (IsSameTyped flags) (lowerWithin order budget (.call kind [a, b])) := by
  have hcomparison : kind.isComparison = true := by rcases hkind with rfl | rfl <;> rfl
  have hsame : folded order (.call kind [a, b]) = .call kind [a, b] := by
    rw [folded, fold?_of_not_agree hkind hunlike, Option.getD_none]
  -- A member may become a key, but then it has the type of the member.
  have hlowered : ∃ b', lowerWithin order budget (.call kind [a, b]) = .call kind [a, b'] ∧
      b'.type = b.type := by
    rcases lowerWithin_comparison_eq hcomparison [a, b] budget with hlower | ⟨_, _, key, hpair, hlower⟩
    · exact ⟨b, hlower.trans hsame, rfl⟩
    · obtain ⟨rfl, rfl⟩ := by simpa using hpair
      exact ⟨.string key, hlower, rfl⟩
  obtain ⟨b', hlower, htype⟩ := hlowered
  rw [hlower]
  intro h
  rw [← htype] at hunlike
  exact hunlike ((isSameTyped_comparison hcomparison).mp h.here)

lemma not_everywhere_join {join : FunctionKind} (hjoin : join = .and ∨ join = .or) {a b : Node}
    (h : ¬ Everywhere (IsSameTyped flags) a ∨ ¬ Everywhere (IsSameTyped flags) b) (budget : Nat) :
    ¬ Everywhere (IsSameTyped flags) (lowerWithin order budget (.call join [a, b])) := by
  have hprimitive : IsPrimitive join := by
    have hmade : IsMade join 2 := by rcases hjoin with rfl | rfl <;> rfl
    exact hmade.isPrimitive
  have hliterals : literals? [a, b] = none := by
    cases a with
    | const u =>
      cases b with
      | const v => simp [everywhere_const, IsSameTyped] at h
      | _ => rfl
    | _ => rfl
  have hfold : (Node.call join [a, b]).fold? order = none := by
    rcases hjoin with rfl | rfl <;> simp [fold?, hliterals]
  rw [lowerWithin_of_rewrite? (hprimitive order _), folded, hfold, Option.getD_none]
  intro hall
  obtain ⟨ha, hb⟩ := forall_mem_pair.mp (everywhere_call.mp hall).2
  exact h.elim (· ha) (· hb)

/-- One comparison is enough for the whole chain. -/
lemma not_everywhere_joinRight {join : FunctionKind} (hjoin : join = .and ∨ join = .or) {budget : Nat}
    {first : Node} {rest : List Node} (h : ∃ node ∈ first :: rest,
      ¬ Everywhere (IsSameTyped flags) (bottomUp (lowerWithin order budget) node)) :
    ¬ Everywhere (IsSameTyped flags)
      (bottomUp (lowerWithin order budget) (Rewriting.joinRight join first rest)) := by
  induction rest generalizing first with
  | nil =>
    obtain ⟨node, hnode, hbad⟩ := h
    obtain rfl := List.mem_singleton.mp hnode
    exact hbad
  | cons second rest ih =>
    rw [Rewriting.joinRight, bottomUp, bottomUps, bottomUps, bottomUps]
    apply not_everywhere_join hjoin
    obtain ⟨node, hnode, hbad⟩ := h
    rcases List.mem_cons.mp hnode with rfl | hnode
    · exact Or.inl hbad
    · exact Or.inr (ih ⟨node, hnode, hbad⟩)

/-- A membership that lists something unlike its subject is lowered to a comparison of the two. -/
theorem not_everywhere_lowerRoot {kind : FunctionKind} (hkind : kind = .isIn ∨ kind = .notIn)
    {subject list element : Node} {elements : List Node} (hsubject : IsNormal order subject)
    (hlist : IsNormal order list) (helements : Rewriting.elements? list = some elements)
    (helement : element ∈ elements) (hunlike : flags.agree subject.type element.type ≠ true) :
    ¬ Everywhere (IsSameTyped flags) (lowerRoot order (.call kind [subject, list])) := by
  obtain ⟨excluded, hrewrite⟩ : ∃ excluded, (Node.call kind [subject, list]).rewrite? order =
      some (Rewriting.ofMembership excluded subject elements) := by
    rcases hkind with rfl | rfl
    · exact ⟨false, by simp [rewrite?, Rewriting.membership?, helements]⟩
    · exact ⟨true, by simp [rewrite?, Rewriting.membership?, helements]⟩
  rw [lowerRoot_of_rewrite? hrewrite]
  have hcomparison : (if excluded then FunctionKind.notEqual else .equal) = .equal ∨
      (if excluded then FunctionKind.notEqual else .equal) = .notEqual := by
    cases excluded <;> simp
  have hjoin : (if excluded then FunctionKind.and else .or) = .and ∨
      (if excluded then FunctionKind.and else .or) = .or := by
    cases excluded <;> simp
  have hmem : Node.call (if excluded then FunctionKind.notEqual else .equal) [subject, element] ∈
      elements.map fun element =>
        Node.call (if excluded then FunctionKind.notEqual else .equal) [subject, element] :=
    List.mem_map.mpr ⟨element, helement, rfl⟩
  have hnormal := (isPart_isNormal order).of_elements? hlist helements element helement
  unfold Rewriting.ofMembership
  dsimp only
  split
  · next hnone =>
    rw [hnone] at hmem
    cases hmem
  · next first rest hcalls =>
    rw [hcalls] at hmem
    refine not_everywhere_joinRight hjoin ⟨_, hmem, ?_⟩
    have hargs : ∀ arg ∈ [subject, element], bottomUp (lowerWithin order 15) arg = arg :=
      forall_mem_pair.mpr ⟨hsubject.bottomUp_eq 15, hnormal.bottomUp_eq 15⟩
    rw [bottomUp, bottomUps_eq_self hargs]
    exact not_everywhere_comparison hcomparison hunlike 15

end Node

namespace Construction

variable {settings : Settings} {model : Model}

lemma isNormal_callSite {name : String} {item : Except Catalog.Unavailable FunctionItem}
    {args : List Node} (hargs : ∀ arg ∈ args, IsNormal settings.dateOrder arg)
    (hmessages : Message.hasErrors (ofCall settings name item args).2 = false) :
    ∃ found, (callSite name item args).item = .ok found ∧
      ∀ arg ∈ (callSite name item args).args, IsNormal settings.dateOrder arg := by
  obtain ⟨found, rfl⟩ := exists_item_of_hasErrors hmessages
  exact ⟨found, rfl, isNormal_prepare found.kind hargs⟩

/-- What is checked while an expression is built without an error are calls of items with lowered
arguments. -/
lemma isNormal_of_mem_callSites {e : Expr}
    (hmessages : Message.hasErrors (build settings model e).2 = false) :
    ∀ call ∈ callSites settings model e, ∃ item, call.item = .ok item ∧
      ∀ arg ∈ call.args, IsNormal settings.dateOrder arg := by
  refine forall_callSites (Q := fun call => ∃ item, call.item = .ok item ∧
    ∀ arg ∈ call.args, IsNormal settings.dateOrder arg) (fun name item args _ hargs hcall => ?_) hmessages
  apply isNormal_callSite _ hcall
  intro arg harg
  obtain ⟨e, rfl, he⟩ := hargs arg harg
  exact (invariant_isNormal settings model).build e (fun _ _ => trivial) (fun _ _ => trivial) he

lemma isEstablished_isSameTyped (settings : Settings) (model : Model) (calls : List CallSite) :
    IsEstablished settings model (fun _ => True) (· ∈ calls) fun node =>
      node.IsSameTyped settings.flags ∨ node.IsListed calls where
  kept := isKept_isSameTyped_or_isListed settings.flags calls
  field reference _ _ := by
    rcases ofField_node model reference with hnode | ⟨dimension, hnode⟩
    · rw [hnode]
      exact Or.inl trivial
    · rw [hnode]
      exact Or.inl trivial
  call name item args hresolves _ hpasses := by
    have halike := Checks.hasErrors_sameType.mp (passes_iff.mp hpasses .sameType)
    exact Or.inl fun other hother hkind =>
      halike.of_kind_eq hresolves.mem_items hother hkind.symm
  compares name item args comparison _ hmem _ hcompares := Or.inr (.comparison hmem rfl hcompares)
  restricted _ _ _ _ _ _ _ _ _ _ := Or.inl trivial

end Construction

namespace Compiler

/-- In an accepted formula arguments agree where one is declared to be like another one, but for the
comparisons of memberships. They agree everywhere if memberships list elements like their subjects only;
a membership that does not is lowered to a comparison of arguments that do not agree. -/
theorem root_isSameTyped {compiler : Compiler} {editing : Option String} {text : String}
    {compiled : CompiledFormula} (h : compiler.compile editing text = .ok compiled) :
    ∃ e, Expr.parse compiler.settings.limits text = .ok e ∧
      (∀ node ∈ compiled.root.preorder, node.IsSameTyped compiler.settings.flags ∨
        node.IsListed (callSites compiler.settings compiler.model e)) ∧
      ((∀ call ∈ callSites compiler.settings compiler.model e,
          call.ListsAlike compiler.settings.flags) →
        ∀ node ∈ compiled.root.preorder, node.IsSameTyped compiler.settings.flags) ∧
      ∀ call ∈ callSites compiler.settings compiler.model e,
        ¬ call.ListsAlike compiler.settings.flags → ∃ item, call.item = .ok item ∧
          ∃ node ∈ ((Node.call item.kind call.args).lowerRoot compiler.settings.dateOrder).preorder,
            ¬ node.IsSameTyped compiler.settings.flags := by
  obtain ⟨e, hparse, hmessages, -, -⟩ := exists_build h
  have hroot := everywhere_root_of_established
    (isEstablished_isSameTyped compiler.settings compiler.model
      (callSites compiler.settings compiler.model e)) (fun _ _ _ _ => trivial) (fun other hother => by
        obtain rfl := Except.ok.inj (hparse.symm.trans hother)
        exact fun call hcall => hcall) h
  refine ⟨e, hparse, hroot, fun halike node hnode => ?_, fun call hcall hunlike => ?_⟩
  · exact (hroot node hnode).elim id fun hlisted => hlisted.isSameTyped halike
  · obtain ⟨found, hfound, hnormal⟩ := isNormal_of_mem_callSites hmessages call hcall
    unfold CallSite.ListsAlike at hunlike
    push Not at hunlike
    obtain ⟨⟨subject, element⟩, hpair, hdisagree⟩ := hunlike
    obtain ⟨item, list, elements, hitem, hkind, hargs, helements, helement⟩ :=
      CallSite.mem_compared.mp hpair
    rw [hargs] at hnormal
    obtain ⟨hsubject, hlist⟩ := forall_mem_pair.mp hnormal
    have hbad := not_everywhere_lowerRoot hkind hsubject hlist helements helement hdisagree
    unfold Everywhere at hbad
    push Not at hbad
    exact ⟨item, hitem, by rwa [hargs]⟩

/-- The node compares operands whose types do not agree. -/
def comparesUnlike (flags : FeatureFlags) : Node → Bool
  | .call .equal [a, b] => !flags.agree a.type b.type
  | _ => false

lemma not_isSameTyped_of_comparesUnlike {flags : FeatureFlags} {node : Node}
    (h : comparesUnlike flags node = true) : ¬ node.IsSameTyped flags := by
  intro hsame
  unfold comparesUnlike at h
  split at h
  · rw [(isSameTyped_comparison rfl).mp hsame] at h
    cases h
  · cases h

/-- A string measure is compared with a number, which is rejected where it is written so. -/
theorem exists_unlike :
    let model : Model := .ofMembers .hana [] [{ id := "Label", valueType := .string }]
    let compiler : Compiler := { model }
    (∃ compiled, compiler.compile none "IF([Label] IN \x7b5\x7d, 1, 2)" = .ok compiled ∧
      ∃ node ∈ compiled.root.preorder, ¬ node.IsSameTyped compiler.settings.flags) ∧
    ∀ compiled, compiler.compile none "IF([Label] = 5, 1, 2)" ≠ .ok compiled := by
  intro model compiler
  obtain ⟨compiled, hcompiled, hunlike⟩ :
      ∃ compiled, compiler.compile none "IF([Label] IN \x7b5\x7d, 1, 2)" = .ok compiled ∧
        compiled.root.preorder.any (comparesUnlike compiler.settings.flags) = true :=
    exists_compiled_and (by decide +kernel)
  have hrejected : (compiler.compile none "IF([Label] = 5, 1, 2)").isOk = false := by decide +kernel
  constructor
  · obtain ⟨node, hnode, hbad⟩ := List.any_eq_true.mp hunlike
    exact ⟨compiled, hcompiled, node, hnode, not_isSameTyped_of_comparesUnlike hbad⟩
  · intro compiled hcompiled
    rw [hcompiled] at hrejected
    cases hrejected

/-- Members that are like the dimension are compared with it, and so are keys. -/
theorem root_isSameTyped_of_keys :
    let compiler : Compiler :=
      { model := .ofMembers .hana [{ id := "Time", dateLike := true }] [{ id := "Sales" }] }
    let text := "RESTRICT([Sales], [d/Time] IN \x7b\"2024-03-15\", \"3/2024\"\x7d) / 2"
    ∃ compiled, compiler.compile none text = .ok compiled ∧
      ∀ node ∈ compiled.root.preorder, node.IsSameTyped compiler.settings.flags := by
  intro compiler text
  obtain ⟨compiled, hcompiled⟩ := exists_compiled
    (show (compiler.compile none text).isOk = true by decide +kernel)
  have halike : ((Expr.parse compiler.settings.limits text).toOption.map fun e =>
      decide (∀ call ∈ callSites compiler.settings compiler.model e,
        call.ListsAlike compiler.settings.flags)) = some true := by decide +kernel
  obtain ⟨e, hparse, -, hsame, -⟩ := root_isSameTyped hcompiled
  rw [hparse] at halike
  exact ⟨compiled, hcompiled, hsame (of_decide_eq_true (Option.some.inj halike))⟩

end Compiler

end OlapFormula
