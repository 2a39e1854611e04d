import Mathlib.Data.List.Basic
import OlapFormula.Construction
import OlapFormula.Proofs.Expr.Induction

/-!
# Invariants of accepted nodes

A property of nodes that every step of the construction keeps holds of every node that is built without
an error.
-/

namespace OlapFormula

namespace Message

lemma hasErrors_append (a b : List Message) : hasErrors (a ++ b) = (hasErrors a || hasErrors b) :=
  List.any_append

lemma hasErrors_flatMap {α : Type} (xs : List α) (f : α → List Message) :
    hasErrors (xs.flatMap f) = false ↔ ∀ x ∈ xs, hasErrors (f x) = false := by
  simp only [hasErrors, List.any_eq_false, List.mem_flatMap, forall_exists_index, and_imp]
  exact ⟨fun h x hx message hmessage => h message x hx hmessage,
    fun h message x hx hmessage => h x hx message hmessage⟩

end Message

namespace Construction

variable {settings : Settings} {model : Model}

/-- The item that a name stands for, as a function or as an operator. -/
def Resolves (settings : Settings) (model : Model) (name : String) (item : FunctionItem) : Prop :=
  Catalog.resolve settings.flags model.backend name = .ok item ∨
    Catalog.resolveOperator settings.flags model.backend name = .ok item

/-- All checks of a call are made, and none of them finds an error. -/
def Passes (settings : Settings) (name : String) (item : FunctionItem) (args : List Node) : Prop :=
  ∃ messages, Check.run settings.flags ⟨name, .ok item, args⟩ Check.all = (messages, .continue) ∧
    Message.hasErrors messages = false

/-- The call that is checked for a name and the arguments that are built for it. -/
def callSite (name : String) (item : Except Catalog.Unavailable FunctionItem) (args : List Node) :
    CallSite :=
  match item with
  | .error reason => ⟨name, .error reason, args⟩
  | .ok item => ⟨name, .ok item, item.kind.prepare args⟩

mutual

/-- The calls that are checked while an expression is built. -/
def callSites (settings : Settings) (model : Model) : Expr → List CallSite
  | .binary op left right =>
    callSites settings model left ++ callSites settings model right ++
      [callSite op.name (Catalog.resolveOperator settings.flags model.backend op.name)
        [(build settings model left).1, (build settings model right).1]]
  | .unary op operand =>
    callSites settings model operand ++
      [callSite op.name (Catalog.resolveOperator settings.flags model.backend op.name)
        [(build settings model operand).1]]
  | .call name args =>
    callSitesOfAll settings model args ++
      [callSite name (Catalog.resolve settings.flags model.backend name)
        (buildAll settings model args).1]
  | .list items => callSitesOfAll settings model items
  | _ => []

def callSitesOfAll (settings : Settings) (model : Model) : List Expr → List CallSite
  | [] => []
  | e :: es => callSites settings model e ++ callSitesOfAll settings model es

end

/-- Every step of the construction that finds no error keeps the property. References are those that
fulfil `R`, and calls those that fulfil `C`. -/
structure Invariant (settings : Settings) (model : Model) (R : FieldReference → Prop)
    (C : CallSite → Prop) (P : Node → Prop) : Prop where
  const : ∀ value, P (.const value)
  field : ∀ reference, R reference → Message.hasErrors (ofField model reference).2 = false →
    P (ofField model reference).1
  list : ∀ items, (∀ item ∈ items, P item) → P (.list items)
  call : ∀ name item args, Resolves settings model name item →
    C (callSite name (.ok item) args) → (∀ arg ∈ args, P arg) →
    Passes settings name item (item.kind.prepare args) →
    P ((Node.call item.kind (item.kind.prepare args)).lowerRoot settings.dateOrder)

variable {R : FieldReference → Prop} {C : CallSite → Prop} {P : Node → Prop}

lemma Invariant.ofCall (h : Invariant settings model R C P) {name : String}
    {item : Except Catalog.Unavailable FunctionItem}
    (hitem : ∀ found, item = .ok found → Resolves settings model name found) {args : List Node}
    (hcall : C (callSite name item args)) (hargs : ∀ arg ∈ args, P arg)
    (hmessages : Message.hasErrors (ofCall settings name item args).2 = false) :
    P (ofCall settings name item args).1 := by
  unfold Construction.ofCall at hmessages ⊢
  cases item with
  | error reason => exact h.const .null
  | ok item =>
    dsimp only at hmessages ⊢
    cases hrun : Check.run settings.flags ⟨name, .ok item, item.kind.prepare args⟩ Check.all with
    | mk messages flow =>
      rw [hrun] at hmessages
      cases flow with
      | halt => exact h.const .null
      | «continue» =>
        dsimp only at hmessages ⊢
        rw [if_neg (by simp [hmessages])]
        exact h.call name item args (hitem item rfl) hcall hargs ⟨messages, hrun, hmessages⟩

/-- A measure is known and is not seen through anything. -/
lemma hasErrors_ofMeasure {reference : FieldReference} :
    Message.hasErrors (ofMeasure model reference).2 = false ↔
      reference.suffix = none ∧ model.measure? reference.id ≠ none := by
  unfold ofMeasure
  dsimp only
  rw [Message.hasErrors_append, Bool.or_eq_false_iff]
  cases reference.suffix <;> cases model.measure? reference.id <;>
    simp [Message.hasErrors, Message.isError, MessageCode.severity]

lemma buildAll_messages (es : List Expr) :
    (buildAll settings model es).2 = es.flatMap fun e => (build settings model e).2 := by
  induction es with
  | nil => rfl
  | cons e es ih =>
    rw [List.flatMap_cons, ← ih]
    rfl

lemma hasErrors_buildAll (es : List Expr) :
    Message.hasErrors (buildAll settings model es).2 = false ↔
      ∀ e ∈ es, Message.hasErrors (build settings model e).2 = false := by
  rw [buildAll_messages, Message.hasErrors_flatMap]

lemma buildAll_nodes (es : List Expr) :
    (buildAll settings model es).1 = es.map fun e => (build settings model e).1 := by
  induction es with
  | nil => rfl
  | cons e es ih =>
    rw [buildAll]
    simp [ih]

lemma build_unary (op : UnaryOperator) (operand : Expr) :
    build settings model (.unary op operand) =
      ((ofOperator settings model op.name [(build settings model operand).1]).1,
        (build settings model operand).2 ++
          (ofOperator settings model op.name [(build settings model operand).1]).2) := by
  rw [build]

lemma build_binary (op : BinaryOperator) (left right : Expr) :
    build settings model (.binary op left right) =
      ((ofOperator settings model op.name
          [(build settings model left).1, (build settings model right).1]).1,
        (build settings model left).2 ++ (build settings model right).2 ++
          (ofOperator settings model op.name
            [(build settings model left).1, (build settings model right).1]).2) := by
  rw [build]

lemma build_call (name : String) (args : List Expr) :
    build settings model (.call name args) =
      ((ofFunction settings model name (args.map fun e => (build settings model e).1)).1,
        (buildAll settings model args).2 ++
          (ofFunction settings model name (args.map fun e => (build settings model e).1)).2) := by
  rw [build, ← buildAll_nodes]

lemma build_list (items : List Expr) :
    build settings model (.list items) =
      (.list (items.map fun e => (build settings model e).1), (buildAll settings model items).2) := by
  rw [build, ← buildAll_nodes]

/-- The item that an operation or a call is one of. -/
def calledItem (settings : Settings) (model : Model) : Expr → Except Catalog.Unavailable FunctionItem
  | .binary op _ _ => Catalog.resolveOperator settings.flags model.backend op.name
  | .unary op _ => Catalog.resolveOperator settings.flags model.backend op.name
  | .call name _ => Catalog.resolve settings.flags model.backend name
  | _ => .error .unknown

/-- What the item of this name gives for some expressions. -/
def buildCall (settings : Settings) (model : Model) (name : String)
    (item : Except Catalog.Unavailable FunctionItem) (es : List Expr) : Built :=
  let args := es.map fun e => (build settings model e).1
  ((ofCall settings name item args).1,
    (buildAll settings model es).2 ++ (ofCall settings name item args).2)

section

variable {e : Expr} {name : String} (hname : e.callName = some name)

include hname

lemma resolves_calledItem {item : FunctionItem} (hitem : calledItem settings model e = .ok item) :
    Resolves settings model name item := by
  cases e with
  | binary _ _ _ | unary _ _ =>
    cases hname
    exact Or.inr hitem
  | call _ _ =>
    cases hname
    exact Or.inl hitem
  | number _ | string _ | boolean _ | null | field _ | list _ => cases hname

lemma build_eq_buildCall : build settings model e =
    buildCall settings model name (calledItem settings model e) e.children := by
  cases e with
  | binary op left right =>
    cases hname
    rw [build_binary, Expr.children]
    simp [buildCall, buildAll, ofOperator, calledItem]
  | unary op operand =>
    cases hname
    rw [build_unary, Expr.children]
    simp [buildCall, buildAll, ofOperator, calledItem]
  | call _ args =>
    cases hname
    rw [build_call]
    rfl
  | number _ | string _ | boolean _ | null | field _ | list _ => cases hname

lemma callSites_of_callName : callSites settings model e =
    callSitesOfAll settings model e.children ++
      [callSite name (calledItem settings model e)
        (e.children.map fun child => (build settings model child).1)] := by
  cases e with
  | binary op left right =>
    cases hname
    simp [callSites, callSitesOfAll, Expr.children, calledItem]
  | unary op operand =>
    cases hname
    simp [callSites, callSitesOfAll, Expr.children, calledItem]
  | call _ args =>
    cases hname
    rw [callSites, buildAll_nodes]
    rfl
  | number _ | string _ | boolean _ | null | field _ | list _ => cases hname

end

lemma hasErrors_buildCall {name : String} {item : Except Catalog.Unavailable FunctionItem}
    {es : List Expr} : Message.hasErrors (buildCall settings model name item es).2 = false ↔
      (∀ e ∈ es, Message.hasErrors (build settings model e).2 = false) ∧
        Message.hasErrors
          (ofCall settings name item (es.map fun e => (build settings model e).1)).2 = false := by
  rw [buildCall, Message.hasErrors_append, Bool.or_eq_false_iff, hasErrors_buildAll]

lemma forall_callSitesOfAll {es : List Expr} {Q : CallSite → Prop} :
    (∀ call ∈ callSitesOfAll settings model es, Q call) ↔
      ∀ e ∈ es, ∀ call ∈ callSites settings model e, Q call := by
  induction es with
  | nil => simp [callSitesOfAll]
  | cons e es ih => rw [callSitesOfAll, List.forall_mem_append, List.forall_mem_cons, ih]

/-- An invariant holds of every node that is built without an error. -/
theorem Invariant.build (h : Invariant settings model R C P) (e : Expr)
    (hfields : ∀ r ∈ e.fields, R r) (hcalls : ∀ call ∈ callSites settings model e, C call)
    (hmessages : Message.hasErrors (build settings model e).2 = false) :
    P (build settings model e).1 := by
  have hall {es : List Expr}
      (ih : ∀ e ∈ es, (∀ r ∈ e.fields, R r) → (∀ call ∈ callSites settings model e, C call) →
        Message.hasErrors (Construction.build settings model e).2 = false →
        P (Construction.build settings model e).1)
      (hfields : ∀ r ∈ Expr.fieldsOfAll es, R r) (hcalls : ∀ call ∈ callSitesOfAll settings model es, C call)
      (hmessages : ∀ e ∈ es, Message.hasErrors (Construction.build settings model e).2 = false) :
      ∀ node ∈ es.map fun e => (Construction.build settings model e).1, P node :=
    List.forall_mem_map.mpr fun e he => ih e he (Expr.forall_fieldsOfAll.mp hfields e he)
      (forall_callSitesOfAll.mp hcalls e he) (hmessages e he)
  induction e using Expr.induction_of_children with
  | number spelling =>
    rw [Construction.build, ofSpelling]
    split
    · exact h.const _
    · exact h.const .null
  | string value => exact h.const _
  | boolean value => exact h.const _
  | null => exact h.const .null
  | field reference =>
    rw [Construction.build] at hmessages ⊢
    exact h.field reference (hfields reference (by simp [Expr.fields])) hmessages
  | call e name hname ih =>
    rw [build_eq_buildCall hname] at hmessages ⊢
    rw [callSites_of_callName hname, List.forall_mem_append, List.forall_mem_singleton] at hcalls
    rw [Expr.fields_of_callName hname] at hfields
    obtain ⟨hchildren, hcall⟩ := hasErrors_buildCall.mp hmessages
    exact h.ofCall (fun _ hitem => resolves_calledItem hname hitem) hcalls.2
      (hall ih hfields hcalls.1 hchildren) hcall
  | list items ih =>
    rw [build_list] at hmessages ⊢
    exact h.list _ (hall ih hfields hcalls ((hasErrors_buildAll items).mp hmessages))

end Construction

end OlapFormula
