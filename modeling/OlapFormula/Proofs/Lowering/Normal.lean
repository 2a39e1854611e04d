import Mathlib.Data.List.Basic
import OlapFormula.Lowering
import OlapFormula.Proofs.Lowering.Folding
import OlapFormula.Proofs.Lowering.Rewriting
import OlapFormula.Proofs.MemberKey

/-!
# Normal forms

Lowering leaves nothing to rewrite and nothing to fold. What a node is rewritten to is lowered after at
most one more rewriting, that of a comparison, so that two rewritings one after the other are always
enough.
-/

namespace OlapFormula.Node

variable {order : DateOrder}

/-- Nothing is left to do at the node itself. -/
structure IsDone (order : DateOrder) (node : Node) : Prop where
  rewrite : node.rewrite? order = none
  fold : node.fold? order = none
  array : ∀ items, node = .array items → literals? items = none

/-- Nothing is left to do at any node of the tree. -/
def IsNormal (order : DateOrder) (node : Node) : Prop := node.Everywhere (IsDone order)

lemma forall_mem_pair {P : Node → Prop} {a b : Node} : (∀ n ∈ [a, b], P n) ↔ P a ∧ P b := by
  simp

lemma isNormal_const (value : Literal) : IsNormal order (.const value) :=
  everywhere_const.mpr ⟨rfl, rfl, nofun⟩

lemma isNormal_constList (values : List Literal) : IsNormal order (.constList values) :=
  everywhere_constList.mpr ⟨rfl, rfl, nofun⟩

lemma isNormal_dimension (ref : DimensionRef) : IsNormal order (.dimension ref) :=
  everywhere_dimension.mpr ⟨rfl, rfl, nofun⟩

lemma isNormal_measure (ref : MeasureRef) : IsNormal order (.measure ref) :=
  everywhere_measure.mpr ⟨rfl, rfl, nofun⟩

lemma isNormal_restricted (derived : RestrictedMeasure) : IsNormal order (.restricted derived) :=
  everywhere_restricted.mpr ⟨rfl, rfl, nofun⟩

lemma isNormal_call {kind : FunctionKind} {args : List Node} (hargs : ∀ arg ∈ args, IsNormal order arg)
    (hrewrite : (Node.call kind args).rewrite? order = none)
    (hfold : (Node.call kind args).fold? order = none) : IsNormal order (.call kind args) :=
  everywhere_call.mpr ⟨⟨hrewrite, hfold, nofun⟩, hargs⟩

lemma isNormal_list {items : List Node} (hitems : ∀ item ∈ items, IsNormal order item) :
    IsNormal order (list items) := by
  unfold list
  split
  · exact isNormal_constList _
  · rename_i hliterals
    refine everywhere_array.mpr ⟨⟨rfl, rfl, ?_⟩, hitems⟩
    rintro _ ⟨⟩
    exact hliterals

lemma ofIf_eq (condition : Bool) (value : Node) (otherwise : List Node) :
    (∃ c, Folding.ofIf condition value otherwise = .const c) ∨
      Folding.ofIf condition value otherwise ∈ value :: otherwise := by
  cases condition with
  | true => exact Or.inr (List.mem_cons_self ..)
  | false =>
    cases otherwise with
    | nil => exact Or.inl ⟨.null, rfl⟩
    | cons first rest => exact Or.inr (List.mem_cons_of_mem _ (List.mem_cons_self ..))

/-- What a call is folded to is a constant or one of its arguments. -/
lemma fold?_eq_some {kind : FunctionKind} {args : List Node} {value : Node}
    (h : (Node.call kind args).fold? order = some value) :
    (∃ c, value = .const c) ∨ value ∈ args := by
  cases foldsTo_of_fold? h with
  | branch condition value otherwise =>
    exact (ofIf_eq condition value otherwise).imp_right (List.mem_cons_of_mem _)
  | isNull _ found => exact Or.inl ⟨.boolean found, rfl⟩
  | @difference _ _ _ n => exact Or.inl ⟨.number n, rfl⟩
  | @constants _ _ c => exact Or.inl ⟨c, rfl⟩

lemma isNormal_folded {kind : FunctionKind} {args : List Node}
    (hargs : ∀ arg ∈ args, IsNormal order arg)
    (hrewrite : (Node.call kind args).rewrite? order = none) :
    IsNormal order (folded order (.call kind args)) := by
  unfold folded
  cases hfold : (Node.call kind args).fold? order with
  | none => exact isNormal_call hargs hrewrite hfold
  | some value =>
    rcases fold?_eq_some hfold with ⟨c, rfl⟩ | hmem
    · exact isNormal_const c
    · exact hargs value hmem

lemma IsDone.folded_eq {node : Node} (h : IsDone order node) : folded order node = node := by
  simp only [folded, h.fold, Option.getD_none]

lemma IsDone.lowerWithin_eq {node : Node} (h : IsDone order node) (budget : Nat) :
    lowerWithin order budget node = node := by
  cases budget with
  | zero => exact h.folded_eq
  | succ budget => simp only [lowerWithin, h.rewrite, h.folded_eq]

lemma bottomUps_eq_map (finish : Node → Node) (nodes : List Node) :
    bottomUps finish nodes = nodes.map (bottomUp finish) := by
  induction nodes with
  | nil => rfl
  | cons node nodes ih => simp [bottomUps, ih]

lemma bottomUps_eq_self {finish : Node → Node} {nodes : List Node}
    (h : ∀ node ∈ nodes, bottomUp finish node = node) : bottomUps finish nodes = nodes := by
  rw [bottomUps_eq_map, List.map_congr_left (g := id) h, List.map_id]

/-- Lowering does not change a normal form, whatever the budget. -/
theorem IsNormal.bottomUp_eq {node : Node} (h : IsNormal order node) (budget : Nat) :
    bottomUp (lowerWithin order budget) node = node := by
  induction node using Node.induction with
  | call kind args ih =>
    obtain ⟨hdone, hargs⟩ := everywhere_call.mp h
    rw [bottomUp, bottomUps_eq_self fun arg harg => ih arg harg (hargs arg harg)]
    exact hdone.lowerWithin_eq budget
  | array items ih =>
    obtain ⟨hdone, hitems⟩ := everywhere_array.mp h
    rw [bottomUp, bottomUps_eq_self fun item hitem => ih item hitem (hitems item hitem)]
    have hlist : list items = .array items := by
      unfold list
      rw [hdone.array items rfl]
    rw [hlist]
    exact hdone.lowerWithin_eq budget
  | const _ | constList _ | dimension _ | measure _ | restricted _ =>
    exact h.here.lowerWithin_eq budget

/-- With `least` rewritings or more, one after the other, the node is lowered to a normal form that does
not depend on their number. -/
def Settles (order : DateOrder) (least : Nat) (node : Node) : Prop :=
  ∃ normal, IsNormal order normal ∧
    ∀ budget, least ≤ budget → bottomUp (lowerWithin order budget) node = normal

lemma IsNormal.settles {node : Node} (h : IsNormal order node) (least : Nat) :
    Settles order least node :=
  ⟨node, h, fun budget _ => h.bottomUp_eq budget⟩

lemma settles_all {least : Nat} {nodes : List Node} (h : ∀ node ∈ nodes, Settles order least node) :
    ∃ normals, (∀ normal ∈ normals, IsNormal order normal) ∧
      ∀ budget, least ≤ budget → bottomUps (lowerWithin order budget) nodes = normals := by
  induction nodes with
  | nil => exact ⟨[], by simp, fun _ _ => rfl⟩
  | cons node nodes ih =>
    obtain ⟨normal, hnormal, hnode⟩ := h node (List.mem_cons_self ..)
    obtain ⟨normals, hnormals, hnodes⟩ := ih fun n hn => h n (List.mem_cons_of_mem node hn)
    refine ⟨normal :: normals, List.forall_mem_cons.mpr ⟨hnormal, hnormals⟩, ?_⟩
    intro budget hbudget
    rw [bottomUps, hnode budget hbudget, hnodes budget hbudget]

/-- Calls of this kind are never rewritten. -/
def IsPrimitive (kind : FunctionKind) : Prop :=
  ∀ order args, (Node.call kind args).rewrite? order = none

lemma lowerWithin_of_rewrite? {node : Node} (h : node.rewrite? order = none) (budget : Nat) :
    lowerWithin order budget node = folded order node := by
  cases budget with
  | zero => rfl
  | succ budget => simp only [lowerWithin, h]

lemma lowerRoot_of_rewrite? {node rewritten : Node} (h : node.rewrite? order = some rewritten) :
    lowerRoot order node = bottomUp (lowerWithin order 15) rewritten := by
  rw [lowerRoot, maxRewrites, lowerWithin, h]

lemma settles_call {kind : FunctionKind} (hkind : IsPrimitive kind) {args : List Node}
    (hargs : ∀ arg ∈ args, Settles order 1 arg) : Settles order 1 (.call kind args) := by
  obtain ⟨normals, hnormals, hlower⟩ := settles_all hargs
  refine ⟨folded order (.call kind normals), isNormal_folded hnormals (hkind order normals), ?_⟩
  intro budget hbudget
  rw [bottomUp, hlower budget hbudget, lowerWithin_of_rewrite? (hkind order normals)]

lemma rewrite?_comparison {kind : FunctionKind} (hkind : kind.isComparison) (args : List Node) :
    (Node.call kind args).rewrite? order = Rewriting.memberComparison? order kind args := by
  cases kind <;> first | rfl | simp [FunctionKind.isComparison] at hkind

/-- A comparison is rewritten to a comparison with a key, which is done. -/
lemma isNormal_memberComparison {kind : FunctionKind} (hkind : kind.isComparison) {args : List Node}
    {rewritten : Node} (h : Rewriting.memberComparison? order kind args = some rewritten) :
    IsNormal order rewritten := by
  obtain ⟨ref, value, key, -, hkey, rfl⟩ := memberComparison?_eq_some h
  apply isNormal_call
  · exact forall_mem_pair.mpr ⟨isNormal_dimension ref, isNormal_const _⟩
  · have hdone := MemberKey.memberKey?_memberKey? order hkey
    rw [rewrite?_comparison hkind]
    simp [Rewriting.memberComparison?, Node.string, hdone]
  · cases kind <;> rfl

/-- A comparison is folded, or its member becomes a key. -/
lemma lowerWithin_comparison_eq {kind : FunctionKind} (hkind : kind.isComparison) (args : List Node)
    (budget : Nat) : lowerWithin order budget (.call kind args) = folded order (.call kind args) ∨
      ∃ ref value key, args = [.dimension ref, .string value] ∧
        lowerWithin order budget (.call kind args) = .call kind [.dimension ref, .string key] := by
  cases budget with
  | zero => exact Or.inl rfl
  | succ budget =>
    cases hrewrite : (Node.call kind args).rewrite? order with
    | none => exact Or.inl (lowerWithin_of_rewrite? hrewrite _)
    | some rewritten =>
      have hmember : Rewriting.memberComparison? order kind args = some rewritten := by
        rwa [rewrite?_comparison hkind] at hrewrite
      obtain ⟨ref, value, key, hargs, -, hkey⟩ := memberComparison?_eq_some hmember
      refine Or.inr ⟨ref, value, String.ofList key, hargs, ?_⟩
      simp only [lowerWithin, hrewrite]
      rw [(isNormal_memberComparison hkind hmember).bottomUp_eq, hkey]

/-- A comparison of normal forms is lowered after at most one rewriting. -/
lemma lowerWithin_comparison {kind : FunctionKind} (hkind : kind.isComparison) {args : List Node}
    (hargs : ∀ arg ∈ args, IsNormal order arg) :
    ∃ normal, IsNormal order normal ∧
      ∀ budget, 1 ≤ budget → lowerWithin order budget (.call kind args) = normal := by
  cases hrewrite : (Node.call kind args).rewrite? order with
  | none =>
    exact ⟨_, isNormal_folded hargs hrewrite, fun budget _ => lowerWithin_of_rewrite? hrewrite budget⟩
  | some rewritten =>
    have hnormal : IsNormal order rewritten := by
      rw [rewrite?_comparison hkind] at hrewrite
      exact isNormal_memberComparison hkind hrewrite
    refine ⟨rewritten, hnormal, fun budget hbudget => ?_⟩
    obtain ⟨budget, rfl⟩ : ∃ b, budget = b + 1 := ⟨budget - 1, by omega⟩
    simp only [lowerWithin, hrewrite]
    exact hnormal.bottomUp_eq budget

lemma settles_comparison {kind : FunctionKind} (hkind : kind.isComparison) {args : List Node}
    (hargs : ∀ arg ∈ args, IsNormal order arg) : Settles order 1 (.call kind args) := by
  obtain ⟨normal, hnormal, hlower⟩ := lowerWithin_comparison hkind hargs
  refine ⟨normal, hnormal, fun budget hbudget => ?_⟩
  rw [bottomUp, bottomUps_eq_self fun arg harg => (hargs arg harg).bottomUp_eq budget]
  exact hlower budget hbudget

/-! ## Rewriting -/

/-- How many arguments the calls of a kind have that are made where none was written, by rewriting and by
casts. Of most kinds there are none. -/
def madeCount : FunctionKind → Option Nat
  | .int | .float | .grandTotal => some 1
  | .and | .or | .divide | .subtotalByIds | .daysBetween | .monthsBetween | .yearsBetween => some 2
  | _ => none

def IsMade (kind : FunctionKind) (count : Nat) : Prop := madeCount kind = some count

lemma IsMade.isPrimitive {kind : FunctionKind} {count : Nat} (h : IsMade kind count) :
    IsPrimitive kind := by
  cases kind <;> first | exact fun _ _ => rfl | cases h

lemma isMade_differenceKind (granularity : Granularity) :
    IsMade (Rewriting.differenceKind granularity) 2 := by
  cases granularity <;> rfl

/-- Membership compares its subject with each element of its list. -/
inductive Compares : FunctionKind → List Node → Node → Prop
  | isIn {subject list element : Node} {elements : List Node} :
    Rewriting.elements? list = some elements → element ∈ elements →
    Compares .isIn [subject, list] (.call .equal [subject, element])
  | notIn {subject list element : Node} {elements : List Node} :
    Rewriting.elements? list = some elements → element ∈ elements →
    Compares .notIn [subject, list] (.call .notEqual [subject, element])

lemma Compares.exists_element {kind : FunctionKind} {args : List Node} {comparison : Node}
    (h : Compares kind args comparison) :
    ∃ subject list elements element, args = [subject, list] ∧
      Rewriting.elements? list = some elements ∧ element ∈ elements ∧
      (kind = .isIn ∧ comparison = .call .equal [subject, element] ∨
        kind = .notIn ∧ comparison = .call .notEqual [subject, element]) := by
  cases h with
  | isIn helements helement => exact ⟨_, _, _, _, rfl, helements, helement, Or.inl ⟨rfl, rfl⟩⟩
  | notIn helements helement => exact ⟨_, _, _, _, rfl, helements, helement, Or.inr ⟨rfl, rfl⟩⟩

/-- The nodes that rewriting makes of parts, which fulfil `S`: calls that are never rewritten, and
comparisons of parts, which fulfil `C`. -/
inductive Prepared (S C : Node → Prop) : Node → Prop
  | part {node : Node} : S node → Prepared S C node
  | call {kind : FunctionKind} {args : List Node} : IsMade kind args.length →
    (∀ arg ∈ args, Prepared S C arg) → Prepared S C (.call kind args)
  | comparison {kind : FunctionKind} {args : List Node} : kind.isComparison →
    C (.call kind args) → (∀ arg ∈ args, S arg) → Prepared S C (.call kind args)

/-- What rewriting may take for a part. -/
structure IsPart (S : Node → Prop) : Prop where
  const : ∀ value, S (.const value)
  constList : ∀ values, S (.constList values)
  items : ∀ items, S (.array items) → ∀ item ∈ items, S item

section

variable {S C : Node → Prop}

lemma prepared_joinRight {join : FunctionKind} (hjoin : IsMade join 2) {first : Node}
    {rest : List Node} (hfirst : Prepared S C first) (hrest : ∀ node ∈ rest, Prepared S C node) :
    Prepared S C (Rewriting.joinRight join first rest) := by
  induction rest generalizing first with
  | nil => exact hfirst
  | cons second rest ih =>
    have hsecond := ih (hrest second (List.mem_cons_self ..))
      fun node hnode => hrest node (List.mem_cons_of_mem second hnode)
    exact .call hjoin (forall_mem_pair.mpr ⟨hfirst, hsecond⟩)

lemma prepared_ofMembership (hS : IsPart S) (excluded : Bool) {subject : Node}
    {elements : List Node} (hsubject : S subject) (helements : ∀ e ∈ elements, S e)
    (hC : ∀ e ∈ elements,
      C (.call (if excluded then FunctionKind.notEqual else .equal) [subject, e])) :
    Prepared S C (Rewriting.ofMembership excluded subject elements) := by
  have hcomparison : (if excluded then FunctionKind.notEqual else .equal).isComparison := by
    cases excluded <;> rfl
  have hjoin : IsMade (if excluded then FunctionKind.and else .or) 2 := by
    cases excluded <;> rfl
  have hall : ∀ node ∈ elements.map fun element =>
      Node.call (if excluded then FunctionKind.notEqual else .equal) [subject, element],
      Prepared S C node := by
    intro node hnode
    obtain ⟨element, helement, rfl⟩ := List.mem_map.mp hnode
    exact .comparison hcomparison (hC element helement)
      (forall_mem_pair.mpr ⟨hsubject, helements element helement⟩)
  unfold Rewriting.ofMembership
  dsimp only
  split
  · exact .part (hS.const _)
  · rename_i first rest hcalls
    rw [hcalls] at hall
    exact prepared_joinRight hjoin (hall first (List.mem_cons_self ..))
      fun node hnode => hall node (List.mem_cons_of_mem first hnode)

lemma IsPart.of_elements? (hS : IsPart S) {list : Node} {elements : List Node} (hlist : S list)
    (h : Rewriting.elements? list = some elements) : ∀ element ∈ elements, S element := by
  unfold Rewriting.elements? at h
  split at h
  · obtain rfl := Option.some.inj h
    intro element helement
    obtain ⟨value, -, rfl⟩ := List.mem_map.mp helement
    exact hS.const value
  · obtain rfl := Option.some.inj h
    exact hS.items _ hlist
  · simp at h

/-- What a call is rewritten to is made of its arguments, constants and restricted measures. -/
theorem rewrite?_prepared (hS : IsPart S) {kind : FunctionKind} {args : List Node} {rewritten : Node}
    (hargs : ∀ arg ∈ args, S arg)
    (hmembers : ∀ comparison, Compares kind args comparison → C comparison)
    (hkey : kind.isComparison →
      Rewriting.memberComparison? order kind args = some rewritten → C rewritten)
    (hrestricted : ∀ base filters derived, kind = .restrict → args = base :: filters →
      RestrictedMeasure.ofArgs? base filters = some derived → S (.restricted derived))
    (h : (Node.call kind args).rewrite? order = some rewritten) : Prepared S C rewritten := by
  cases rewritesTo_of_rewrite? h with
  | isIn helements =>
    obtain ⟨hsubject, hlist⟩ := forall_mem_pair.mp hargs
    exact prepared_ofMembership hS false hsubject (hS.of_elements? hlist helements)
      fun element helement => hmembers _ (.isIn helements helement)
  | notIn helements =>
    obtain ⟨hsubject, hlist⟩ := forall_mem_pair.mp hargs
    exact prepared_ofMembership hS true hsubject (hS.of_elements? hlist helements)
      fun element helement => hmembers _ (.notIn helements helement)
  | key hkind =>
    have hC := hkey hkind (by rwa [rewrite?_comparison hkind] at h)
    obtain ⟨hdimension, -⟩ := forall_mem_pair.mp hargs
    exact .comparison hkind hC (forall_mem_pair.mpr ⟨hdimension, hS.const _⟩)
  | difference a b units granularity =>
    rw [List.forall_mem_cons, List.forall_mem_cons] at hargs
    obtain ⟨ha, hb, -⟩ := hargs
    exact .call (isMade_differenceKind granularity) (forall_mem_pair.mpr ⟨.part ha, .part hb⟩)
  | days => exact .call rfl fun arg harg => .part (hargs arg harg)
  | restrict hderived => exact .part (hrestricted _ _ _ rfl rfl hderived)
  | @subtotal base _ ids =>
    have hbase : Prepared S C base := .part (hargs base (List.mem_cons_self ..))
    exact .call rfl (forall_mem_pair.mpr ⟨hbase, .part (hS.constList ids)⟩)
  | shareOfGrandTotal base =>
    have hbase : Prepared S C base := .part (hargs base (List.mem_cons_self ..))
    have htotal : Prepared S C (.call .grandTotal [base]) := .call rfl (by simpa using hbase)
    exact .call rfl (forall_mem_pair.mpr ⟨hbase, htotal⟩)
  | @shareOfSubtotal base _ ids =>
    have hbase : Prepared S C base := .part (hargs base (List.mem_cons_self ..))
    have htotal : Prepared S C (.call .subtotalByIds [base, .constList ids]) :=
      .call rfl (forall_mem_pair.mpr ⟨hbase, .part (hS.constList ids)⟩)
    exact .call rfl (forall_mem_pair.mpr ⟨hbase, htotal⟩)

end

lemma isPart_isNormal (order : DateOrder) : IsPart (IsNormal order) where
  const := isNormal_const
  constList := isNormal_constList
  items _ h := (everywhere_array.mp h).2

lemma Prepared.settles {C : Node → Prop} {node : Node} (h : Prepared (IsNormal order) C node) :
    Settles order 1 node := by
  induction h with
  | part hnode => exact hnode.settles 1
  | call hkind _ ih => exact settles_call hkind.isPrimitive ih
  | comparison hkind _ hargs => exact settles_comparison hkind hargs

/-- What a call of normal forms is rewritten to is made of normal forms. -/
lemma prepared_of_rewrite? {kind : FunctionKind} {args : List Node} {rewritten : Node}
    (hargs : ∀ arg ∈ args, IsNormal order arg)
    (h : (Node.call kind args).rewrite? order = some rewritten) :
    Prepared (IsNormal order) (fun _ => True) rewritten :=
  rewrite?_prepared (isPart_isNormal order) hargs (fun _ _ => trivial) (fun _ _ => trivial)
    (fun _ _ derived _ _ _ => isNormal_restricted derived) h

/-- What a call of normal forms is rewritten to takes at most one more rewriting at any node. -/
theorem rewrite?_settles {kind : FunctionKind} {args : List Node} {rewritten : Node}
    (hargs : ∀ arg ∈ args, IsNormal order arg)
    (h : (Node.call kind args).rewrite? order = some rewritten) : Settles order 1 rewritten :=
  (prepared_of_rewrite? hargs h).settles

/-! ## Lowering -/

/-- With two rewritings or more, lowering a node in which everything is lowered gives a normal form
that does not depend on their number. -/
theorem lowerWithin_call (kind : FunctionKind) {args : List Node}
    (hargs : ∀ arg ∈ args, IsNormal order arg) :
    ∃ normal, IsNormal order normal ∧
      ∀ budget, 2 ≤ budget → lowerWithin order budget (.call kind args) = normal := by
  cases hrewrite : (Node.call kind args).rewrite? order with
  | none =>
    exact ⟨_, isNormal_folded hargs hrewrite, fun budget _ => lowerWithin_of_rewrite? hrewrite budget⟩
  | some rewritten =>
    -- One rewriting is spent here, and one is left for what comes of it.
    obtain ⟨normal, hnormal, hlower⟩ := rewrite?_settles hargs hrewrite
    refine ⟨normal, hnormal, fun budget hbudget => ?_⟩
    obtain ⟨budget, rfl⟩ : ∃ b, budget = b + 1 := ⟨budget - 1, by omega⟩
    simp only [lowerWithin, hrewrite]
    exact hlower budget (by omega)

lemma isNormal_lowerRoot {kind : FunctionKind} {args : List Node}
    (hargs : ∀ arg ∈ args, IsNormal order arg) : IsNormal order (lowerRoot order (.call kind args)) := by
  obtain ⟨normal, hnormal, hlower⟩ := lowerWithin_call kind hargs
  rw [lowerRoot, hlower maxRewrites (by decide)]
  exact hnormal

/-- Every node is lowered to a normal form, and two rewritings at each node are enough. -/
theorem settles (order : DateOrder) (node : Node) : Settles order 2 node := by
  induction node using Node.induction with
  | call kind args ih =>
    obtain ⟨normals, hnormals, hlower⟩ := settles_all ih
    -- The arguments are lowered first, so the call is one of normal forms.
    obtain ⟨normal, hnormal, hcall⟩ := lowerWithin_call kind hnormals
    refine ⟨normal, hnormal, fun budget hbudget => ?_⟩
    rw [bottomUp, hlower budget hbudget, hcall budget hbudget]
  | array items ih =>
    obtain ⟨normals, hnormals, hlower⟩ := settles_all ih
    have hlist := isNormal_list hnormals
    refine ⟨list normals, hlist, fun budget hbudget => ?_⟩
    rw [bottomUp, hlower budget hbudget]
    exact hlist.here.lowerWithin_eq budget
  | const value => exact (isNormal_const value).settles 2
  | constList values => exact (isNormal_constList values).settles 2
  | dimension ref => exact (isNormal_dimension ref).settles 2
  | measure ref => exact (isNormal_measure ref).settles 2
  | restricted derived => exact (isNormal_restricted derived).settles 2

lemma isNormal_lower (order : DateOrder) (node : Node) : IsNormal order (lower order node) := by
  obtain ⟨normal, hnormal, hlower⟩ := settles order node
  rw [lower, lowerRoot, hlower maxRewrites (by decide)]
  exact hnormal

lemma IsNormal.lower_eq {node : Node} (h : IsNormal order node) : lower order node = node :=
  h.bottomUp_eq maxRewrites

lemma bottomUp_eq_lower (order : DateOrder) (node : Node) {budget : Nat} (hbudget : 2 ≤ budget) :
    bottomUp (lowerWithin order budget) node = lower order node := by
  obtain ⟨normal, -, hlower⟩ := settles order node
  rw [hlower budget hbudget]
  exact (hlower maxRewrites (by decide)).symm

end OlapFormula.Node
