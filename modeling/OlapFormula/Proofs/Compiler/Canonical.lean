import OlapFormula.Proofs.Compiler.WellFormed
import OlapFormula.Proofs.Construction.Translation
import OlapFormula.Proofs.Expr.Weight
import OlapFormula.Proofs.Lowering.Height
import OlapFormula.Proofs.Node.RoundTrip

/-!
# Canonical text under limits

The limits on nesting are about formulas as they are written. The canonical text of an accepted formula says
what was lowered: memberships have become chains, the root may be cast, and there are parentheses where none
were written. It is read again under any limits that leave room for it, and the room that it needs is bounded
by the number of lexemes of the formula.
-/

namespace OlapFormula

open Node

namespace Catalog

lemma eq_of_accepts {required count : Nat} (h : (Arity.range required (some 0)).accepts count = true) :
    count = required := by
  simp only [Arity.accepts, Option.all_some, Bool.and_eq_true, decide_eq_true_eq] at h
  omega

lemma le_of_accepts {required count : Nat} {optional : Option Nat}
    (h : (Arity.range required optional).accepts count = true) : required ≤ count := by
  simp only [Arity.accepts, Bool.and_eq_true, decide_eq_true_eq] at h
  exact h.1

/-- Operators are written with the numbers of operands that the catalog allows them. -/
lemma takes_of_accepts {kind : FunctionKind} {count : Nat}
    (h : (itemOf kind).arity.accepts count = true) : kind.takes count := by
  cases kind <;> first | exact trivial | exact eq_of_accepts h | exact le_of_accepts h

end Catalog

/-- The root of an accepted formula can be written down. -/
lemma Compiler.everywhere_hasShape {compiler : Compiler} {editing : Option String} {text : String}
    {compiled : CompiledFormula} (h : compiler.compile editing text = .ok compiled) :
    compiled.root.Everywhere HasShape := by
  have harity := everywhere_root_of_established
    (Construction.isEstablished_hasArity compiler.settings compiler.model) (fun _ _ _ _ => trivial)
    (fun _ _ _ _ => trivial) h
  have hresolved := everywhere_root
    (isInherited_isResolved compiler.settings compiler.model FieldReference.IsWellFormed)
    (fun e => Expr.isWellFormed_of_parse) h
  have hreference {r : FieldReference} (hr : r.IsWellFormed) : ∃ cs, FieldReference.parse? cs = some r :=
    ⟨r.text.toList, FieldReference.parse?_text hr⟩
  intro node hnode
  have hcall := harity node hnode
  have hleaf := hresolved node hnode
  cases node with
  | const _ | constList _ | array _ => exact trivial
  | dimension ref => exact hreference hleaf.1
  | measure ref => exact hreference hleaf.1
  | restricted derived =>
    exact ⟨hreference hleaf.1.1, fun filter hfilter => hreference (hleaf.2 filter hfilter).1⟩
  | call kind args =>
    exact Catalog.takes_of_accepts
      (hcall (Catalog.itemOf kind) (Catalog.itemOf_mem kind) (Catalog.kind_itemOf kind))

namespace Construction

open OlapFormula.Expr

variable {settings : Settings} {model : Model}

/-- The node is not much higher than the expression is heavy. A list leaves room for the chain that a
membership makes of it. -/
structure IsLow (e : Expr) (node : Node) : Prop where
  height : node.height ≤ e.weight + 1
  elements : ∀ elements, Rewriting.elements? node = some elements →
    elements.length + node.height ≤ e.weight + 1

section

variable {e : Expr} {name : String} {item : FunctionItem} {f : Expr → Node}

lemma deepest_height_le {es : List Expr} (h : ∀ e ∈ es, IsLow e (f e)) :
    deepest ((es.map f).map Node.height) ≤ (es.map weight).sum + 1 := by
  rw [List.map_map]
  refine deepest_le (List.forall_mem_map.mpr fun e he => (h e he).height.trans ?_)
  exact Nat.succ_le_succ (weight_le_sum he)

lemma height_call_le (kind : FunctionKind) (h : ∀ child ∈ e.children, IsLow child (f child)) :
    (Node.call kind (e.children.map f)).height ≤ (e.children.map weight).sum + 2 := by
  have hchildren := deepest_height_le h
  rw [height_call]
  omega

lemma height_le_of_isSurface (hname : e.callName = some name) (hitem : item ∈ Catalog.variants name)
    (hsurface : item.kind.isSurface = true) (h : ∀ child ∈ e.children, IsLow child (f child))
    (hargs : ∀ arg ∈ e.children.map f, IsNormal settings.dateOrder arg) :
    ((Node.call item.kind (e.children.map f)).lowerRoot settings.dateOrder).height ≤ e.weight + 1 := by
  have hcall := height_call_le item.kind h
  obtain ⟨args, rfl⟩ := exists_call_of_isSurface hname hitem hsurface
  rw [weight_call]
  rcases height_lowerRoot_surface_le hargs hsurface with hsame | ⟨hne, hhigher⟩
  · exact hsame.trans (hcall.trans (by rw [children]; omega))
  · have hlength : 0 < args.length := List.length_pos_iff.mpr (by simpa [children] using hne)
    have hweight := length_le_sum_weight args
    rw [children] at hcall hhigher ⊢
    omega

lemma height_le_of_isMembership (hname : e.callName = some name)
    (hmember : item.kind.isMembership = true) (h : ∀ child ∈ e.children, IsLow child (f child))
    (hargs : ∀ arg ∈ e.children.map f, IsNormal settings.dateOrder arg) :
    ((Node.call item.kind (e.children.map f)).lowerRoot settings.dateOrder).height ≤ e.weight + 1 := by
  have hcall := height_call_le item.kind h
  have hweight := sum_weight_children_lt hname
  rcases height_lowerRoot_membership_le hargs hmember with
    hsame | ⟨subject, list, elements, hsplit, helements, hchain⟩
  · omega
  · obtain ⟨first, rest, hchildren, rfl, hrest⟩ := List.map_eq_cons_iff.mp hsplit
    obtain ⟨second, rfl, rfl⟩ := List.map_eq_singleton_iff.mp hrest
    have hfirst := (h first (by simp [hchildren])).height
    have hsecond := (h second (by simp [hchildren])).elements elements helements
    have hpos := (f second).height_pos
    simp only [hchildren, List.map_cons, List.map_nil, List.sum_cons, List.sum_nil] at hweight
    omega

lemma height_le_of_prepare (hname : e.callName = some name) (hsurface : item.kind.isSurface = false)
    (hmember : item.kind.isMembership = false) (h : ∀ child ∈ e.children, IsLow child (f child))
    (hargs : ∀ arg ∈ e.children.map f, IsNormal settings.dateOrder arg) :
    ((Node.call item.kind (item.kind.prepare (e.children.map f))).lowerRoot settings.dateOrder).height ≤
      e.weight + 1 := by
  have hcall := height_call_le item.kind h
  have hweight := sum_weight_children_lt hname
  rcases height_lowerRoot_le (isNormal_prepare item.kind hargs) hsurface hmember with
    hsame | ⟨htwo, hcast⟩
  · omega
  · have hlength := length_le_sum_weight e.children
    rw [List.length_map] at htwo
    omega

end

/-- What is built of an expression is not much higher than the expression is heavy. -/
lemma isTranslation_isLow (settings : Settings) (model : Model) : IsTranslation settings model IsLow where
  const e value := by
    have hheight := height_const_le value
    have hweight := e.weight_pos
    exact ⟨by omega, nofun⟩
  field e reference := by
    rcases ofField_node model reference with hnode | ⟨dimension, hnode⟩
    · rw [hnode]
      exact ⟨Nat.le_add_left .., nofun⟩
    · rw [hnode]
      exact ⟨Nat.le_add_left .., nofun⟩
  list items f hitems := by
    have hheight := deepest_height_le hitems
    have hroom : (items.map f).length + (Node.list (items.map f)).height ≤ (Expr.list items).weight + 1 := by
      rw [height_list, weight_list, List.length_map]
      omega
    refine ⟨(Nat.le_add_left ..).trans hroom, fun elements helements => ?_⟩
    cases (elements?_list (items.map f)).symm.trans helements
    exact hroom
  call e name item f hname hresolves hlow hargs := by
    constructor
    · by_cases hsurface : item.kind.isSurface = true
      · rw [FunctionKind.prepare_eq_self (Or.inl hsurface)]
        exact height_le_of_isSurface hname hresolves.mem_variants hsurface hlow hargs
      · by_cases hmember : item.kind.isMembership = true
        · rw [FunctionKind.prepare_eq_self (Or.inr hmember)]
          exact height_le_of_isMembership hname hmember hlow hargs
        · rw [Bool.not_eq_true] at hsurface hmember
          exact height_le_of_prepare hname hsurface hmember hlow hargs
    · intro elements helements
      obtain ⟨child, hchild, hnode⟩ := exists_child_of_elements? hargs helements
      rw [← hnode] at helements ⊢
      have hroom := (hlow child hchild).elements elements helements
      have hweight := sum_weight_children_lt hname
      have hle := weight_le_sum hchild
      omega

lemma height_checkRoot_le (order : DateOrder) (root : Node) :
    (checkRoot order root).1.height ≤ root.height + 2 := by
  refine measure_checkRoot_le isMonotone_height (fun kind arg => ?_) order root
  rw [height_call_single, Nat.add_comm]

end Construction

namespace Compiler

lemma height_root_le {compiler : Compiler} {editing : Option String} {text : String}
    {compiled : CompiledFormula} (h : compiler.compile editing text = .ok compiled) :
    compiled.root.height ≤ (Lexeme.scan text.toList).length + 3 := by
  obtain ⟨e, hparse, hmessages, -, hroot⟩ := exists_build h
  have hlow := ((Construction.isTranslation_isLow compiler.settings compiler.model).build e hmessages).height
  have hcast := Construction.height_checkRoot_le compiler.settings.dateOrder
    (Construction.build compiler.settings compiler.model e).1
  have hweight := Expr.weight_le_of_parse hparse
  rw [hroot]
  change (Construction.checkRoot _ _).1.height ≤ _
  omega

/-- The canonical text of an accepted formula is read as the expression of the root under any limits that
leave room for it, and there is room enough for twice as many levels as the formula has lexemes and five. -/
theorem parse_text_root {compiler : Compiler} {editing : Option String} {text : String}
    {compiled : CompiledFormula} (h : compiler.compile editing text = .ok compiled) :
    (∀ limits : NestingLimits, Expr.parse limits compiled.text =
      if limits.depth < compiled.root.nesting then .error (.nestingTooDeep limits.depth)
      else if limits.height < compiled.root.expr.height then .error (.nestingTooDeep limits.height)
      else .ok compiled.root.expr) ∧
    compiled.root.expr.height ≤ (Lexeme.scan text.toList).length + 3 ∧
    compiled.root.nesting ≤ 2 * (Lexeme.scan text.toList).length + 5 := by
  have hheight := height_root_le h
  have hnesting := compiled.root.nesting_lt
  exact ⟨parse_text_eq (everywhere_hasShape h), hheight, by omega⟩

/-- There is room for a membership that becomes a chain. -/
theorem parse_text_root_of_chain :
    let compiler : Compiler := { model := .ofMembers .hana [] [{ id := "Sales" }] }
    let text := "[Sales] IN \x7b1, 2, 3\x7d"
    ∃ compiled, compiler.compile none text = .ok compiled ∧
      (∀ limits : NestingLimits, Expr.parse limits compiled.text =
        if limits.depth < compiled.root.nesting then .error (.nestingTooDeep limits.depth)
        else if limits.height < compiled.root.expr.height then .error (.nestingTooDeep limits.height)
        else .ok compiled.root.expr) ∧
      compiled.root.expr.height ≤ (Lexeme.scan text.toList).length + 3 ∧
      compiled.root.nesting ≤ 2 * (Lexeme.scan text.toList).length + 5 := by
  intro compiler text
  obtain ⟨compiled, hcompiled⟩ := exists_compiled
    (show (compiler.compile none text).isOk = true by decide +kernel)
  exact ⟨compiled, hcompiled, parse_text_root hcompiled⟩

/-- A list is one level deep, however many elements it has, and the chain that it becomes is not. -/
theorem exists_too_deep :
    let compiler : Compiler := { model := .ofMembers .hana [] [{ id := "Sales" }] }
    let zeros := "0, 0, 0, 0, 0, 0, 0, 0, "
    let text := "[Sales] IN \x7b" ++ zeros ++ zeros ++ zeros ++ zeros ++ zeros ++ zeros ++ zeros ++ zeros ++
      "0\x7d"
    ∃ compiled, compiler.compile none text = .ok compiled ∧
      Expr.parse compiler.settings.limits compiled.text = .error (.nestingTooDeep 64) := by
  intro compiler zeros text
  obtain ⟨compiled, hcompiled, hdeep⟩ :
      ∃ compiled, compiler.compile none text = .ok compiled ∧ 64 < compiled.root.nesting :=
    exists_compiled_and (by decide +kernel)
  refine ⟨compiled, hcompiled, ?_⟩
  rw [CompiledFormula.text, parse_text_eq (everywhere_hasShape hcompiled)]
  exact if_pos hdeep

end Compiler

end OlapFormula
