import Mathlib.Algebra.Order.Ring.Basic
import Mathlib.Tactic.Ring
import OlapFormula.Proofs.Compiler.Kept
import OlapFormula.Proofs.Construction.Translation
import OlapFormula.Proofs.Expr.Nesting
import OlapFormula.Proofs.Expr.Weight
import OlapFormula.Proofs.Lowering.Size

/-!
# The size of accepted formulas

A formula in which nothing is copied stays about as large as it is written. Where copies are made of copies,
the size is multiplied each time: it is bounded by a power of the number of lexemes, whose exponent is the
number of calls that copy one another.
-/

namespace OlapFormula

open Construction

/-- The name may stand for a function that copies its first argument. -/
def Catalog.copies (name : String) : Bool := (variants name).any (·.kind.copies)

namespace Expr

/-- The depth of an operation or call, from the depths of its operands or arguments. -/
def depthOver (copies : Bool) : List Nat → Nat
  | [] => 0
  | first :: rest => max (if copies then first + 1 else first) (deepest rest)

mutual

/-- The greatest number of calls that copy, each of which stands in the first argument of the next. -/
def copyDepth : Expr → Nat
  | binary op left right => depthOver (Catalog.copies op.name) [left.copyDepth, right.copyDepth]
  | unary op operand => depthOver (Catalog.copies op.name) [operand.copyDepth]
  | call name args => depthOver (Catalog.copies name) (copyDepths args)
  | list items => depthOver false (copyDepths items)
  | _ => 0

def copyDepths : List Expr → List Nat
  | [] => []
  | e :: es => e.copyDepth :: copyDepths es

end

lemma copyDepths_eq_map (es : List Expr) : copyDepths es = es.map copyDepth := by
  induction es with
  | nil => rfl
  | cons e es ih => rw [copyDepths, ih, List.map_cons]

lemma le_depthOver (copies : Bool) {depth : Nat} {depths : List Nat} (h : depth ∈ depths) :
    depth ≤ depthOver copies depths := by
  cases depths with
  | nil => cases h
  | cons first rest =>
    rcases List.mem_cons.mp h with rfl | h
    · apply le_max_of_le_left
      split
      · exact Nat.le_succ _
      · exact le_rfl
    · exact le_max_of_le_right (le_deepest h)

lemma lt_depthOver (first : Nat) (rest : List Nat) : first < depthOver true (first :: rest) :=
  Nat.lt_of_succ_le (le_max_left ..)

lemma copyDepth_of_callName {e : Expr} {name : String} (h : e.callName = some name) :
    e.copyDepth = depthOver (Catalog.copies name) (e.children.map copyDepth) := by
  cases e with
  | binary op left right =>
    cases h
    rfl
  | unary op operand =>
    cases h
    rfl
  | call name args =>
    cases h
    rw [copyDepth, copyDepths_eq_map, children]
  | number _ | string _ | boolean _ | null | field _ | list _ => cases h

lemma copyDepth_le_of_mem_children {e child : Expr} (h : child ∈ e.children) :
    child.copyDepth ≤ e.copyDepth := by
  have hmem : child.copyDepth ∈ e.children.map copyDepth := List.mem_map_of_mem h
  cases e with
  | binary _ _ _ | unary _ _ => exact le_depthOver _ hmem
  | call _ args =>
    rw [copyDepth, copyDepths_eq_map]
    exact le_depthOver _ hmem
  | list items =>
    rw [copyDepth, copyDepths_eq_map]
    exact le_depthOver _ hmem
  | number _ | string _ | boolean _ | null | field _ => cases h

/-- How large what is built of an expression may be, by its depth and its weight. -/
def sizeBound (depth weight : Nat) : Nat := if depth = 0 then 2 * weight - 1 else weight ^ (depth + 1)

lemma sizeBound_zero (weight : Nat) : sizeBound 0 weight = 2 * weight - 1 := rfl

lemma sizeBound_of_ne_zero {depth : Nat} (h : depth ≠ 0) (weight : Nat) :
    sizeBound depth weight = weight ^ (depth + 1) := if_neg h

/-- What two parts with a cross term take is no more than what they take together. -/
lemma pow_succ_add_le (a b : Nat) {n : Nat} (hn : n ≠ 0) :
    a ^ (n + 1) + b * a ^ n + b ^ (n + 1) ≤ (a + b) ^ (n + 1) := by
  have hleft : a ^ n ≤ (a + b) ^ n := Nat.pow_le_pow_left (Nat.le_add_right ..) n
  have hboth : a ^ n + b ^ n ≤ (a + b) ^ n := pow_add_pow_le (Nat.zero_le a) (Nat.zero_le b) hn
  calc a ^ (n + 1) + b * a ^ n + b ^ (n + 1) = a * a ^ n + b * (a ^ n + b ^ n) := by ring
    _ ≤ a * (a + b) ^ n + b * (a + b) ^ n :=
      Nat.add_le_add (Nat.mul_le_mul_left a hleft) (Nat.mul_le_mul_left b hboth)
    _ = (a + b) ^ (n + 1) := by ring

lemma sizeBound_add {depth a b : Nat} (ha : 0 < a) (hb : 0 < b) :
    sizeBound depth a + sizeBound depth b + 1 ≤ sizeBound depth (a + b) := by
  by_cases hdepth : depth = 0
  · rw [hdepth, sizeBound_zero, sizeBound_zero, sizeBound_zero]
    omega
  · simp only [sizeBound_of_ne_zero hdepth]
    have hpow := pow_succ_add_le a b hdepth
    have hcross : 0 < b * a ^ depth := Nat.mul_pos hb (Nat.pow_pos ha)
    omega

lemma sizeBound_mono {depth depth' a b : Nat} (hdepth : depth ≤ depth') (hab : a ≤ b) :
    sizeBound depth a ≤ sizeBound depth' b := by
  by_cases hzero : depth' = 0
  · obtain rfl : depth = 0 := Nat.le_zero.mp (hzero ▸ hdepth)
    rw [hzero, sizeBound_zero, sizeBound_zero]
    omega
  · rw [sizeBound_of_ne_zero hzero]
    rcases Nat.eq_zero_or_pos b with rfl | hb
    · obtain rfl := Nat.le_zero.mp hab
      unfold sizeBound
      split <;> simp
    · by_cases hzero' : depth = 0
      · rw [hzero', sizeBound_zero]
        have hsquare : 2 * b * 1 ≤ b ^ 2 + 1 ^ 2 := two_mul_le_add_sq b 1
        have hpow : b ^ 2 ≤ b ^ (depth' + 1) := Nat.pow_le_pow_right hb (by omega)
        omega
      · rw [sizeBound_of_ne_zero hzero']
        exact (Nat.pow_le_pow_left hab _).trans (Nat.pow_le_pow_right hb (by omega))

lemma sizeBound_lt {a : Nat} (ha : 0 < a) (depth : Nat) : sizeBound depth a < 2 * a ^ (depth + 1) := by
  by_cases hdepth : depth = 0
  · rw [hdepth, sizeBound_zero, Nat.zero_add, pow_one]
    omega
  · rw [sizeBound_of_ne_zero hdepth]
    have hpow : 0 < a ^ (depth + 1) := Nat.pow_pos ha
    omega

/-- A measure that is used twice. -/
lemma two_mul_sizeBound_le {a : Nat} (ha : 0 < a) (depth count : Nat) :
    2 * sizeBound depth a + count + 3 ≤ sizeBound (depth + 1) (a + count + 3) := by
  have hne : depth + 1 ≠ 0 := Nat.succ_ne_zero depth
  have hlt := sizeBound_lt ha depth
  have hfour : 4 * a ^ (depth + 1) ≤ (a + 1) ^ (depth + 1 + 1) := by
    calc 4 * a ^ (depth + 1) = a ^ depth * (4 * a * 1) := by ring
      _ ≤ a ^ depth * (a + 1) ^ 2 := Nat.mul_le_mul_left _ (four_mul_le_sq_add a 1)
      _ ≤ (a + 1) ^ depth * (a + 1) ^ 2 :=
        Nat.mul_le_mul_right _ (Nat.pow_le_pow_left (Nat.le_succ a) depth)
      _ = (a + 1) ^ (depth + 1 + 1) := (pow_add ..).symm
  have hrest : (a + 1) ^ (depth + 1 + 1) + (count + 2) ^ (depth + 1 + 1) ≤
      (a + 1 + (count + 2)) ^ (depth + 1 + 1) :=
    pow_add_pow_le (Nat.zero_le _) (Nat.zero_le _) (by omega)
  have hcount : count + 2 ≤ (count + 2) ^ (depth + 1 + 1) := Nat.le_self_pow (by omega) _
  have hsum : a + 1 + (count + 2) = a + count + 3 := by omega
  rw [hsum] at hrest
  rw [sizeBound_of_ne_zero hne]
  omega

/-- A subject that is used once for each element of a list. -/
lemma mul_sizeBound_le {depth a b count : Nat} (ha : 0 < a) (hcount : 2 * count + 1 ≤ b) :
    count * (sizeBound depth a + 2) + sizeBound (depth + 1) b ≤ sizeBound (depth + 1) (1 + a + b) := by
  have hlt := sizeBound_lt ha depth
  have hne : depth + 1 ≠ 0 := Nat.succ_ne_zero depth
  have hpow := pow_succ_add_le a b hne
  have hlast : a + b + (a + b) ^ (depth + 1 + 1) ≤ (1 + a + b) ^ (depth + 1 + 1) := by
    have hsplit := pow_succ_add_le (a + b) 1 hne
    have hself : a + b ≤ (a + b) ^ (depth + 1) := Nat.le_self_pow hne _
    have hcomm : a + b + 1 = 1 + a + b := by omega
    rw [hcomm, Nat.one_mul, one_pow] at hsplit
    omega
  have hproduct : count * (sizeBound depth a + 2) ≤ b * a ^ (depth + 1) + b := by
    calc count * (sizeBound depth a + 2) ≤ count * (2 * a ^ (depth + 1) + 1) :=
          Nat.mul_le_mul_left count (by omega)
      _ = 2 * count * a ^ (depth + 1) + count := by ring
      _ ≤ b * a ^ (depth + 1) + b :=
        Nat.add_le_add (Nat.mul_le_mul_right _ (by omega)) (by omega)
  rw [sizeBound_of_ne_zero hne, sizeBound_of_ne_zero hne]
  omega

open Node in
/-- Nodes as large as the bound allows, with their expressions, are together as large as it allows. -/
lemma sizes_map_le {es : List Expr} {f : Expr → Node} {depth : Nat}
    (hsize : ∀ e ∈ es, (f e).size ≤ sizeBound e.copyDepth e.weight)
    (hdepth : ∀ e ∈ es, e.copyDepth ≤ depth) :
    1 + sizes (es.map f) + es.length ≤ sizeBound depth (1 + (es.map weight).sum) := by
  induction es with
  | nil =>
    unfold sizeBound
    split
    · exact le_rfl
    · exact (one_pow _).ge
  | cons e es ih =>
    rw [List.forall_mem_cons] at hsize hdepth
    have hrest := ih hsize.2 hdepth.2
    have hfirst := hsize.1.trans (sizeBound_mono hdepth.1 (Nat.le_refl e.weight))
    have hadd : sizeBound depth (1 + (es.map weight).sum) + sizeBound depth e.weight + 1 ≤
        sizeBound depth (1 + (es.map weight).sum + e.weight) :=
      sizeBound_add (Nat.add_pos_left Nat.one_pos _) e.weight_pos
    have hcomm : 1 + (es.map weight).sum + e.weight = 1 + (e.weight + (es.map weight).sum) := by omega
    rw [hcomm] at hadd
    simp only [List.map_cons, sizes, List.length_cons, List.sum_cons]
    omega

end Expr

namespace Construction

open OlapFormula.Expr Node

variable {settings : Settings} {model : Model}

/-- The node is no larger than the expression allows, and if it is a list, the expression has two words for
each element. -/
structure IsSized (e : Expr) (node : Node) : Prop where
  size : node.size ≤ sizeBound e.copyDepth e.weight
  elements : ∀ elements, Rewriting.elements? node = some elements → 2 * elements.length + 1 ≤ e.weight

/-- The first operand or argument of a call that copies has copies of a lesser depth in it. -/
lemma copyDepth_lt_of_copies {e first : Expr} {rest : List Expr} {name : String} {item : FunctionItem}
    (hname : e.callName = some name) (hitem : item ∈ Catalog.variants name)
    (hcopies : item.kind.copies = true) (hchildren : e.children = first :: rest) :
    first.copyDepth + 1 ≤ e.copyDepth := by
  have hname' : Catalog.copies name = true := List.any_eq_true.mpr ⟨item, hitem, hcopies⟩
  rw [copyDepth_of_callName hname, hname', hchildren, List.map_cons]
  exact lt_depthOver ..

/-- What is not larger than its arguments together is not too large. -/
lemma size_le_of_small {e : Expr} {name : String} (hname : e.callName = some name) {f : Expr → Node}
    (hsize : ∀ child ∈ e.children, (f child).size ≤ sizeBound child.copyDepth child.weight) {size : Nat}
    (h : size ≤ 1 + sizes (e.children.map f) + e.children.length) :
    size ≤ sizeBound e.copyDepth e.weight :=
  calc size ≤ 1 + sizes (e.children.map f) + e.children.length := h
    _ ≤ sizeBound e.copyDepth (1 + (e.children.map weight).sum) :=
      sizes_map_le hsize fun _ => copyDepth_le_of_mem_children
    _ ≤ sizeBound e.copyDepth e.weight := sizeBound_mono le_rfl (sum_weight_children_lt hname)

lemma size_le_of_isShare {e : Expr} {name : String} {item : FunctionItem} {f : Expr → Node}
    (hname : e.callName = some name) (hitem : item ∈ Catalog.variants name)
    (hshare : item.kind.isShare = true)
    (hsize : ∀ child ∈ e.children, (f child).size ≤ sizeBound child.copyDepth child.weight)
    (hargs : ∀ arg ∈ e.children.map f, IsNormal settings.dateOrder arg) :
    ((Node.call item.kind (e.children.map f)).lowerRoot settings.dateOrder).size ≤
      sizeBound e.copyDepth e.weight := by
  rcases size_lowerRoot_share_le hargs hshare with hsmall | ⟨base, axes, hsplit, hlarge⟩
  · exact size_le_of_small hname hsize (hsmall.trans (Nat.le_add_right ..))
  · obtain ⟨first, rest, hchildren, rfl, rfl⟩ := List.map_eq_cons_iff.mp hsplit
    have hcopies : item.kind.copies = true := by rw [FunctionKind.copies, hshare, Bool.or_true]
    have hdepth := copyDepth_lt_of_copies hname hitem hcopies hchildren
    have hfirst := hsize first (hchildren ▸ List.mem_cons_self ..)
    have htwice := two_mul_sizeBound_le first.weight_pos first.copyDepth rest.length
    have hweight : first.weight + rest.length + 3 ≤ e.weight := by
      obtain ⟨args, rfl⟩ := exists_call_of_isSurface hname hitem (FunctionKind.isSurface_of_isShare hshare)
      rw [children] at hchildren
      rw [weight_call, hchildren, List.map_cons, List.sum_cons, List.length_cons]
      omega
    have hbound := sizeBound_mono hdepth hweight
    rw [List.length_map] at hlarge
    omega

lemma size_le_of_isMembership {e : Expr} {name : String} {item : FunctionItem} {f : Expr → Node}
    (hname : e.callName = some name) (hitem : item ∈ Catalog.variants name)
    (hmember : item.kind.isMembership = true) (hsized : ∀ child ∈ e.children, IsSized child (f child))
    (hargs : ∀ arg ∈ e.children.map f, IsNormal settings.dateOrder arg) :
    ((Node.call item.kind (e.children.map f)).lowerRoot settings.dateOrder).size ≤
      sizeBound e.copyDepth e.weight := by
  rcases size_lowerRoot_membership_le hargs hmember with
    hsmall | ⟨subject, list, elements, hsplit, helements, hlarge⟩
  · exact size_le_of_small hname (fun child hchild => (hsized child hchild).size)
      (hsmall.trans (Nat.le_add_right ..))
  · obtain ⟨first, rest, hchildren, rfl, hrest⟩ := List.map_eq_cons_iff.mp hsplit
    obtain ⟨second, rfl, rfl⟩ := List.map_eq_singleton_iff.mp hrest
    have hcopies : item.kind.copies = true := by rw [FunctionKind.copies, hmember, Bool.true_or]
    have hdepth := copyDepth_lt_of_copies hname hitem hcopies hchildren
    have hfirst := (hsized first (by simp [hchildren])).size
    have hsecond := hsized second (by simp [hchildren])
    have hdepth' : second.copyDepth ≤ e.copyDepth := copyDepth_le_of_mem_children (by simp [hchildren])
    have hweight := sum_weight_children_lt hname
    simp only [hchildren, List.map_cons, List.map_nil, List.sum_cons, List.sum_nil,
      Nat.add_zero, ← Nat.add_assoc] at hweight
    obtain ⟨depth, hd⟩ : ∃ depth, e.copyDepth = depth + 1 := ⟨e.copyDepth - 1, by omega⟩
    rw [hd] at hdepth hdepth' ⊢
    have hsubject := hfirst.trans (sizeBound_mono (Nat.le_of_succ_le_succ hdepth) le_rfl)
    have hlist := hsecond.size.trans (sizeBound_mono hdepth' le_rfl)
    calc ((Node.call item.kind (e.children.map f)).lowerRoot settings.dateOrder).size
        ≤ elements.length * ((f first).size + 2) + (f second).size := hlarge
      _ ≤ elements.length * (sizeBound depth first.weight + 2) + sizeBound (depth + 1) second.weight :=
        Nat.add_le_add (Nat.mul_le_mul_left _ (Nat.add_le_add_right hsubject 2)) hlist
      _ ≤ sizeBound (depth + 1) (1 + first.weight + second.weight) :=
        mul_sizeBound_le first.weight_pos (hsecond.elements elements helements)
      _ ≤ sizeBound (depth + 1) e.weight := sizeBound_mono le_rfl hweight

lemma one_le_sizeBound (e : Expr) : 1 ≤ sizeBound e.copyDepth e.weight :=
  sizeBound_mono (Nat.zero_le e.copyDepth) e.weight_pos

lemma elements?_ofField (model : Model) (reference : FieldReference) :
    Rewriting.elements? (ofField model reference).1 = none := by
  rcases ofField_node model reference with hnode | ⟨dimension, hnode⟩
  · rw [hnode]
    rfl
  · rw [hnode]
    rfl

lemma size_ofField (model : Model) (reference : FieldReference) :
    (ofField model reference).1.size = 1 := by
  rcases ofField_node model reference with hnode | ⟨dimension, hnode⟩
  · rw [hnode]
    rfl
  · rw [hnode]
    rfl

/-- What is built of an expression is no larger than the expression allows. -/
lemma isTranslation_isSized (settings : Settings) (model : Model) :
    IsTranslation settings model IsSized where
  const e value := ⟨one_le_sizeBound e, nofun⟩
  field e reference := by
    refine ⟨(size_ofField model reference).trans_le (one_le_sizeBound e), fun elements h => ?_⟩
    rw [elements?_ofField] at h
    cases h
  list items f hitems := by
    have hsize := sizes_map_le (fun item hitem => (hitems item hitem).size)
      fun item hitem => copyDepth_le_of_mem_children (show item ∈ (Expr.list items).children from hitem)
    have hweight : 1 + (items.map weight).sum ≤ (Expr.list items).weight := by
      rw [weight_list]
      exact Nat.le_add_right ..
    constructor
    · rw [size_list]
      exact (Nat.le_add_right ..).trans (hsize.trans (sizeBound_mono le_rfl hweight))
    · intro elements helements
      cases (elements?_list (items.map f)).symm.trans helements
      have hlength := length_le_sum_weight items
      rw [weight_list, List.length_map]
      omega
  call e name item f hname hresolves hsized hargs := by
    constructor
    · by_cases hshare : item.kind.isShare = true
      · rw [FunctionKind.prepare_eq_self (Or.inl (FunctionKind.isSurface_of_isShare hshare))]
        exact size_le_of_isShare hname hresolves.mem_variants hshare
          (fun child hchild => (hsized child hchild).size) hargs
      · by_cases hmember : item.kind.isMembership = true
        · rw [FunctionKind.prepare_eq_self (Or.inr hmember)]
          exact size_le_of_isMembership hname hresolves.mem_variants hmember hsized hargs
        · have hkind : item.kind.copies = false := by simp [FunctionKind.copies, hshare, hmember]
          have hsmall := size_lowerRoot_le (isNormal_prepare item.kind hargs) hkind
          rw [List.length_map] at hsmall
          exact size_le_of_small hname (fun child hchild => (hsized child hchild).size) hsmall
    · intro elements helements
      obtain ⟨child, hchild, hnode⟩ := exists_child_of_elements? hargs helements
      rw [← hnode] at helements
      have hcount := (hsized child hchild).elements elements helements
      have hweight := sum_weight_children_lt hname
      have hchild := weight_le_sum hchild
      omega

lemma size_checkRoot_le (order : DateOrder) (root : Node) :
    (checkRoot order root).1.size ≤ root.size + 2 := by
  refine measure_checkRoot_le isMonotone_size (fun kind arg => ?_) order root
  simp only [size, sizes]
  omega

end Construction

lemma Expr.sizeBound_add_two_le (depth : Nat) {weight : Nat} (h : 0 < weight) :
    sizeBound depth weight + 2 ≤ (weight + 2) ^ (1 + max 1 depth) := by
  by_cases hdepth : depth = 0
  · rw [hdepth, sizeBound_zero]
    have hsquare : (weight + 2) ^ (1 + max 1 0) = weight ^ 2 + 4 * weight + 4 := by
      rw [Nat.max_zero]
      ring
    omega
  · have hexponent : 1 + max 1 depth = depth + 1 := by omega
    have hsum : weight ^ (depth + 1) + 2 ^ (depth + 1) ≤ (weight + 2) ^ (depth + 1) :=
      pow_add_pow_le (Nat.zero_le _) (Nat.zero_le _) (Nat.succ_ne_zero depth)
    have htwo : 2 ≤ 2 ^ (depth + 1) := Nat.le_self_pow (Nat.succ_ne_zero depth) 2
    rw [sizeBound_of_ne_zero hdepth, hexponent]
    omega

namespace Compiler

/-- The root of an accepted formula has no more nodes than the square of the number of lexemes and two, if
nothing is copied that holds copies itself. In general the exponent is by one greater than the number of
calls that copy one another. -/
theorem size_root_le {compiler : Compiler} {editing : Option String} {text : String}
    {compiled : CompiledFormula} (h : compiler.compile editing text = .ok compiled) :
    ∃ e, Expr.parse compiler.settings.limits text = .ok e ∧
      compiled.root.size ≤ ((Lexeme.scan text.toList).length + 2) ^ (1 + max 1 e.copyDepth) := by
  obtain ⟨e, hparse, hmessages, -, hroot⟩ := exists_build h
  have hsized := ((isTranslation_isSized compiler.settings compiler.model).build e hmessages).size
  have hcast := size_checkRoot_le compiler.settings.dateOrder
    (build compiler.settings compiler.model e).1
  have hweight := Expr.weight_le_of_parse hparse
  refine ⟨e, hparse, ?_⟩
  calc compiled.root.size
      ≤ (build compiler.settings compiler.model e).1.size + 2 := by rwa [hroot]
    _ ≤ Expr.sizeBound e.copyDepth e.weight + 2 := Nat.add_le_add_right hsized 2
    _ ≤ (e.weight + 2) ^ (1 + max 1 e.copyDepth) := Expr.sizeBound_add_two_le _ e.weight_pos
    _ ≤ ((Lexeme.scan text.toList).length + 2) ^ (1 + max 1 e.copyDepth) :=
      Nat.pow_le_pow_left (Nat.add_le_add_right hweight 2) _

/-- Each of the shares doubles what is in it. -/
theorem exists_blown_up :
    let compiler : Compiler := { model := .ofMembers .hana [] [{ id := "Sales" }] }
    let share := "PERCENTOFGRANDTOTAL("
    let text := share ++ share ++ share ++ share ++ share ++ share ++ share ++ share ++
      "[Sales]" ++ "))))))))"
    ∃ compiled, compiler.compile none text = .ok compiled ∧
      ((Lexeme.scan text.toList).length + 2) ^ 2 < compiled.root.size := by
  intro compiler share text
  exact exists_compiled_and (by decide +kernel)

theorem size_root_le_of_memberships :
    let compiler : Compiler := { model := .ofMembers .hana [] [{ id := "Sales" }] }
    let text := "IF([Sales] + PERCENTOFGRANDTOTAL([Sales]) IN \x7b1, 2, 3\x7d, 1, 2)"
    ∃ compiled, compiler.compile none text = .ok compiled ∧
      ∃ e, Expr.parse compiler.settings.limits text = .ok e ∧
        compiled.root.size ≤ ((Lexeme.scan text.toList).length + 2) ^ (1 + max 1 e.copyDepth) := by
  intro compiler text
  obtain ⟨compiled, hcompiled⟩ := exists_compiled
    (show (compiler.compile none text).isOk = true by decide +kernel)
  exact ⟨compiled, hcompiled, size_root_le hcompiled⟩

end Compiler

end OlapFormula
