import Mathlib.Algebra.Order.BigOperators.Group.List
import Mathlib.Algebra.Order.Ring.Nat
import OlapFormula.Proofs.Checks.Surface
import OlapFormula.Proofs.Lowering.Measures

/-!
# How large lowering makes a call

Most calls are lowered to something of about their own size. Only membership copies its subject, once for
each element, and the shares of totals copy their measure once.
-/

namespace OlapFormula

/-- The number of members that filters select. -/
def MemberFilter.valueCount (filters : List MemberFilter) : Nat := (filters.map (·.values.length)).sum

namespace Node

mutual

/-- The number of nodes, the elements of lists and the members of filters among them. -/
def size : Node → Nat
  | constList values => 1 + values.length
  | call _ args => 1 + sizes args
  | array items => 1 + sizes items
  | restricted derived => 1 + MemberFilter.valueCount derived.filters
  | _ => 1

def sizes : List Node → Nat
  | [] => 0
  | node :: nodes => size node + sizes nodes

end

lemma sizes_eq_sum (nodes : List Node) : sizes nodes = (nodes.map size).sum := by
  induction nodes with
  | nil => rfl
  | cons node nodes ih => simp [sizes, ih]

lemma size_pos (node : Node) : 0 < node.size := by
  cases node with
  | const _ | dimension _ | measure _ => exact Nat.one_pos
  | constList _ | call _ _ | array _ | restricted _ => exact Nat.add_pos_left Nat.one_pos _

lemma size_le_sizes {nodes : List Node} {node : Node} (h : node ∈ nodes) : node.size ≤ sizes nodes := by
  rw [sizes_eq_sum]
  exact List.single_le_sum (by simp) _ (List.mem_map_of_mem h)

lemma length_le_sizes (nodes : List Node) : nodes.length ≤ sizes nodes := by
  rw [sizes_eq_sum, ← List.length_map size]
  exact List.length_le_sum_of_one_le _ (List.forall_mem_map.mpr fun node _ => node.size_pos)

lemma sizes_map_le {nodes : List Node} {f : Node → Node} (h : ∀ node ∈ nodes, (f node).size ≤ node.size) :
    sizes (nodes.map f) ≤ sizes nodes := by
  rw [sizes_eq_sum, sizes_eq_sum, List.map_map]
  exact List.sum_le_sum h

lemma sizes_const (values : List Literal) : sizes (values.map .const) = values.length := by
  induction values with
  | nil => rfl
  | cons value values ih =>
    simp only [List.map_cons, sizes, size, ih, List.length_cons]
    omega

lemma size_of_elements? {list : Node} {elements : List Node}
    (h : Rewriting.elements? list = some elements) : list.size = 1 + sizes elements := by
  unfold Rewriting.elements? at h
  split at h
  · cases h
    rw [size, sizes_const]
  · cases h
    rfl
  · cases h

lemma size_list (items : List Node) : (list items).size = 1 + sizes items :=
  size_of_elements? (elements?_list items)

lemma isMonotone_size : IsMonotone size where
  const _ _ _ _ := Nat.le_add_right ..
  arg _ _ _ harg := (size_le_sizes harg).trans (Nat.le_add_left ..)
  map _ _ _ h := Nat.add_le_add_left (sizes_map_le h) 1
  key _ _ _ _ := le_rfl

end Node

open Node

namespace Selection

open MemberFilter

lemma length_ofFilters?_le {nodes : List Node} {selections : List Selection}
    (hnodes : ∀ node ∈ nodes, ∀ found, ofFilter? node = some found → found.length ≤ node.size)
    (h : ofFilters? nodes = some selections) : selections.length ≤ sizes nodes := by
  induction nodes generalizing selections with
  | nil =>
    cases h
    exact le_rfl
  | cons node nodes ih =>
    simp only [ofFilters?, Option.bind_eq_bind, Option.bind_eq_some_iff, Option.pure_def,
      Option.some.injEq] at h
    obtain ⟨first, hfirst, rest, hrest, rfl⟩ := h
    rw [List.forall_mem_cons] at hnodes
    rw [List.length_append]
    exact Nat.add_le_add (hnodes.1 first hfirst) (ih hnodes.2 hrest)

lemma length_ofFilter?_le {node : Node} {selections : List Selection}
    (h : ofFilter? node = some selections) : selections.length ≤ node.size := by
  induction node using Node.induction generalizing selections with
  | call kind args ih =>
    have hargs (h : ofFilters? args = some selections) : selections.length ≤ 1 + sizes args :=
      (length_ofFilters?_le (fun arg harg _ => ih arg harg) h).trans (Nat.le_add_left ..)
    unfold ofFilter? at h
    split at h
    · next heq => cases heq; exact hargs h
    · next heq => cases heq; exact hargs h
    · split at h
      · cases h
      · cases h
        exact Nat.le_add_right ..
    · cases h
  | const _ | constList _ | dimension _ | measure _ | array _ _ | restricted _ => cases h

lemma length_flatten_le (node : Node) : (flatten node).length ≤ node.size := by
  unfold flatten
  cases hfilter : ofFilter? node with
  | none => exact Nat.zero_le _
  | some selections => exact length_ofFilter?_le hfilter

lemma valueCount_addTo_le (selection : Selection) (filters : List MemberFilter) :
    valueCount (addTo selection filters) ≤ valueCount filters + 1 := by
  induction filters with
  | nil => exact le_rfl
  | cons filter filters ih =>
    unfold addTo
    split
    · split
      · exact Nat.le_add_right ..
      · simp only [valueCount, List.map_cons, List.sum_cons, List.length_append, List.length_singleton]
        omega
    · simp only [valueCount, List.map_cons, List.sum_cons] at ih ⊢
      omega

lemma valueCount_group_le (selections : List Selection) :
    valueCount (group selections) ≤ selections.length := by
  have hall (filters : List MemberFilter) :
      valueCount (selections.foldl (fun filters selection => addTo selection filters) filters) ≤
        valueCount filters + selections.length := by
    induction selections generalizing filters with
    | nil => exact le_rfl
    | cons selection selections ih =>
      have hfirst := valueCount_addTo_le selection filters
      have hrest := ih (addTo selection filters)
      rw [List.foldl_cons, List.length_cons]
      omega
  exact (hall []).trans (Nat.zero_add _).le

end Selection

lemma RestrictedMeasure.valueCount_le {base : Node} {filters : List Node} {derived : RestrictedMeasure}
    (h : ofArgs? base filters = some derived) :
    MemberFilter.valueCount derived.filters ≤ sizes filters := by
  obtain ⟨ref, selections, -, hselections, -, rfl⟩ := ofArgs?_eq_some h
  obtain ⟨rfl, -, -⟩ := selectionsOf?_eq_some hselections
  refine (Selection.valueCount_group_le _).trans ?_
  rw [List.length_flatMap, sizes_eq_sum]
  exact List.sum_le_sum fun node _ => Selection.length_flatten_le node

/-! ## Rewriting -/

namespace FunctionKind

def isShare : FunctionKind → Bool
  | percentOfGrandTotal | percentOfSubtotal => true
  | _ => false

lemma isSurface_of_isShare {kind : FunctionKind} (h : kind.isShare = true) : kind.isSurface = true := by
  cases kind <;> first | rfl | cases h

/-- Calls of these kinds are rewritten to something that may hold their first argument more than once. -/
def copies (kind : FunctionKind) : Bool := kind.isMembership || kind.isShare

end FunctionKind

namespace Rewriting

lemma length_dimensionIds? {nodes : List Node} {ids : List Literal} (h : dimensionIds? nodes = some ids) :
    ids.length = nodes.length := by
  induction nodes generalizing ids with
  | nil =>
    cases h
    rfl
  | cons node nodes ih =>
    cases node with
    | dimension ref =>
      obtain ⟨rest, hrest, rfl⟩ := Option.map_eq_some_iff.mp h
      rw [List.length_cons, List.length_cons, ih hrest]
    | const _ | constList _ | measure _ | call _ _ | array _ | restricted _ => cases h

lemma size_joinRight (join : FunctionKind) (first : Node) (rest : List Node) :
    (joinRight join first rest).size = sizes (first :: rest) + rest.length := by
  induction rest generalizing first with
  | nil => simp [joinRight, sizes]
  | cons second rest ih =>
    simp only [joinRight, size, sizes, ih, List.length_cons]
    omega

lemma size_ofMembership_le (excluded : Bool) (subject : Node) (elements : List Node) :
    (ofMembership excluded subject elements).size ≤
      1 + elements.length * (subject.size + 2) + sizes elements := by
  have hcalls (comparison : FunctionKind) :
      sizes (elements.map fun element => .call comparison [subject, element]) =
        elements.length * (subject.size + 1) + sizes elements := by
    induction elements with
    | nil => simp [sizes]
    | cons element elements ih =>
      simp only [List.map_cons, sizes, size, ih, List.length_cons, Nat.add_mul, Nat.one_mul]
      omega
  unfold ofMembership
  dsimp only
  split
  · exact Nat.le_add_right_of_le (Nat.le_add_right ..)
  · next first rest heq =>
    have hlength : elements.length = rest.length + 1 := by
      simpa using congrArg List.length heq
    rw [size_joinRight, ← heq, hcalls, Nat.mul_add, Nat.mul_add]
    omega

end Rewriting

/-- What a call that copies nothing is rewritten to is not much larger than the call. -/
lemma Node.size_rewrite?_le {order : DateOrder} {kind : FunctionKind} (hkind : kind.copies = false)
    {args : List Node} {rewritten : Node} (h : (Node.call kind args).rewrite? order = some rewritten) :
    rewritten.size ≤ 1 + sizes args + args.length := by
  cases rewritesTo_of_rewrite? h with
  | isIn | notIn | shareOfGrandTotal | shareOfSubtotal => cases hkind
  | key => exact Nat.le_add_right ..
  | difference =>
    simp only [size, sizes]
    omega
  | days => exact Nat.le_add_right ..
  | restrict hderived =>
    have hcount := RestrictedMeasure.valueCount_le hderived
    rw [size, sizes]
    omega
  | @subtotal _ axes _ hids =>
    have haxes := length_le_sizes axes
    have hlength := Rewriting.length_dimensionIds? hids
    simp only [size, sizes, List.length_cons]
    omega

namespace Node

lemma size_castInteger_le (node : Node) : node.castInteger.size ≤ node.size + 1 := by
  unfold castInteger
  split
  · split
    · exact le_rfl
    · exact Nat.le_succ _
  · exact Nat.le_succ _

lemma sizes_castIntegers_le (args : List Node) : sizes (castIntegers args) ≤ sizes args + args.length := by
  have hcast : sizes (args.map castInteger) ≤ sizes args + args.length := by
    induction args with
    | nil => exact le_rfl
    | cons arg args ih =>
      have harg := size_castInteger_le arg
      simp only [List.map_cons, sizes, List.length_cons]
      omega
  unfold castIntegers
  split
  · exact hcast
  · exact Nat.le_add_right ..

variable {order : DateOrder} {kind : FunctionKind} {args : List Node}

lemma size_lowerRoot_le_of_none (h : (Node.call kind args).rewrite? order = none) :
    (lowerRoot order (.call kind args)).size ≤ 1 + sizes args :=
  isMonotone_size.lowerRoot_le_of_none h

/-- A call that copies nothing is lowered to something that is not much larger. -/
theorem size_lowerRoot_le (hargs : ∀ arg ∈ kind.prepare args, IsNormal order arg)
    (hkind : kind.copies = false) :
    (lowerRoot order (.call kind (kind.prepare args))).size ≤ 1 + sizes args + args.length := by
  rcases kind.prepare_eq_or args with hprepare | ⟨hprepare, hprimitive⟩
  · rw [hprepare] at hargs ⊢
    cases hrewrite : (Node.call kind args).rewrite? order with
    | none => exact (size_lowerRoot_le_of_none hrewrite).trans (Nat.le_add_right ..)
    | some rewritten =>
      exact (isMonotone_size.lowerRoot_le_of_some hargs hrewrite).trans (size_rewrite?_le hkind hrewrite)
  · rw [hprepare, Nat.add_assoc]
    have hcast := sizes_castIntegers_le args
    exact (size_lowerRoot_le_of_none (hprimitive order _)).trans (Nat.add_le_add_left hcast 1)

/-- Membership copies its subject once for each element. -/
theorem size_lowerRoot_membership_le (hargs : ∀ arg ∈ args, IsNormal order arg)
    (hkind : kind.isMembership = true) :
    (lowerRoot order (.call kind args)).size ≤ 1 + sizes args ∨
      ∃ subject list elements, args = [subject, list] ∧ Rewriting.elements? list = some elements ∧
        (lowerRoot order (.call kind args)).size ≤
          elements.length * (subject.size + 2) + list.size := by
  cases hrewrite : (Node.call kind args).rewrite? order with
  | none => exact Or.inl (size_lowerRoot_le_of_none hrewrite)
  | some rewritten =>
    have hlowered := isMonotone_size.lowerRoot_le_of_some hargs hrewrite
    obtain ⟨excluded, subject, list, elements, rfl, helements, rfl⟩ :=
      rewrite?_membership_eq_some hkind hrewrite
    refine Or.inr ⟨subject, list, elements, rfl, helements, hlowered.trans ?_⟩
    have hsize := Rewriting.size_ofMembership_le excluded subject elements
    rw [size_of_elements? helements]
    omega

/-- The share of a total copies its measure once. -/
theorem size_lowerRoot_share_le (hargs : ∀ arg ∈ args, IsNormal order arg)
    (hkind : kind.isShare = true) :
    (lowerRoot order (.call kind args)).size ≤ 1 + sizes args ∨
      ∃ base axes, args = base :: axes ∧
        (lowerRoot order (.call kind args)).size ≤ 2 * base.size + axes.length + 3 := by
  cases hrewrite : (Node.call kind args).rewrite? order with
  | none => exact Or.inl (size_lowerRoot_le_of_none hrewrite)
  | some rewritten =>
    refine Or.inr ?_
    have hlowered := isMonotone_size.lowerRoot_le_of_some hargs hrewrite
    cases rewritesTo_of_rewrite? hrewrite with
    | shareOfGrandTotal base axes =>
      refine ⟨base, axes, rfl, hlowered.trans ?_⟩
      simp only [size, sizes]
      omega
    | @shareOfSubtotal base axes _ hids =>
      have hlength := Rewriting.length_dimensionIds? hids
      refine ⟨base, axes, rfl, hlowered.trans ?_⟩
      simp only [size, sizes]
      omega
    | isIn | notIn | difference | days | restrict | subtotal => cases hkind
    | key hcomparison =>
      have hsurface := FunctionKind.isSurface_of_isShare hkind
      simp [FunctionKind.not_surface_of_isComparison hcomparison] at hsurface

end Node

end OlapFormula
