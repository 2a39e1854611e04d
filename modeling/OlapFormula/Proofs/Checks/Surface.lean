import OlapFormula.Proofs.Checks.Restrict
import OlapFormula.Proofs.Lowering.Rewriting

/-!
# Surface calls that pass

A call that only formula text has is one that can be rewritten when it has passed the checks. There is one
exception: where `RESTRICT` has an argument of unknown type, nothing is asked of it, and it may be neither a
measure nor a filter.
-/

namespace OlapFormula

namespace FunctionKind

/-- Calls of these kinds stand for other calls or for restricted measures. -/
def isSurface : FunctionKind → Bool
  | dateDiffHana | dateDiffBw | restrict | subtotal | percentOfGrandTotal | percentOfSubtotal => true
  | _ => false

def isMembership : FunctionKind → Bool
  | isIn | notIn => true
  | _ => false

lemma prepare_eq_self {kind : FunctionKind} (h : kind.isSurface = true ∨ kind.isMembership = true)
    (args : List Node) : kind.prepare args = args := by
  cases kind <;> first | rfl | (rcases h with h | h <;> cases h)

lemma not_surface_of_isComparison {kind : FunctionKind} (h : kind.isComparison = true) :
    kind.isSurface = false ∧ kind.isMembership = false := by
  cases kind <;> first | exact ⟨rfl, rfl⟩ | cases h

end FunctionKind

namespace Node

def isList : Node → Bool
  | constList _ | array _ => true
  | _ => false

/-- A call that is written in formulas and that there should be none of when they are lowered. -/
def IsSurface : Node → Prop
  | call kind args =>
    kind.isSurface ∨ kind.isMembership ∧ ∃ list, args[1]? = some list ∧ list.isList
  | _ => False

lemma rewrite?_nil (order : DateOrder) (kind : FunctionKind) :
    (Node.call kind []).rewrite? order = none := by
  cases kind <;> rfl

lemma rewrite?_membership_eq_some {order : DateOrder} {kind : FunctionKind} (hkind : kind.isMembership = true)
    {args : List Node} {rewritten : Node} (h : (Node.call kind args).rewrite? order = some rewritten) :
    ∃ excluded subject list elements, args = [subject, list] ∧
      Rewriting.elements? list = some elements ∧
      rewritten = Rewriting.ofMembership excluded subject elements := by
  cases rewritesTo_of_rewrite? h with
  | isIn helements => exact ⟨false, _, _, _, rfl, helements, rfl⟩
  | notIn helements => exact ⟨true, _, _, _, rfl, helements, rfl⟩
  | key hcomparison => simp [FunctionKind.not_surface_of_isComparison hcomparison] at hkind
  | difference | days | restrict | subtotal | shareOfGrandTotal | shareOfSubtotal => cases hkind

end Node

/-- Of the arguments of `RESTRICT`, the base has an unknown type and is no measure, or a filter has an
unknown type. -/
def RestrictedMeasure.hasUnknownPart : List Node → Bool
  | [] => false
  | .measure _ :: filters => filters.any (·.type == .unknown)
  | base :: filters => base.type == .unknown || filters.any (·.type == .unknown)

namespace Checks

lemma isSome_dimensionIds? {kind : FunctionKind} {seen : List DimensionRef} {nodes : List Node}
    (h : Message.hasErrors (axesAfter kind seen nodes).1 = false) :
    (Rewriting.dimensionIds? nodes).isSome := by
  induction nodes generalizing seen with
  | nil => rfl
  | cons node nodes ih =>
    unfold axesAfter at h
    cases hdimension : node.dimension? with
    | none =>
      rw [hdimension] at h
      simp [Message.hasErrors, Message.isError, MessageCode.severity] at h
    | some ref =>
      have hnode : node = .dimension ref := by
        cases node <;> cases hdimension
        rfl
      have hrest : (Rewriting.dimensionIds? nodes).isSome := by
        simp only [hdimension] at h
        split at h
        · simp [Message.hasErrors, Message.isError, MessageCode.severity] at h
        · exact ih h
      obtain ⟨ids, hids⟩ := Option.isSome_iff_exists.mp hrest
      rw [hnode, Rewriting.dimensionIds?, hids]
      rfl

lemma isSome_subtotal? {kind : FunctionKind} {axes : List Node} (measure : Node)
    (h : Message.hasErrors (Checks.axes kind axes) = false) :
    (Rewriting.subtotal? measure axes).isSome := by
  have haxes : Message.hasErrors (axesAfter kind [] axes).1 = false := by
    unfold Checks.axes at h
    rw [Message.hasErrors_append, Bool.or_eq_false_iff] at h
    exact h.1
  obtain ⟨ids, hids⟩ := Option.isSome_iff_exists.mp (isSome_dimensionIds? haxes)
  rw [Rewriting.subtotal?, hids]
  rfl

lemma exists_granularity {unit : Node} (h : Message.hasErrors (granularity unit) = false) :
    ∃ text known, unit = .string text ∧ Granularity.ofName? text = some known := by
  unfold granularity at h
  dsimp only at h
  split at h
  · next hknown =>
    obtain ⟨known, hfound⟩ := Option.isSome_iff_exists.mp hknown
    obtain ⟨text, htext, hname⟩ := Option.bind_eq_some_iff.mp hfound
    obtain ⟨value, hvalue, hstring⟩ := Option.bind_eq_some_iff.mp htext
    have hunit : unit = .const value := by
      cases unit <;> cases hvalue
      rfl
    have hliteral : value = .string text := by
      cases value <;> cases hstring
      rfl
    exact ⟨text, known, by rw [hunit, hliteral]; rfl, hname⟩
  · simp [Message.hasErrors, Message.isError, MessageCode.severity] at h

/-- A base that passes is a measure if its type is known. -/
lemma exists_measure {base : Node} (h : Message.hasErrors (measureArgument .restrict base) = false)
    (hknown : base.type ≠ .unknown) : ∃ ref, base = .measure ref := by
  unfold measureArgument at h
  split at h
  · exact ⟨_, rfl⟩
  · simp [hknown, Message.hasErrors, Message.isError, MessageCode.severity] at h
  · next hrestrict _ => exact absurd rfl hrestrict

/-- A filter that passes selects something if its type is known. -/
lemma flatten_ne_nil {nodes : List Node} (h : Message.hasErrors (filters nodes) = false)
    {node : Node} (hnode : node ∈ nodes) (hknown : node.type ≠ .unknown) :
    Selection.flatten node ≠ [] := by
  unfold filters at h
  simp only [Message.hasErrors_append, Bool.or_eq_false_iff, Message.hasErrors_flatMap] at h
  have hshape := h.1.1.1 node hnode
  unfold filterShape at hshape
  intro hempty
  simp [hknown, hempty, Message.hasErrors, Message.isError, MessageCode.severity] at hshape

end Checks

namespace Construction

variable {settings : Settings} {name : String} {item : FunctionItem} {args : List Node}

lemma Passes.accepts_itemOf (h : Passes settings name item args) (hitem : item ∈ Catalog.items) :
    (Catalog.itemOf item.kind).arity.accepts args.length = true := by
  obtain ⟨-, harity⟩ := Catalog.contracts_of_kind_eq (Catalog.itemOf_mem item.kind) hitem
    (Catalog.kind_itemOf item.kind)
  rw [harity]
  exact h.accepts

lemma Passes.hasErrors_itemMessages (h : Passes settings name item args) :
    Message.hasErrors (Check.itemMessages item args) = false := passes_iff.mp h .item

/-- A call of `RESTRICT` that passes is a restricted measure unless it has a part of unknown type. -/
theorem ofArgs?_eq_none_iff {base : Node} {filters : List Node}
    (h : Passes settings name (Catalog.itemOf .restrict) (base :: filters)) :
    RestrictedMeasure.ofArgs? base filters = none ↔
      RestrictedMeasure.hasUnknownPart (base :: filters) = true := by
  have hmembers : Message.hasErrors (Checks.members .restrict (base :: filters)) = false :=
    h.hasErrors_itemMessages
  rw [Checks.members, Message.hasErrors_append, Bool.or_eq_false_iff] at hmembers
  obtain ⟨hbase, hfilters⟩ := hmembers
  have hnonempty : filters ≠ [] := by
    rintro rfl
    have hcount : (Catalog.itemOf .restrict).arity.accepts 1 = false := by decide
    exact Bool.false_ne_true (hcount.symm.trans h.accepts)
  constructor
  · intro hnone
    by_contra hknown
    have hall : (∃ ref, base = .measure ref) ∧ ∀ filter ∈ filters, filter.type ≠ .unknown := by
      unfold RestrictedMeasure.hasUnknownPart at hknown
      split at hknown
      · next heq => cases heq
      · next heq =>
        cases heq
        exact ⟨⟨_, rfl⟩, by simpa using hknown⟩
      · next heq =>
        cases heq
        simp only [Bool.or_eq_true, not_or, beq_iff_eq] at hknown
        exact ⟨Checks.exists_measure hbase hknown.1, by simpa using hknown.2⟩
    obtain ⟨⟨ref, rfl⟩, htypes⟩ := hall
    have hselects : ∀ filter ∈ filters, Selection.flatten filter ≠ [] :=
      fun filter hfilter => Checks.flatten_ne_nil hfilters hfilter (htypes filter hfilter)
    rw [RestrictedMeasure.ofArgs?_measure ref hselects hnonempty] at hnone
    cases hnone
  · intro hunknown
    rw [Option.eq_none_iff_forall_ne_some]
    intro derived hderived
    obtain ⟨ref, selections, rfl, hselections, -, -⟩ := RestrictedMeasure.ofArgs?_eq_some hderived
    obtain ⟨-, hselects, -⟩ := RestrictedMeasure.selectionsOf?_eq_some hselections
    obtain ⟨filter, hfilter, htype⟩ := List.any_eq_true.mp hunknown
    exact (Selection.type_of_flatten (hselects filter hfilter)).1 (beq_iff_eq.mp htype)

lemma exists_pair (hcount : (Arity.range 2 (some 0)).accepts args.length = true) :
    ∃ a b, args = [a, b] := by
  apply List.length_eq_two.mp
  simp only [Arity.accepts, Bool.and_eq_true, decide_eq_true_eq, Option.all_some] at hcount
  omega

lemma exists_cons {required : Nat} {optional : Option Nat}
    (hcount : (Arity.range (required + 1) optional).accepts args.length = true) :
    ∃ first rest, args = first :: rest := by
  cases args with
  | nil => simp [Arity.accepts] at hcount
  | cons first rest => exact ⟨first, rest, rfl⟩

lemma isSome_subtotal_of_members {kind : FunctionKind} (hkind : kind = .subtotal ∨ kind = .percentOfSubtotal)
    {base : Node} {axes : List Node}
    (h : Message.hasErrors (Checks.members kind (base :: axes)) = false) :
    (Rewriting.subtotal? base axes).isSome := by
  have hmembers : Checks.members kind (base :: axes) =
      Checks.measureArgument kind base ++ Checks.axes kind axes := by
    rcases hkind with rfl | rfl <;> rfl
  rw [hmembers, Message.hasErrors_append, Bool.or_eq_false_iff] at h
  exact Checks.isSome_subtotal? base h.2

lemma isSome_membership? {excluded : Bool} (hcount : (Arity.range 2 (some 0)).accepts args.length = true)
    (hlist : ∃ list, args[1]? = some list ∧ list.isList) :
    (Rewriting.membership? excluded args).isSome := by
  obtain ⟨list, hsecond, hlist⟩ := hlist
  obtain ⟨subject, other, rfl⟩ := exists_pair hcount
  obtain rfl := Option.some.inj hsecond
  cases other with
  | constList _ | array _ => rfl
  | const _ | dimension _ | measure _ | call _ _ | restricted _ => cases hlist

lemma isSome_dateDifference? (hcount : (Arity.range 2 (some 1)).accepts args.length = true)
    (hconstants : Message.hasErrors (Checks.constants .dateDiffHana args) = false) :
    (Rewriting.dateDifference? args).isSome := by
  have hlength : args.length = 2 ∨ args.length = 3 := by
    simp only [Arity.accepts, Bool.and_eq_true, decide_eq_true_eq, Option.all_some] at hcount
    omega
  rcases hlength with hlength | hlength
  · obtain ⟨a, b, rfl⟩ := List.length_eq_two.mp hlength
    rfl
  · obtain ⟨a, b, unit, rfl⟩ := List.length_eq_three.mp hlength
    obtain ⟨text, known, rfl, hname⟩ := Checks.exists_granularity hconstants
    simp [Rewriting.dateDifference?, Node.string, hname]

/-- Of the surface calls that pass, only those of `RESTRICT` with a part of unknown type cannot be
rewritten. -/
theorem eq_restrict_of_passes {order : DateOrder} (hitem : item ∈ Catalog.items)
    (hpasses : Passes settings name item args) (hsurface : (Node.call item.kind args).IsSurface)
    (hrewrite : (Node.call item.kind args).rewrite? order = none) :
    item.kind = .restrict ∧ RestrictedMeasure.hasUnknownPart args = true := by
  have hcount := hpasses.accepts_itemOf hitem
  have hmessages := hpasses.hasErrors_itemMessages
  unfold Check.itemMessages FunctionItem.category at hmessages
  have hcontra {rewritten : Option Node} (hsome : rewritten.isSome) (hnone : rewritten = none) :
      item.kind = .restrict ∧ RestrictedMeasure.hasUnknownPart args = true := by
    rw [hnone] at hsome
    cases hsome
  cases hkind : item.kind with
  | restrict =>
    obtain rfl := Catalog.eq_itemOf_restrict hitem hkind
    refine ⟨rfl, ?_⟩
    cases args with
    | nil => exact absurd hpasses.accepts (by decide)
    | cons base filters =>
      apply (ofArgs?_eq_none_iff hpasses).mp
      simpa [Node.rewrite?, hkind] using hrewrite
  | isIn | notIn =>
    rw [hkind] at hcount hsurface hrewrite
    exact hkind ▸ hcontra (isSome_membership? hcount (hsurface.resolve_left Bool.false_ne_true).2) hrewrite
  | dateDiffHana =>
    rw [hkind] at hcount hrewrite hmessages
    exact hkind ▸ hcontra (isSome_dateDifference? hcount hmessages) hrewrite
  | dateDiffBw =>
    rw [hkind] at hcount hrewrite
    obtain ⟨a, b, rfl⟩ := exists_pair hcount
    cases hrewrite
  | subtotal =>
    rw [hkind] at hcount hrewrite hmessages
    obtain ⟨base, axes, rfl⟩ := exists_cons hcount
    exact hkind ▸ hcontra (isSome_subtotal_of_members (Or.inl rfl) hmessages) hrewrite
  | percentOfSubtotal =>
    rw [hkind] at hcount hrewrite hmessages
    obtain ⟨base, axes, rfl⟩ := exists_cons hcount
    have htotal := isSome_subtotal_of_members (Or.inr rfl) hmessages
    exact hkind ▸ hcontra htotal (Option.map_eq_none_iff.mp hrewrite)
  | percentOfGrandTotal =>
    rw [hkind] at hcount hrewrite
    obtain ⟨base, rest, rfl⟩ := exists_cons hcount
    cases hrewrite
  | _ =>
    rw [hkind] at hsurface
    rcases hsurface with h | ⟨h, -⟩
    · cases h
    · cases h

end Construction

end OlapFormula
