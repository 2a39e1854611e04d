import OlapFormula.Proofs.Checks.Passing
import OlapFormula.Proofs.Lowering.Measures

/-!
# Types of lowered calls

Types are read off the nodes, so lowering may change them. Apart from `IF`, a function has values of one type,
and whatever a call of it is lowered to has that type or a subtype. `IF` is lowered to a branch, and its
branches are alike.
-/

namespace OlapFormula

namespace DataType

variable {a b result : DataType}

lemma isSubtypeOf_refl (type : DataType) : type.isSubtypeOf type = true := by
  cases type <;> rfl

lemma isSubtypeOf_iff : a.isSubtypeOf b = true ↔ a = b ∨ a.parent = some b := by
  simp only [isSubtypeOf, ancestors, List.contains_cons, Bool.or_eq_true, beq_iff_eq, List.contains_iff_mem,
    Option.mem_toList, eq_comm (a := b)]

/-- There are no types under that of measures. -/
lemma isSubtypeOf_measure : a.isSubtypeOf .measure = true ↔ a = .measure := by
  cases a <;> decide

/-- Of the types under one type that is neither that of dimensions nor that of lists, different ones are
numeric. -/
lemma eq_or_isNumeric_of_parent (ha : a.parent = some result) (hb : b.parent = some result)
    (hdimension : result ≠ .dimension) (hlist : result ≠ .list) :
    a = b ∨ a.isNumeric = true ∧ b.isNumeric = true := by
  cases a <;> cases ha <;> cases b <;> first
    | exact Or.inl rfl
    | exact Or.inr ⟨rfl, rfl⟩
    | exact absurd rfl hdimension
    | exact absurd rfl hlist
    | cases hb

lemma areCompatible_of_isNumeric (flags : FeatureFlags) (ha : a.isNumeric = true)
    (hb : b.isNumeric = true) : flags.areCompatible a b = true := by
  have hcovers {type : DataType} (h : type.isNumeric = true) :
      CompatibilityGroup.numberLike.covers flags type = true := by
    cases type <;> first | rfl | cases h
  rw [FeatureFlags.areCompatible, Bool.or_eq_true, List.any_eq_true]
  exact Or.inr ⟨.numberLike, by decide, by rw [hcovers ha, hcovers hb]; rfl⟩

end DataType

namespace FunctionKind

/-- The type of the values of a function. That of `IF` depends on its branches. -/
def resultType : FunctionKind → DataType
  | equal | notEqual | less | lessEqual | greater | greaterEqual | isIn | notIn | and | or | not
  | isNullHana | isNullBw | like => .boolean
  | upper | lower | concat | substring | replace => .string
  | restrict | grandTotal | subtotal | subtotalByIds | percentOfGrandTotal | percentOfSubtotal => .measure
  | ifThen => .any
  | _ => .number

lemma resultType_ne_any {kind : FunctionKind} (h : kind ≠ .ifThen) : kind.resultType ≠ .any := by
  cases kind <;> first | decide | exact absurd rfl h

lemma resultType_of_olap {kind : FunctionKind} (h : kind.category = .olap) : kind.resultType = .measure := by
  cases kind <;> first | rfl | cases h

/-- Types of values of one function go together. -/
lemma related_of_resultType (flags : FeatureFlags) {kind : FunctionKind} {a b : DataType}
    (ha : a.isSubtypeOf kind.resultType = true) (hb : b.isSubtypeOf kind.resultType = true) :
    b.isSubtypeOf a = true ∨ a.isSubtypeOf b = true ∨ flags.areCompatible a b = true := by
  rcases DataType.isSubtypeOf_iff.mp ha with rfl | ha
  · exact Or.inl hb
  rcases DataType.isSubtypeOf_iff.mp hb with rfl | hb
  · exact Or.inr (Or.inl (DataType.isSubtypeOf_iff.mpr (Or.inr ha)))
  have hresult : kind.resultType ≠ .dimension ∧ kind.resultType ≠ .list := by
    cases kind <;> decide
  rcases DataType.eq_or_isNumeric_of_parent ha hb hresult.1 hresult.2 with rfl | ⟨ha, hb⟩
  · exact Or.inl (DataType.isSubtypeOf_refl a)
  · exact Or.inr (Or.inr (DataType.areCompatible_of_isNumeric flags ha hb))

end FunctionKind

/-- The types of calls are subtypes of the type of the values. -/
lemma callType_isSubtypeOf {kind : FunctionKind} (hkind : kind ≠ .ifThen) (args : List Node)
    (types : List DataType) : (callType kind args types).isSubtypeOf kind.resultType = true := by
  have hnumeric (keepsIntegers : Bool) (types : List DataType) :
      (numericType keepsIntegers types).isSubtypeOf .number = true := by
    unfold numericType
    split_ifs <;> rfl
  cases kind with
  | ifThen => exact absurd rfl hkind
  | _ =>
    unfold callType
    dsimp only
    first
    | exact hnumeric _ _
    | (split_ifs <;> rfl)
    | rfl

namespace Node

variable {order : DateOrder} {kind : FunctionKind} {args : List Node} {value : Node}

lemma type_ofConstants {values : List Literal} {c : Literal} (h : Folding.ofConstants kind values = some c) :
    c.type = kind.resultType := by
  have hnumber {n : Option Decimal} (h : n.map Literal.number = some c) : c.type = .number := by
    obtain ⟨_, -, rfl⟩ := Option.map_eq_some_iff.mp h
    rfl
  have hboolean {b : Option Bool} (h : b.map Literal.boolean = some c) : c.type = .boolean := by
    obtain ⟨_, -, rfl⟩ := Option.map_eq_some_iff.mp h
    rfl
  have hstring {s : Option String} (h : s.map Literal.string = some c) : c.type = .string := by
    obtain ⟨_, -, rfl⟩ := Option.map_eq_some_iff.mp h
    rfl
  have hor {first second : Option Literal} (h : (first <|> second) = some c) :
      first = some c ∨ second = some c := by
    cases first with
    | none => exact Or.inr h
    | some _ => exact Or.inl h
  unfold Folding.ofConstants at h
  cases kind with
  | equal | notEqual => exact (hor h).elim hboolean fun h => (hor h).elim hboolean hboolean
  | less | lessEqual | greater | greaterEqual => exact (hor h).elim hboolean hboolean
  | int => exact (hor h).elim hnumber hnumber
  | length =>
    dsimp only at h
    split at h
    · exact hnumber h
    · cases h
  | upper | lower | concat | substring | replace =>
    dsimp only at h
    split at h
    · exact hstring h
    · cases h
  | _ => first | exact hnumber h | exact hboolean h | cases h

lemma FoldsTo.type_eq (h : FoldsTo order kind args value) (hkind : kind ≠ .ifThen) :
    value.type = kind.resultType := by
  cases h with
  | branch => exact absurd rfl hkind
  | isNull => rfl
  | difference hdate => cases kind <;> first | rfl | cases hdate
  | constants hvalue => exact type_ofConstants hvalue

lemma isSubtypeOf_folded (hkind : kind ≠ .ifThen) (args : List Node) :
    (folded order (.call kind args)).type.isSubtypeOf kind.resultType = true := by
  unfold folded
  cases hfold : (Node.call kind args).fold? order with
  | none => exact callType_isSubtypeOf hkind args _
  | some value =>
    rw [Option.getD_some, (foldsTo_of_fold? hfold).type_eq hkind]
    exact DataType.isSubtypeOf_refl _

/-! ## Rewriting -/

/-- The type of the values that a node has. -/
def resultType : Node → DataType
  | call kind _ => kind.resultType
  | node => node.type

lemma isSubtypeOf_resultType {node : Node} (h : node.resultType ≠ .any) :
    node.type.isSubtypeOf node.resultType = true := by
  cases node with
  | call kind args =>
    refine callType_isSubtypeOf ?_ args _
    rintro rfl
    exact h rfl
  | const _ | constList _ | dimension _ | measure _ | array _ | restricted _ =>
    exact DataType.isSubtypeOf_refl _

/-- What rewriting makes of normal forms keeps the type of its values while it is lowered. -/
lemma isSubtypeOf_bottomUp_prepared {C : Node → Prop} {node : Node}
    (h : Prepared (IsNormal order) C node) (hnode : node.resultType ≠ .any) (budget : Nat) :
    (bottomUp (lowerWithin order budget) node).type.isSubtypeOf node.resultType = true := by
  cases h with
  | part hnormal =>
    rw [hnormal.bottomUp_eq]
    exact isSubtypeOf_resultType hnode
  | @call kind args hkind _ =>
    rw [bottomUp, lowerWithin_of_rewrite? (hkind.isPrimitive order _)]
    exact isSubtypeOf_folded hkind.ne_ifThen _
  | @comparison kind args hkind _ hargs =>
    rw [bottomUp, bottomUps_eq_self fun arg harg => (hargs arg harg).bottomUp_eq budget]
    have hother : kind ≠ .ifThen := by
      rintro rfl
      cases hkind
    rcases lowerWithin_comparison_eq hkind args budget with hlowered | ⟨_, _, _, -, hlowered⟩
    · rw [hlowered]
      exact isSubtypeOf_folded hother args
    · rw [hlowered]
      exact callType_isSubtypeOf hother _ _

lemma resultType_ofMembership (excluded : Bool) (subject : Node) (elements : List Node) :
    (Rewriting.ofMembership excluded subject elements).resultType = .boolean := by
  match elements with
  | [] => rfl
  | [_] | _ :: _ :: _ => cases excluded <;> rfl

/-- A share of a total is a measure, since the total is one. -/
lemma type_bottomUp_share (base : Node) {total : Node} {budget : Nat}
    (h : (bottomUp (lowerWithin order budget) total).type = .measure) :
    (bottomUp (lowerWithin order budget) (.call .divide [base, total])).type = .measure := by
  rw [bottomUp, bottomUps, bottomUps, bottomUps, lowerWithin_of_rewrite? rfl, folded]
  generalize bottomUp (lowerWithin order budget) base = first
  generalize bottomUp (lowerWithin order budget) total = second at h
  cases hfold : (Node.call .divide [first, second]).fold? order with
  | none => simp [type, types, callType, numericType, h]
  | some value =>
    have hfolds := foldsTo_of_fold? hfold
    generalize hargs : [first, second] = args at hfolds
    cases hfolds with
    | difference hdate => cases hdate
    | constants =>
      have hmem : second ∈ [first, second] := List.mem_cons_of_mem first (List.mem_singleton_self second)
      rw [hargs] at hmem
      obtain ⟨c, -, rfl⟩ := List.mem_map.mp hmem
      cases c <;> cases h

/-- Whatever a call is lowered to, it has the type of the values of the function or a subtype. -/
theorem isSubtypeOf_lowerRoot (hkind : kind ≠ .ifThen) (hargs : ∀ arg ∈ args, IsNormal order arg) :
    (lowerRoot order (.call kind args)).type.isSubtypeOf kind.resultType = true := by
  cases hrewrite : (Node.call kind args).rewrite? order with
  | none =>
    rw [lowerRoot, lowerWithin_of_rewrite? hrewrite]
    exact isSubtypeOf_folded hkind args
  | some rewritten =>
    rw [lowerRoot_of_rewrite? hrewrite]
    have hvalues (hresult : rewritten.resultType = kind.resultType) :
        (bottomUp (lowerWithin order 15) rewritten).type.isSubtypeOf kind.resultType = true := by
      rw [← hresult]
      exact isSubtypeOf_bottomUp_prepared (prepared_of_rewrite? hargs hrewrite)
        (hresult ▸ FunctionKind.resultType_ne_any hkind) 15
    have htotal {total : Node} (hprepared : Prepared (IsNormal order) (fun _ => True) total)
        (hmeasure : total.resultType = .measure) :
        (bottomUp (lowerWithin order 15) total).type = .measure := by
      have hsubtype := isSubtypeOf_bottomUp_prepared hprepared (by rw [hmeasure]; decide) 15
      rwa [hmeasure, DataType.isSubtypeOf_measure] at hsubtype
    -- Only shares become calls of another type, quotients, which are measures because of the total.
    cases rewritesTo_of_rewrite? hrewrite with
    | isIn | notIn => exact hvalues (resultType_ofMembership ..)
    | key | days | restrict | subtotal => exact hvalues rfl
    | difference _ _ _ granularity => exact hvalues (by cases granularity <;> rfl)
    | shareOfGrandTotal base =>
      have hbase : Prepared (IsNormal order) (fun _ => True) base :=
        .part (hargs base (List.mem_cons_self ..))
      have hprepared : Prepared (IsNormal order) (fun _ => True) (.call .grandTotal [base]) :=
        .call rfl (by simpa using hbase)
      rw [type_bottomUp_share base (htotal hprepared rfl)]
      rfl
    | @shareOfSubtotal base _ ids =>
      have hbase : Prepared (IsNormal order) (fun _ => True) base :=
        .part (hargs base (List.mem_cons_self ..))
      have hprepared : Prepared (IsNormal order) (fun _ => True)
          (.call .subtotalByIds [base, .constList ids]) :=
        .call rfl (forall_mem_pair.mpr ⟨hbase, .part (isNormal_constList ids)⟩)
      rw [type_bottomUp_share base (htotal hprepared rfl)]
      rfl

/-- The type of `IF` is that of the first branch, or that of the second if nothing is known of the first. -/
lemma type_ifThen (condition value : Node) (otherwise : List Node) :
    (Node.call .ifThen (condition :: value :: otherwise)).type =
      if value.type = .unknown then (otherwise.head?.getD .null).type else value.type := by
  rw [type, callType, types, types]
  cases otherwise with
  | nil => cases value.type <;> rfl
  | cons other rest => cases value.type <;> rfl

end Node

namespace Construction

variable {settings : Settings} {name : String} {item : FunctionItem} {args : List Node}

/-- The branches of an `IF` that passes are alike. -/
lemma Passes.branches_agree (hitem : item ∈ Catalog.items) (hkind : item.kind = .ifThen)
    {condition value other : Node} {rest : List Node}
    (h : Passes settings name item (condition :: value :: other :: rest)) :
    settings.flags.agree value.type other.type = true := by
  have halike : (Catalog.itemOf .ifThen).AreAlike settings.flags _ :=
    (Checks.hasErrors_sameType.mp (passes_iff.mp h .sameType)).of_kind_eq hitem (Catalog.itemOf_mem .ifThen)
      (hkind.trans (Catalog.kind_itemOf .ifThen).symm)
  exact halike 2 { types := [.any], optional := true, sameTypeAs := some 1 } 1 other.type value.type
    rfl rfl rfl rfl

/-- `IF` is lowered to a branch of an unknown type or of one that goes with that of the call. -/
lemma Passes.type_lowerRoot_ifThen (hitem : item ∈ Catalog.items) (hkind : item.kind = .ifThen)
    (hpasses : Passes settings name item args) (order : DateOrder) :
    let before := (Node.call .ifThen args).type
    let after := ((Node.call .ifThen args).lowerRoot order).type
    after = .unknown ∨ after.isSubtypeOf before = true ∨ settings.flags.areCompatible before after = true := by
  intro before after
  have hafter : after = (Node.folded order (.call .ifThen args)).type := by
    rw [← Node.lowerWithin_of_rewrite? rfl]
    rfl
  rw [hafter, Node.folded]
  cases hfold : (Node.call .ifThen args).fold? order with
  | none => exact Or.inr (Or.inl (DataType.isSubtypeOf_refl _))
  | some branch =>
    cases Node.foldsTo_of_fold? hfold with
    | branch condition value otherwise =>
      have hbefore := Node.type_ifThen (.boolean condition) value otherwise
      change before = _ at hbefore
      -- If nothing is known of the first branch, the call has the type of the second already.
      by_cases hvalue : value.type = .unknown
      · rw [if_pos hvalue] at hbefore
        cases condition with
        | true => exact Or.inl hvalue
        | false =>
          rw [hbefore]
          cases otherwise with
          | nil => exact Or.inl rfl
          | cons other rest => exact Or.inr (Or.inl (DataType.isSubtypeOf_refl _))
      · rw [if_neg hvalue] at hbefore
        rw [hbefore]
        cases condition with
        | true => exact Or.inr (Or.inl (DataType.isSubtypeOf_refl _))
        | false =>
          cases otherwise with
          | nil => exact Or.inl rfl
          | cons other rest =>
            have hagree := hpasses.branches_agree hitem hkind
            rw [FeatureFlags.agree, beq_false_of_ne hvalue, Bool.false_or, Bool.or_eq_true,
              beq_iff_eq] at hagree
            exact hagree.imp_right Or.inr
    | difference hdate => cases hdate
    | constants hvalue => cases hvalue

/-- A call that passes is lowered to something of an unknown type or of one that goes with that of the call,
and an OLAP call to a measure. -/
theorem Passes.type_lowerRoot (hitem : item ∈ Catalog.items) (hpasses : Passes settings name item args)
    (hargs : ∀ arg ∈ args, Node.IsNormal settings.dateOrder arg) :
    let before := (Node.call item.kind args).type
    let after := ((Node.call item.kind args).lowerRoot settings.dateOrder).type
    (after = .unknown ∨ after.isSubtypeOf before = true ∨ before.isSubtypeOf after = true ∨
      settings.flags.areCompatible before after = true) ∧
      (item.category = .olap → before = .measure ∧ after = .measure) := by
  intro before after
  by_cases hkind : item.kind = .ifThen
  · refine ⟨?_, fun holap => ?_⟩
    · have hrelated := hpasses.type_lowerRoot_ifThen hitem hkind settings.dateOrder
      rw [← hkind] at hrelated
      exact hrelated.imp_right (Or.imp_right Or.inr)
    · rw [FunctionItem.category, hkind] at holap
      cases holap
  · have hbefore : before.isSubtypeOf item.kind.resultType = true := callType_isSubtypeOf hkind args _
    have hafter := Node.isSubtypeOf_lowerRoot hkind hargs
    refine ⟨Or.inr (FunctionKind.related_of_resultType settings.flags hbefore hafter), fun holap => ?_⟩
    rw [FunctionKind.resultType_of_olap holap, DataType.isSubtypeOf_measure] at hbefore hafter
    exact ⟨hbefore, hafter⟩

/-- The share of a grand total is lowered to a quotient, and that is a measure. -/
theorem Passes.type_lowerRoot_of_share :
    let call := Node.call .percentOfGrandTotal [.measure ⟨.measure "Sales", some { id := "Sales" }⟩]
    call.type = .measure ∧ (call.lowerRoot .monthFirst).type = .measure := by
  have hpasses : Passes {} "PERCENTOFGRANDTOTAL" (Catalog.itemOf .percentOfGrandTotal)
      [.measure ⟨.measure "Sales", some { id := "Sales" }⟩] :=
    passes_iff.mpr fun check => by cases check <;> rfl
  have hnormal : ∀ arg ∈ [Node.measure ⟨.measure "Sales", some { id := "Sales" }⟩],
      Node.IsNormal .monthFirst arg := by
    rintro _ (_ | ⟨_, ⟨⟩⟩)
    exact Node.isNormal_measure _
  exact (hpasses.type_lowerRoot (Catalog.itemOf_mem _) hnormal).2 rfl

end Construction

end OlapFormula
