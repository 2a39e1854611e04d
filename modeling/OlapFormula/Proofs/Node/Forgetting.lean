import OlapFormula.Construction
import OlapFormula.Proofs.Node.Induction
import OlapFormula.Restriction

/-!
# Forgetting a measure

What nodes are in a model that does not have one of the measures. Everything stays where it is, but nothing is
known of the references to that measure, and restricted measures on it have other ids.
-/

namespace OlapFormula

/-- The reference, with nothing known of the measure. -/
def MeasureRef.forget (m : Measure) (ref : MeasureRef) : MeasureRef :=
  if ref.measure = some m then { ref with measure := none } else ref

/-- The restriction of the base of which nothing is known. -/
def RestrictedMeasure.forget (m : Measure) (r : RestrictedMeasure) : RestrictedMeasure :=
  let base := r.base.forget m
  { r with id := idOf base.id r.filters, base }

namespace Node

mutual

def forget (m : Measure) : Node → Node
  | measure ref => measure (ref.forget m)
  | restricted r => restricted (r.forget m)
  | call kind args => call kind (forgets m args)
  | array items => array (forgets m items)
  | node => node

def forgets (m : Measure) : List Node → List Node
  | [] => []
  | node :: nodes => forget m node :: forgets m nodes

end

variable (m : Measure)

lemma forgets_eq_map (nodes : List Node) : forgets m nodes = nodes.map (forget m) := by
  induction nodes with
  | nil => rfl
  | cons node nodes ih => rw [forgets, ih, List.map_cons]

@[simp] lemma forget_const (value : Literal) : forget m (.const value) = .const value := rfl

@[simp] lemma forget_constList (values : List Literal) :
    forget m (.constList values) = .constList values := rfl

@[simp] lemma forget_dimension (ref : DimensionRef) : forget m (.dimension ref) = .dimension ref := rfl

@[simp] lemma forget_measure (ref : MeasureRef) :
    forget m (.measure ref) = .measure (ref.forget m) := rfl

@[simp] lemma forget_restricted (r : RestrictedMeasure) :
    forget m (.restricted r) = .restricted (r.forget m) := rfl

@[simp] lemma forget_call (kind : FunctionKind) (args : List Node) :
    forget m (.call kind args) = .call kind (args.map (forget m)) := by
  rw [forget, forgets_eq_map]

@[simp] lemma forget_array (items : List Node) :
    forget m (.array items) = .array (items.map (forget m)) := by
  rw [forget, forgets_eq_map]

@[simp] lemma literal?_forget (node : Node) : (forget m node).literal? = node.literal? := by
  cases node <;> simp [literal?]

@[simp] lemma dimension?_forget (node : Node) : (forget m node).dimension? = node.dimension? := by
  cases node <;> simp [dimension?]

@[simp] lemma isLiteral_forget (node : Node) : (forget m node).isLiteral = node.isLiteral := by
  cases node <;> simp [isLiteral]

/-- Constants are left alone, and nothing else becomes one. -/
lemma forget_eq_const_iff {node : Node} {value : Literal} :
    forget m node = .const value ↔ node = .const value := by
  cases node <;> simp

@[simp] lemma literals?_forget (nodes : List Node) :
    literals? (nodes.map (forget m)) = literals? nodes := by
  induction nodes with
  | nil => rfl
  | cons node nodes ih => rw [List.map_cons, literals?, literals?, literal?_forget, ih]

@[simp] lemma forget_list (items : List Node) :
    forget m (list items) = list (items.map (forget m)) := by
  rw [list, list, literals?_forget]
  split <;> simp

@[simp] lemma forget_castInteger (node : Node) : forget m node.castInteger = (forget m node).castInteger := by
  cases node with
  | const value =>
    cases value with
    | number n =>
      simp only [forget_const, castInteger]
      split <;> simp
    | string _ | boolean _ | null => rfl
  | constList _ | dimension _ | measure _ | call _ _ | array _ | restricted _ => simp [castInteger]

lemma map_forget_prepare (kind : FunctionKind) (args : List Node) :
    (kind.prepare args).map (forget m) = kind.prepare (args.map (forget m)) := by
  have hcasts : (castIntegers args).map (forget m) = castIntegers (args.map (forget m)) := by
    unfold castIntegers
    simp only [List.length_map, List.all_map, Function.comp_def, isLiteral_forget]
    split
    · simp only [List.map_map, Function.comp_def, forget_castInteger]
    · rfl
  cases kind <;> first | exact hcasts | rfl

lemma ofFilter?_equal_eq_none {args : List Node}
    (h : ∀ ref value, args ≠ [.dimension ref, .const value]) :
    Selection.ofFilter? (.call .equal args) = none := by
  unfold Selection.ofFilter?
  split
  · next hkind => cases hkind
  · next hkind => cases hkind
  · next hargs =>
    cases hargs
    exact absurd rfl (h _ _)
  · rfl

/-- Forgetting keeps lists of two that are a dimension and a constant, and makes no others. -/
lemma map_forget_eq_pair_iff {args : List Node} {ref : DimensionRef} {value : Literal} :
    args.map (forget m) = [.dimension ref, .const value] ↔ args = [.dimension ref, .const value] := by
  match args with
  | [] | [_] | _ :: _ :: _ :: _ => simp
  | [left, right] => cases left <;> simp [forget_eq_const_iff]

@[simp] lemma ofFilter?_forget (node : Node) :
    Selection.ofFilter? (forget m node) = Selection.ofFilter? node := by
  induction node using Node.induction with
  | const _ | constList _ | dimension _ | measure _ | restricted _ | array _ _ => simp [Selection.ofFilter?]
  | call kind args ih =>
    have hall : Selection.ofFilters? (args.map (forget m)) = Selection.ofFilters? args := by
      induction args with
      | nil => rfl
      | cons arg args iharg =>
        rw [List.forall_mem_cons] at ih
        rw [List.map_cons, Selection.ofFilters?, Selection.ofFilters?, ih.1, iharg ih.2]
    rw [forget_call]
    cases kind with
    | and | or => simpa only [Selection.ofFilter?] using hall
    | equal =>
      by_cases hpair : ∃ ref value, args = [.dimension ref, .const value]
      · obtain ⟨ref, value, rfl⟩ := hpair
        rfl
      · rw [ofFilter?_equal_eq_none, ofFilter?_equal_eq_none]
        · exact fun ref value h => hpair ⟨ref, value, h⟩
        · exact fun ref value h => hpair ⟨ref, value, (map_forget_eq_pair_iff m).mp h⟩
    | _ => simp [Selection.ofFilter?]

@[simp] lemma flatten_forget (node : Node) : Selection.flatten (forget m node) = Selection.flatten node := by
  rw [Selection.flatten, ofFilter?_forget, Selection.flatten]

lemma selectionsOf?_forget (filters : List Node) :
    RestrictedMeasure.selectionsOf? (filters.map (forget m)) = RestrictedMeasure.selectionsOf? filters := by
  induction filters with
  | nil => rfl
  | cons filter filters ih =>
    rw [List.map_cons, RestrictedMeasure.selectionsOf?, RestrictedMeasure.selectionsOf?, flatten_forget, ih]

lemma ofArgs?_forget (base : Node) (filters : List Node) :
    RestrictedMeasure.ofArgs? (forget m base) (filters.map (forget m)) =
      (RestrictedMeasure.ofArgs? base filters).map (RestrictedMeasure.forget m) := by
  unfold RestrictedMeasure.ofArgs?
  rw [selectionsOf?_forget]
  cases base with
  | measure ref =>
    cases RestrictedMeasure.selectionsOf? filters with
    | none => rfl
    | some selections => cases selections <;> rfl
  | const _ | constList _ | dimension _ | restricted _ | array _ | call _ _ => simp

lemma type_forget_ref (ref : MeasureRef) :
    (ref.forget m).type = .unknown ∨ (ref.forget m).type = ref.type := by
  unfold MeasureRef.forget
  split
  · exact Or.inl rfl
  · exact Or.inr rfl

lemma ofElements_ne_unknown (types : List DataType) : DataType.ofElements types ≠ .unknown := by
  unfold DataType.ofElements
  dsimp only
  split_ifs <;> decide

/-- Of all calls the types are known, but for `IF` where nothing is known of the branches. -/
lemma callType_eq_unknown_iff {kind : FunctionKind} {args : List Node} {types : List DataType} :
    callType kind args types = .unknown ↔
      kind = .ifThen ∧ types[1]?.getD .unknown = .unknown ∧ types[2]?.getD .unknown = .unknown := by
  have hnumeric (keepsIntegers : Bool) (types : List DataType) :
      numericType keepsIntegers types ≠ .unknown := by
    unfold numericType
    split_ifs <;> decide
  cases kind with
  | ifThen =>
    unfold callType
    dsimp only
    cases hthen : types[1]?.getD .unknown <;> cases types[2]? <;> simp_all
  | _ =>
    refine iff_of_false ?_ (by simp)
    unfold callType
    dsimp only
    first
    | exact hnumeric _ _
    | (split_ifs <;> decide)
    | decide

/-- Where the type of a node is unknown it stays so. -/
lemma type_forget_eq_unknown {node : Node} (h : node.type = .unknown) :
    (forget m node).type = .unknown := by
  induction node using Node.induction with
  | const value => exact h
  | constList values => exact h
  | dimension ref => exact h
  | measure ref =>
    rcases type_forget_ref m ref with hforget | hforget
    · exact hforget
    · exact hforget.trans h
  | call kind args ih =>
    have hbranch (position : Nat) (h : (args.map type)[position]?.getD .unknown = .unknown) :
        ((args.map (forget m)).map type)[position]?.getD .unknown = .unknown := by
      rw [List.getElem?_map] at h
      rw [List.getElem?_map, List.getElem?_map]
      cases harg : args[position]? with
      | none => rfl
      | some arg =>
        rw [harg] at h
        exact ih arg (List.mem_of_getElem? harg) h
    rw [type, types_eq_map, callType_eq_unknown_iff] at h
    rw [forget_call, type, types_eq_map, callType_eq_unknown_iff]
    exact ⟨h.1, hbranch 1 h.2.1, hbranch 2 h.2.2⟩
  | array items ih => exact absurd h (ofElements_ne_unknown _)
  | restricted r => cases h

end Node

end OlapFormula
