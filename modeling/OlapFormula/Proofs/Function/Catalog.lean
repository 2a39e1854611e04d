import Mathlib.Data.List.Basic
import OlapFormula.Construction

/-!
# What names of the catalog stand for

Every kind has an item, and a name that only one item has stands for it wherever that item is to be had.
-/

namespace OlapFormula.Catalog

lemma isSome_ofKind? (kind : FunctionKind) : (ofKind? kind).isSome := by
  cases kind <;> rfl

/-- The first item of a kind. -/
def itemOf (kind : FunctionKind) : FunctionItem := (ofKind? kind).get (isSome_ofKind? kind)

lemma itemOf_mem (kind : FunctionKind) : itemOf kind ∈ items :=
  List.mem_of_find?_eq_some (Option.some_get (isSome_ofKind? kind)).symm

lemma kind_itemOf (kind : FunctionKind) : (itemOf kind).kind = kind := by
  have hfound := List.find?_some (Option.some_get (isSome_ofKind? kind)).symm
  exact beq_iff_eq.mp hfound

lemma mem_variants_of_lookup {flags : FeatureFlags} {backend : Backend} {allowInternal : Bool}
    {name : String} {item : FunctionItem}
    (h : lookup flags backend allowInternal name = .ok item) : item ∈ variants name := by
  unfold lookup at h
  dsimp only at h
  split_ifs at h
  split at h
  · next found hfound =>
    cases h
    exact List.mem_of_mem_filter (List.mem_of_mem_filter (List.mem_of_find?_eq_some hfound))
  · cases h

/-- A name with one variant that no flag and no backend excludes stands for that. -/
lemma lookup_eq_ok (flags : FeatureFlags) (backend : Backend) {allowInternal : Bool} {name : String}
    {item : FunctionItem} (hvariants : variants name = [item]) (hfeature : item.feature = none)
    (hbackends : item.backends = Backend.all) (hinternal : (allowInternal || !item.internal) = true) :
    lookup flags backend allowInternal name = .ok item := by
  have henabled : item.isEnabled flags = true := by simp [FunctionItem.isEnabled, hfeature]
  have hsupports : item.supports backend = true := by
    rw [FunctionItem.supports, hbackends]
    cases backend <;> rfl
  simp [lookup, hvariants, hinternal, henabled, hsupports]

/-- Names that only one item has. -/
lemma variants_of_single :
    variants UnaryOperator.negate.name = [itemOf .negate] ∧
      variants BinaryOperator.equal.name = [itemOf .equal] ∧
      variants BinaryOperator.isIn.name = [itemOf .isIn] ∧
      variants "RESTRICT" = [itemOf .restrict] := by
  decide

variable (flags : FeatureFlags) (backend : Backend)

lemma resolveOperator_negate :
    resolveOperator flags backend UnaryOperator.negate.name = .ok (itemOf .negate) :=
  lookup_eq_ok flags backend variants_of_single.1 rfl rfl rfl

lemma resolveOperator_equal :
    resolveOperator flags backend BinaryOperator.equal.name = .ok (itemOf .equal) :=
  lookup_eq_ok flags backend variants_of_single.2.1 rfl rfl rfl

lemma resolveOperator_isIn :
    resolveOperator flags backend BinaryOperator.isIn.name = .ok (itemOf .isIn) :=
  lookup_eq_ok flags backend variants_of_single.2.2.1 rfl rfl rfl

lemma resolve_restrict : resolve flags backend "RESTRICT" = .ok (itemOf .restrict) :=
  lookup_eq_ok flags backend variants_of_single.2.2.2 rfl rfl rfl

lemma eq_itemOf_restrict {item : FunctionItem} (hmem : item ∈ items) (hkind : item.kind = .restrict) :
    item = itemOf .restrict := by
  have hall : ∀ item ∈ items, item.kind = .restrict → item = itemOf .restrict := by decide
  exact hall item hmem hkind

end OlapFormula.Catalog
