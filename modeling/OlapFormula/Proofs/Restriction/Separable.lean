import Mathlib.Data.List.Pairwise
import Mathlib.Logic.Function.Basic
import OlapFormula.Proofs.Restriction.Meaning

/-!
# Filters that grouping understands

Grouping joins conditions on one dimension by `OR` and conditions on different ones by `AND`. A filter
that does the same selects what it says. Unless a member is selected twice no other filter does.
-/

namespace OlapFormula

open Selection

namespace Node

/-- No dimension is named in both filters. -/
def Apart (a b : Node) : Prop := ∀ s ∈ flatten a, ∀ t ∈ flatten b, s.key ≠ t.key

/-- Both filters name one dimension, and that is the same. -/
def Together (a b : Node) : Prop := ∀ s ∈ flatten a, ∀ t ∈ flatten b, s.key = t.key

instance : DecidableRel Apart := fun a b =>
  inferInstanceAs (Decidable (∀ s ∈ flatten a, ∀ t ∈ flatten b, s.key ≠ t.key))

instance : DecidableRel Together := fun a b =>
  inferInstanceAs (Decidable (∀ s ∈ flatten a, ∀ t ∈ flatten b, s.key = t.key))

instance : Std.Symm Apart := ⟨fun _ _ h s hs t ht => (h t ht s hs).symm⟩

instance : Std.Symm Together := ⟨fun _ _ h s hs t ht => (h t ht s hs).symm⟩

/-- `AND` joins filters on different dimensions, and `OR` joins filters on the same one. -/
inductive IsSeparable : Node → Prop
  | condition (selection : Selection) : IsSeparable selection.condition
  | and {args : List Node} : args.Pairwise Apart → (∀ arg ∈ args, IsSeparable arg) →
    IsSeparable (.call .and args)
  | or {args : List Node} : args.Pairwise Together → (∀ arg ∈ args, IsSeparable arg) →
    IsSeparable (.call .or args)

end Node

namespace Selection

open Node

variable {x : Assignment} {node : Node} {args : List Node}

lemma meets_of_apart (h : args.Pairwise Apart) :
    Meets x (args.flatMap flatten) ↔ ∀ arg ∈ args, Meets x (flatten arg) := by
  constructor
  · intro hmeets arg harg s hs
    obtain ⟨t, ht, hkey, hholds⟩ := hmeets s (List.mem_flatMap.mpr ⟨arg, harg, hs⟩)
    obtain ⟨other, hother, ht⟩ := List.mem_flatMap.mp ht
    obtain rfl : other = arg := by
      by_contra hne
      exact h.forall hother harg hne t ht s hs hkey
    exact ⟨t, ht, hkey, hholds⟩
  · intro hmeets s hs
    obtain ⟨arg, harg, hs⟩ := List.mem_flatMap.mp hs
    obtain ⟨t, ht, hkey, hholds⟩ := hmeets arg harg s hs
    exact ⟨t, List.mem_flatMap.mpr ⟨arg, harg, ht⟩, hkey, hholds⟩

lemma meets_of_together (hnonempty : args ≠ []) (hfilters : ∀ arg ∈ args, arg.IsFilter)
    (h : args.Pairwise Together) :
    Meets x (args.flatMap flatten) ↔ ∃ arg ∈ args, Meets x (flatten arg) := by
  constructor
  · intro hmeets
    obtain ⟨first, rest, rfl⟩ := List.exists_cons_of_ne_nil hnonempty
    obtain ⟨s, hs⟩ := exists_mem_flatten (hfilters first (List.mem_cons_self ..))
    obtain ⟨t, ht, -, hholds⟩ := hmeets s (List.mem_flatMap.mpr ⟨first, List.mem_cons_self .., hs⟩)
    obtain ⟨arg, harg, ht⟩ := List.mem_flatMap.mp ht
    refine ⟨arg, harg, fun u hu => ?_⟩
    obtain ⟨v, hv, hkey, hholds'⟩ := hmeets u (List.mem_flatMap.mpr ⟨arg, harg, hu⟩)
    obtain ⟨other, hother, hv⟩ := List.mem_flatMap.mp hv
    by_cases hsame : other = arg
    · subst hsame
      exact ⟨v, hv, hkey, hholds'⟩
    · -- All conditions are on the dimension of one in another operand.
      have htogether := h.forall harg hother (Ne.symm hsame)
      exact ⟨t, ht, (htogether t ht v hv).trans (htogether u hu v hv).symm, hholds⟩
  · rintro ⟨arg, harg, hmeets⟩ s hs
    obtain ⟨other, hother, hs⟩ := List.mem_flatMap.mp hs
    by_cases hsame : other = arg
    · subst hsame
      obtain ⟨t, ht, hkey, hholds⟩ := hmeets s hs
      exact ⟨t, List.mem_flatMap.mpr ⟨other, hother, ht⟩, hkey, hholds⟩
    · obtain ⟨u, hu⟩ := exists_mem_flatten (hfilters arg harg)
      obtain ⟨t, ht, hkey, hholds⟩ := hmeets u hu
      exact ⟨t, List.mem_flatMap.mpr ⟨arg, harg, ht⟩,
        hkey.trans (h.forall harg hother (Ne.symm hsame) u hu s hs), hholds⟩

/-- A separable filter selects what it says. -/
theorem meets_iff_holds (hfilter : node.IsFilter) (h : node.IsSeparable) :
    Meets x (flatten node) ↔ node.holds x = true := by
  induction h with
  | condition selection =>
    obtain ⟨s, hs⟩ := exists_mem_flatten hfilter
    have hvalue : selection.2 ≠ .null := by
      rintro hnull
      obtain ⟨ref, value⟩ := selection
      obtain rfl : value = .null := hnull
      cases hs
    rw [flatten_condition hvalue, meets_singleton, holds_condition]
  | @and args hapart _ ih =>
    cases hfilter with
    | and _ hfilters =>
      rw [flatten_and hfilters, meets_of_apart hapart, holds_and]
      exact forall₂_congr fun arg harg => ih arg harg (hfilters arg harg)
  | @or args htogether _ ih =>
    cases hfilter with
    | or hnonempty hfilters =>
      rw [flatten_or hfilters, meets_of_together hnonempty hfilters htogether, holds_or]
      exact exists_congr fun arg => and_congr_right fun harg => ih arg harg (hfilters arg harg)

/-- No member of a dimension is selected twice. -/
def AreDistinct (selections : List Selection) : Prop := selections.Pairwise fun a b => a.same b = false

lemma repeatedAfter_eq_nil_iff {seen selections : List Selection} :
    repeatedAfter seen selections = [] ↔
      AreDistinct selections ∧ ∀ s ∈ seen, ∀ t ∈ selections, s.same t = false := by
  induction selections generalizing seen with
  | nil => simp [repeatedAfter, AreDistinct]
  | cons selection selections ih =>
    unfold repeatedAfter
    by_cases hany : seen.any (·.same selection)
    · obtain ⟨s, hs, hsame⟩ := List.any_eq_true.mp hany
      rw [if_pos hany]
      refine iff_of_false (List.cons_ne_nil _ _) fun h => ?_
      have hfalse := h.2 s hs selection (List.mem_cons_self ..)
      rw [hsame] at hfalse
      cases hfalse
    · rw [if_neg hany, ih]
      have hfirst : ∀ s ∈ seen, s.same selection = false := by simpa using hany
      simp only [AreDistinct, List.pairwise_cons, List.mem_append, List.mem_cons, or_imp, forall_and,
        forall_eq]
      tauto

lemma duplicates_eq_nil_iff {selections : List Selection} :
    duplicates selections = [] ↔ AreDistinct selections := by
  simp [duplicates, repeatedAfter_eq_nil_iff]

lemma same_self (s : Selection) : s.same s = true := by simp [same, Literal.same_self]

lemma same_symm {s t : Selection} (h : s.same t = true) : t.same s = true := by
  obtain ⟨hkey, hvalue⟩ := Bool.and_eq_true_iff.mp h
  exact Bool.and_eq_true_iff.mpr ⟨beq_iff_eq.mpr (beq_iff_eq.mp hkey).symm, Literal.same_symm hvalue⟩

/-- A dimension has one member only. -/
lemma same_of_holds {s t : Selection} (hs : s.Holds x) (ht : t.Holds x) (hkey : s.key = t.key) :
    s.same t = true := by
  rw [Holds, hkey] at hs
  exact Bool.and_eq_true_iff.mpr
    ⟨beq_iff_eq.mpr hkey, Literal.same_trans (Literal.same_symm hs) ht⟩

/-- The condition is one of the first filter and none of the second. -/
def Disjoint (a b : Node) : Prop := ∀ s ∈ flatten a, ∀ t ∈ flatten b, s.same t = false

instance : Std.Symm Disjoint :=
  ⟨fun a b h s hs t ht => by
    by_contra hsame
    rw [Bool.not_eq_false] at hsame
    have hfalse := h t ht s hs
    rw [same_symm hsame] at hfalse
    cases hfalse⟩

/-! ## Choosing members -/

lemma holds_update_self (s : Selection) (x : Assignment) : s.Holds (Function.update x s.key s.2) := by
  rw [Holds, Function.update_self]
  exact Literal.same_self s.2

lemma holds_update_of_ne {s : Selection} {k : String} (h : s.key ≠ k) (value : Literal) :
    s.Holds (Function.update x k value) ↔ s.Holds x := by
  rw [Holds, Function.update_of_ne h, Holds]

/-- Any selection may be the one that holds. -/
lemma Meets.update {selections : List Selection} (h : Meets x selections) {s : Selection}
    (hs : s ∈ selections) : Meets (Function.update x s.key s.2) selections := by
  intro u hu
  by_cases hkey : u.key = s.key
  · exact ⟨s, hs, hkey.symm, holds_update_self s x⟩
  · obtain ⟨t, ht, hsame, hholds⟩ := h u hu
    rw [← hsame] at hkey
    exact ⟨t, ht, hsame, (holds_update_of_ne hkey s.2).mpr hholds⟩

lemma exists_meets (selections : List Selection) : ∃ x, Meets x selections := by
  induction selections with
  | nil => exact ⟨fun _ => .null, by simp [Meets]⟩
  | cons s selections ih =>
    obtain ⟨x, hx⟩ := ih
    refine ⟨Function.update x s.key s.2, fun u hu => ?_⟩
    by_cases hkey : u.key = s.key
    · exact ⟨s, List.mem_cons_self .., hkey.symm, holds_update_self s x⟩
    · have hrest := (List.mem_cons.mp hu).resolve_left fun h => hkey (congrArg Selection.key h)
      obtain ⟨t, ht, hsame, hholds⟩ := hx u hrest
      rw [← hsame] at hkey
      exact ⟨t, List.mem_cons_of_mem s ht, hsame, (holds_update_of_ne hkey s.2).mpr hholds⟩

/-- Without a member no condition on the dimension holds. -/
lemma not_holds_update_null {s : Selection} (h : s.2 ≠ .null) :
    ¬ s.Holds (Function.update x s.key .null) := by
  obtain ⟨ref, value⟩ := s
  rw [Holds, Function.update_self]
  cases value with
  | null => exact absurd rfl h
  | number _ | string _ | boolean _ => exact Bool.false_ne_true

/-- A filter stays true without a member of a dimension, if none of its conditions on that held. -/
lemma holds_update_null (hfilter : node.IsFilter) {k : String} (hholds : node.holds x = true)
    (hnone : ∀ s ∈ flatten node, s.key = k → ¬ s.Holds x) :
    node.holds (Function.update x k .null) = true := by
  refine (holds_congr hfilter fun s hs => ?_).mp hholds
  by_cases hkey : s.key = k
  · subst hkey
    exact iff_of_false (hnone s hs rfl) (not_holds_update_null (ne_null_of_mem_flatten hfilter hs))
  · exact (holds_update_of_ne hkey .null).symm

section

variable (hfilters : ∀ arg ∈ args, arg.IsFilter) (hdistinct : AreDistinct (args.flatMap flatten))

include hdistinct

lemma pairwise_disjoint : args.Pairwise Disjoint := (List.pairwise_flatMap.mp hdistinct).2

lemma areDistinct_flatten {arg : Node} (harg : arg ∈ args) : AreDistinct (flatten arg) :=
  (List.pairwise_flatMap.mp hdistinct).1 arg harg

/-- Of what is the same in two operands, nothing is in one and not in the other. -/
lemma eq_of_same {a b : Node} (ha : a ∈ args) (hb : b ∈ args) {s t : Selection} (hs : s ∈ flatten a)
    (ht : t ∈ flatten b) (hsame : s.same t = true) : a = b := by
  by_contra hne
  have hfalse := (pairwise_disjoint hdistinct).forall ha hb hne s hs t ht
  rw [hsame] at hfalse
  cases hfalse

include hfilters

omit hdistinct in
lemma not_meets_update_null {s : Selection} (hs : s ∈ args.flatMap flatten) :
    ¬ Meets (Function.update x s.key .null) (args.flatMap flatten) := by
  intro hmeets
  obtain ⟨t, ht, hkey, hholds⟩ := hmeets s hs
  obtain ⟨arg, harg, ht⟩ := List.mem_flatMap.mp ht
  rw [← hkey] at hholds
  exact not_holds_update_null (ne_null_of_mem_flatten (hfilters arg harg) ht) hholds

/-- If the operands of `OR` are selected as they say, conditions that hold are in the operand that does. -/
lemma mem_flatten_of_or
    (h : ∀ x, Meets x (args.flatMap flatten) ↔ ∃ arg ∈ args, arg.holds x = true) {arg : Node}
    (harg : arg ∈ args) (hholds : arg.holds x = true) {s : Selection}
    (hs : s ∈ args.flatMap flatten) (hselected : s.Holds x) : s ∈ flatten arg := by
  by_contra hnot
  refine not_meets_update_null hfilters hs ((h _).mpr ⟨arg, harg,
    holds_update_null (hfilters arg harg) hholds fun u hu hkey hu' => hnot ?_⟩)
  obtain ⟨other, hother, hs⟩ := List.mem_flatMap.mp hs
  obtain rfl := eq_of_same hdistinct harg hother hu hs (same_of_holds hu' hselected hkey)
  exact hs

lemma together_of_or
    (h : ∀ x, Meets x (args.flatMap flatten) ↔ ∃ arg ∈ args, arg.holds x = true) {a b : Node}
    (ha : a ∈ args) (hb : b ∈ args) (hdisjoint : Disjoint a b) : Together a b := by
  intro s hs t ht
  by_contra hne
  have hs' : s ∈ args.flatMap flatten := List.mem_flatMap.mpr ⟨a, ha, hs⟩
  have ht' : t ∈ args.flatMap flatten := List.mem_flatMap.mpr ⟨b, hb, ht⟩
  -- A condition of each operand is chosen, but they would have to be in one operand.
  obtain ⟨x, hx⟩ := exists_meets (args.flatMap flatten)
  obtain ⟨c, hc, hholds⟩ := (h _).mp ((hx.update hs').update ht')
  have hsc := mem_flatten_of_or hfilters hdistinct h hc hholds hs'
    ((holds_update_of_ne hne t.2).mpr (holds_update_self s x))
  have htc := mem_flatten_of_or hfilters hdistinct h hc hholds ht' (holds_update_self t _)
  obtain rfl := eq_of_same hdistinct ha hc hs hsc (same_self s)
  have hfalse := hdisjoint t htc t ht
  rw [same_self] at hfalse
  cases hfalse

lemma meets_iff_holds_of_or
    (h : ∀ x, Meets x (args.flatMap flatten) ↔ ∃ arg ∈ args, arg.holds x = true) {arg : Node}
    (harg : arg ∈ args) (x : Assignment) : Meets x (flatten arg) ↔ arg.holds x = true := by
  have htogether : args.Pairwise Together := (pairwise_disjoint hdistinct).imp_of_mem
    fun ha hb => together_of_or hfilters hdistinct h ha hb
  constructor
  · intro hmeets
    have hall := (meets_of_together (List.ne_nil_of_mem harg) hfilters htogether).mpr ⟨arg, harg, hmeets⟩
    obtain ⟨c, hc, hholds⟩ := (h x).mp hall
    obtain ⟨u, hu⟩ := exists_mem_flatten (hfilters arg harg)
    obtain ⟨t, ht, -, hselected⟩ := hmeets u hu
    have htc := mem_flatten_of_or hfilters hdistinct h hc hholds (List.mem_flatMap.mpr ⟨arg, harg, ht⟩)
      hselected
    obtain rfl := eq_of_same hdistinct harg hc ht htc (same_self t)
    exact hholds
  · intro hholds s hs
    obtain ⟨t, ht, hkey, hselected⟩ := (h x).mpr ⟨arg, harg, hholds⟩ s
      (List.mem_flatMap.mpr ⟨arg, harg, hs⟩)
    exact ⟨t, mem_flatten_of_or hfilters hdistinct h harg hholds ht hselected, hkey, hselected⟩

lemma apart_of_and
    (h : ∀ x, Meets x (args.flatMap flatten) ↔ ∀ arg ∈ args, arg.holds x = true) {a b : Node}
    (ha : a ∈ args) (hb : b ∈ args) (hdisjoint : Disjoint a b) : Apart a b := by
  intro s hs t ht hkey
  have hs' : s ∈ args.flatMap flatten := List.mem_flatMap.mpr ⟨a, ha, hs⟩
  have ht' : t ∈ args.flatMap flatten := List.mem_flatMap.mpr ⟨b, hb, ht⟩
  obtain ⟨x, hx⟩ := exists_meets (args.flatMap flatten)
  have hmeets := hx.update hs'
  have hmeets' := hx.update ht'
  -- Whichever of the two holds, one operand is true for another reason, so the dimension is not needed.
  refine not_meets_update_null hfilters hs' ((h (Function.update x s.key .null)).mpr fun c hc => ?_)
  by_cases hca : c = a
  · subst hca
    have hnone : ∀ u ∈ flatten c, u.key = t.key → ¬ u.Holds (Function.update x t.key t.2) := by
      intro u hu hkey' hholds
      have hsame := same_of_holds hholds (holds_update_self t x) hkey'
      obtain rfl := eq_of_same hdistinct hc hb hu ht hsame
      have hfalse := hdisjoint u hu t ht
      rw [hsame] at hfalse
      cases hfalse
    have hnull := holds_update_null (hfilters c hc) ((h _).mp hmeets' c hc) hnone
    rwa [Function.update_idem, ← hkey] at hnull
  · have hnone : ∀ u ∈ flatten c, u.key = s.key → ¬ u.Holds (Function.update x s.key s.2) := by
      intro u hu hkey' hholds
      exact hca (eq_of_same hdistinct hc ha hu hs (same_of_holds hholds (holds_update_self s x) hkey'))
    have hnull := holds_update_null (hfilters c hc) ((h _).mp hmeets c hc) hnone
    rwa [Function.update_idem] at hnull

lemma meets_iff_holds_of_and
    (h : ∀ x, Meets x (args.flatMap flatten) ↔ ∀ arg ∈ args, arg.holds x = true) {arg : Node}
    (harg : arg ∈ args) (x : Assignment) : Meets x (flatten arg) ↔ arg.holds x = true := by
  have hapart : args.Pairwise Apart := (pairwise_disjoint hdistinct).imp_of_mem
    fun ha hb => apart_of_and hfilters hdistinct h ha hb
  -- The dimensions of the operand have the members that `x` gives them, and the others fit.
  obtain ⟨z, hz⟩ := exists_meets (args.flatMap flatten)
  let y : Assignment := fun k => if k ∈ (flatten arg).map Selection.key then x k else z k
  have hin : ∀ s ∈ flatten arg, s.Holds y ↔ s.Holds x := by
    intro s hs
    have hmem : s.key ∈ (flatten arg).map Selection.key := List.mem_map.mpr ⟨s, hs, rfl⟩
    rw [Holds, Holds, show y s.key = x s.key from if_pos hmem]
  have hout : ∀ other ∈ args, other ≠ arg → ∀ s ∈ flatten other, s.Holds y ↔ s.Holds z := by
    intro other hother hne s hs
    have hnot : s.key ∉ (flatten arg).map Selection.key := by
      intro hmem
      obtain ⟨t, ht, hkey⟩ := List.mem_map.mp hmem
      exact hapart.forall hother harg hne s hs t ht hkey.symm
    rw [Holds, Holds, show y s.key = z s.key from if_neg hnot]
  have hrest : ∀ other ∈ args, other ≠ arg → other.holds y = true := fun other hother hne =>
    (holds_congr (hfilters other hother) (hout other hother hne)).mpr ((h z).mp hz other hother)
  have hmeetsy : Meets y (args.flatMap flatten) ↔ arg.holds x = true := by
    rw [h y, ← holds_congr (hfilters arg harg) hin]
    constructor
    · exact fun hall => hall arg harg
    · intro hholds other hother
      by_cases hne : other = arg
      · rwa [hne]
      · exact hrest other hother hne
  rw [← hmeetsy, meets_of_apart hapart, ← meets_congr hin]
  constructor
  · intro hmeets other hother
    by_cases hne : other = arg
    · rwa [hne]
    · rw [meets_congr (hout other hother hne)]
      exact (meets_of_apart hapart).mp hz other hother
  · exact fun hall => hall arg harg

end

/-- A filter in which no member is selected twice is separable if it selects what it says. -/
theorem isSeparable_of_meets_iff (hfilter : node.IsFilter) (hdistinct : AreDistinct (flatten node))
    (h : ∀ x, Meets x (flatten node) ↔ node.holds x = true) : node.IsSeparable := by
  induction hfilter with
  | @condition selection _ => exact .condition selection
  | @and args _ hfilters ih =>
    simp only [flatten_and hfilters, holds_and] at hdistinct h
    exact .and ((pairwise_disjoint hdistinct).imp_of_mem fun ha hb =>
        apart_of_and hfilters hdistinct h ha hb) fun arg harg =>
      ih arg harg (areDistinct_flatten hdistinct harg) (meets_iff_holds_of_and hfilters hdistinct h harg)
  | @or args _ hfilters ih =>
    simp only [flatten_or hfilters, holds_or] at hdistinct h
    exact .or ((pairwise_disjoint hdistinct).imp_of_mem fun ha hb =>
        together_of_or hfilters hdistinct h ha hb) fun arg harg =>
      ih arg harg (areDistinct_flatten hdistinct harg) (meets_iff_holds_of_or hfilters hdistinct h harg)

end Selection

end OlapFormula
