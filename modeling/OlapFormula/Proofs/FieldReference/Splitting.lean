import Mathlib.Data.List.Basic
import OlapFormula.FieldReference.Scan

/-!
# Splitting text

A string literal or a field that is split off the front of a text is split off in the same way when
something else follows it, unless that goes on where it ends.
-/

namespace OlapFormula

namespace Text

lemma splitAfterQuote_eq_some {cs body rest : List Char} (h : splitAfterQuote cs = some (body, rest)) :
    cs = body ++ rest ∧ rest.head? ≠ some '"' ∧
      ∀ rest' : List Char, rest'.head? ≠ some '"' →
        splitAfterQuote (body ++ rest') = some (body, rest') := by
  induction cs using splitAfterQuote.induct generalizing body with
  | case1 => simp [splitAfterQuote] at h
  | case2 cs ih =>
    simp only [splitAfterQuote, Option.map_eq_some_iff] at h
    obtain ⟨⟨inner, after⟩, hinner, hpair⟩ := h
    cases hpair
    obtain ⟨hcs, hrest, hread⟩ := ih hinner
    refine ⟨by rw [hcs]; rfl, hrest, fun rest' hrest' => ?_⟩
    simp [splitAfterQuote, hread rest' hrest']
  | case3 cs hcs =>
    rw [splitAfterQuote.eq_3 cs hcs] at h
    cases h
    refine ⟨rfl, ?_, fun rest' hrest' => ?_⟩
    · intro hhead
      obtain ⟨ds, hds⟩ := List.head?_eq_some_iff.mp hhead
      exact hcs ds hds
    · apply splitAfterQuote.eq_3
      rintro ds rfl
      exact hrest' rfl
  | case4 c cs hquotes hquote ih =>
    rw [splitAfterQuote.eq_4 c cs hquotes hquote] at h
    simp only [Option.map_eq_some_iff] at h
    obtain ⟨⟨inner, after⟩, hinner, hpair⟩ := h
    cases hpair
    obtain ⟨hcs, hrest, hread⟩ := ih hinner
    refine ⟨by rw [hcs]; rfl, hrest, fun rest' hrest' => ?_⟩
    rw [List.cons_append, splitAfterQuote.eq_4 c _ (fun ds hc => absurd hc hquote) hquote,
      hread rest' hrest']
    rfl

end Text

namespace FieldReference

lemma splitAfterBracket_eq_some {quoted : Bool} {cs body rest : List Char}
    (h : splitAfterBracket quoted cs = some (body, rest)) :
    cs = body ++ rest ∧ ∀ rest' : List Char,
      splitAfterBracket quoted (body ++ rest') = some (body, rest') := by
  induction cs generalizing quoted body with
  | nil => simp [splitAfterBracket] at h
  | cons c cs ih =>
    unfold splitAfterBracket at h
    by_cases hc : (c = ']' && !quoted) = true
    · rw [if_pos hc] at h
      cases h
      exact ⟨rfl, fun rest' => by simp [splitAfterBracket, hc]⟩
    · rw [if_neg hc] at h
      simp only [Option.map_eq_some_iff] at h
      obtain ⟨⟨inner, after⟩, hinner, hpair⟩ := h
      cases hpair
      obtain ⟨hcs, hread⟩ := ih hinner
      refine ⟨by rw [hcs]; rfl, fun rest' => ?_⟩
      simp only [List.cons_append, splitAfterBracket, if_neg hc, hread rest', Option.map_some]

lemma splitBrackets_eq_some {cs head rest : List Char} (h : splitBrackets cs = some (head, rest)) :
    cs = head ++ rest ∧ ∀ rest' : List Char,
      splitBrackets (head ++ rest') = some (head, rest') := by
  unfold splitBrackets at h
  split at h
  · simp only [Option.map_eq_some_iff] at h
    obtain ⟨⟨inner, after⟩, hinner, hpair⟩ := h
    cases hpair
    obtain ⟨hcs, hread⟩ := splitAfterBracket_eq_some hinner
    refine ⟨by rw [hcs]; rfl, fun rest' => ?_⟩
    rw [List.cons_append, splitBrackets, hread rest']
    rfl
  · cases h

lemma splitBrackets_of_head {cs : List Char} (h : cs.head? ≠ some '[') :
    splitBrackets cs = none := by
  unfold splitBrackets
  split
  · exact absurd rfl h
  · rfl

/-- The text does not begin with a suffix: a point and brackets that are closed. -/
def NoSuffix (cs : List Char) : Prop := ∀ suffixed, cs = '.' :: suffixed → splitBrackets suffixed = none

lemma splitField_head {head rest : List Char}
    (h : ∀ rest' : List Char, splitBrackets (head ++ rest') = some (head, rest'))
    (hrest : NoSuffix rest) : splitField (head ++ rest) = some (head, rest) := by
  unfold splitField
  rw [h rest]
  dsimp only
  split
  · rename_i suffixed
    rw [hrest suffixed rfl]
  · rfl

/-- A field ends where it does whatever follows it, as long as no suffix follows where there was none. -/
lemma splitField_eq_some {cs field rest : List Char} (h : splitField cs = some (field, rest)) :
    cs = field ++ rest ∧ ∀ rest' : List Char, (NoSuffix rest → NoSuffix rest') →
      splitField (field ++ rest') = some (field, rest') := by
  unfold splitField at h
  cases hhead : splitBrackets cs with
  | none => simp [hhead] at h
  | some pair =>
    obtain ⟨head, after⟩ := pair
    obtain ⟨hcs, hread⟩ := splitBrackets_eq_some hhead
    have halone (hpair : some (head, after) = some (field, rest)) (hnone : NoSuffix after) :
        cs = field ++ rest ∧ ∀ rest' : List Char, (NoSuffix rest → NoSuffix rest') →
          splitField (field ++ rest') = some (field, rest') := by
      cases hpair
      exact ⟨hcs, fun rest' hrest' => splitField_head hread (hrest' hnone)⟩
    simp only [hhead] at h
    split at h
    · rename_i suffixed
      split at h
      · rename_i suffix after hsuffix
        cases h
        obtain ⟨hsuffixed, hread'⟩ := splitBrackets_eq_some hsuffix
        refine ⟨by rw [hcs, hsuffixed]; simp, fun rest' _ => ?_⟩
        unfold splitField
        rw [List.append_assoc, hread]
        simp [hread']
      · rename_i hsuffix
        exact halone h fun _ heq => (List.cons.inj heq).2 ▸ hsuffix
    · rename_i hpoint
      exact halone h fun suffixed heq => (hpoint suffixed heq).elim

lemma length_pos_of_splitField {cs field rest : List Char}
    (h : splitField cs = some (field, rest)) : 0 < field.length := by
  rw [List.length_pos_iff]
  rintro rfl
  have hempty := (splitField_eq_some h).2 [] fun _ => nofun
  simp [splitField, splitBrackets] at hempty

end FieldReference

end OlapFormula
