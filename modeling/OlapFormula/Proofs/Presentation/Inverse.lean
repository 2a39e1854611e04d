import OlapFormula.Proofs.Lexeme.Places
import OlapFormula.Proofs.Presentation.Regions

/-!
# Shown text and stored text

With a decimal comma, a text that is shown and the text it is stored as determine each other wherever
the separators are used as the locale has it.
-/

namespace OlapFormula

namespace Presentation

lemma exists_of_decimalMark? {number : Lexeme} {place : Nat} (h : decimalMark? number = some place) :
    ∃ whole c rest, number.chars = whole ++ '.' :: c :: rest ∧ c.isDigit ∧
      place = number.start + Text.byteLength whole := by
  unfold decimalMark? at h
  dsimp only at h
  split at h
  · rename_i point c rest hdrop
    by_cases hc : c.isDigit
    · rw [if_pos hc] at h
      cases h
      have hsplit := List.takeWhile_append_dropWhile (p := (· != '.')) (l := number.chars)
      have hafter : point :: c :: rest = number.chars.dropWhile (· != '.') := by
        have hlength := congrArg (List.drop (number.chars.takeWhile (· != '.')).length) hsplit
        rwa [List.drop_left, hdrop, eq_comm] at hlength
      have hpoint : point = '.' := by
        have hhead := List.head?_dropWhile_not (· != '.') number.chars
        rw [← hafter] at hhead
        simpa using hhead
      refine ⟨number.chars.takeWhile (· != '.'), c, rest, ?_, hc, rfl⟩
      rw [hpoint] at hafter
      rw [hafter, hsplit]
    · rw [if_neg hc] at h
      cases h
  · cases h

/-- A decimal mark stands in front of a digit of the stored text. -/
lemma exists_of_mem_decimalMarks {locale : Locale} {cs : List Char} {place : Nat}
    (h : place ∈ decimalMarks locale cs) :
    ∃ before c after, toCanonical locale cs = before ++ '.' :: c :: after ∧ c.isDigit ∧
      Text.byteLength before = place := by
  unfold decimalMarks at h
  obtain ⟨number, hnumber, hmark⟩ := List.mem_filterMap.mp h
  obtain ⟨before, after, hcs, hstart⟩ :=
    (Lexeme.scans_scan _).exists_of_mem (List.mem_filter.mp hnumber).1
  obtain ⟨whole, c, rest, hchars, hc, rfl⟩ := exists_of_decimalMark? hmark
  refine ⟨before ++ whole, c, rest ++ after, ?_, hc, ?_⟩
  · rw [hcs, hchars]
    simp
  · rw [Text.byteLength_append, hstart, Nat.zero_add]

lemma eachExposed_eq_nil {check : Char → Nat → List Message} {place : Nat}
    {before after : List (Char × Bool)} {c : Char}
    (h : eachExposed check place (before ++ (c, true) :: after) = []) :
    check c (place + Text.byteLength (before.map (·.1))) = [] := by
  induction before generalizing place with
  | nil =>
    rw [List.nil_append, eachExposed, List.append_eq_nil_iff] at h
    exact h.1
  | cons p before ih =>
    rw [List.cons_append, eachExposed, List.append_eq_nil_iff] at h
    rw [List.map_cons, Text.byteLength, ← Nat.add_assoc]
    exact ih h.2

lemma eachExposed_eq_nil_of {check : Char → Nat → List Message} {place : Nat}
    {exposures : List (Char × Bool)} (h : ∀ before c after, exposures = before ++ (c, true) :: after →
      check c (place + Text.byteLength (before.map (·.1))) = []) :
    eachExposed check place exposures = [] := by
  induction exposures generalizing place with
  | nil => rfl
  | cons p exposures ih =>
    obtain ⟨c, exposed⟩ := p
    rw [eachExposed, List.append_eq_nil_iff]
    constructor
    · cases exposed with
      | false => rfl
      | true => exact h [] c exposures rfl
    · refine ih fun before d after hsplit => ?_
      have hlater := h ((c, exposed) :: before) d after (by rw [hsplit, List.cons_append])
      rwa [List.map_cons, Text.byteLength, ← Nat.add_assoc] at hlater

lemma toDisplayChar_comma (c : Char) :
    toDisplayChar .comma c = if c = '.' then ',' else if c = ',' then ';' else c := rfl

lemma toCanonicalChar_comma (c : Char) :
    toCanonicalChar .comma c = if c = ',' then '.' else if c = ';' then ',' else c := rfl

lemma isExchange_toDisplayChar : IsExchange (toDisplayChar .comma) := by
  constructor
  · intro c hc
    simp only [List.mem_cons, List.not_mem_nil, or_false, not_or] at hc
    rw [toDisplayChar_comma, if_neg hc.1, if_neg hc.2.1]
  · exact forall_separator (by decide)

lemma isExchange_toCanonicalChar : IsExchange (toCanonicalChar .comma) := by
  constructor
  · intro c hc
    simp only [List.mem_cons, List.not_mem_nil, or_false, not_or] at hc
    rw [toCanonicalChar_comma, if_neg hc.2.1, if_neg hc.2.2]
  · exact forall_separator (by decide)

lemma toDisplay_comma (cs : List Char) :
    toDisplay .comma cs = mapFrom (toDisplayChar .comma) 0 cs := if_neg (by decide)

lemma toCanonical_comma (cs : List Char) :
    toCanonical .comma cs = mapFrom (toCanonicalChar .comma) 0 cs := if_neg (by decide)

/-- A point is never shown. -/
lemma toDisplayChar_ne_point (c : Char) : toDisplayChar .comma c ≠ '.' := by
  rw [toDisplayChar_comma]
  by_cases hdecimal : c = '.'
  · rw [if_pos hdecimal]
    decide
  by_cases hargument : c = ','
  · rw [if_neg hdecimal, if_pos hargument]
    decide
  rwa [if_neg hdecimal, if_neg hargument]

/-- So nothing new is read as a suffix. -/
lemma noNewSuffix_toDisplayChar (cs : List Char) :
    NoNewSuffix (toDisplayChar .comma) (exposure cs) := by
  apply List.isChain_iff_forall_rel_of_append_cons_cons.mpr
  intro p q before after _ _ _ hshown
  exact absurd hshown (toDisplayChar_ne_point p.1)

lemma exposure_toDisplay (cs : List Char) :
    exposure (toDisplay .comma cs) =
      (exposure cs).map fun p => (mapChar (toDisplayChar .comma) p, p.2) := by
  rw [toDisplay_comma]
  exact exposureFrom_mapFrom isExchange_toDisplayChar (noNewSuffix_toDisplayChar cs)

lemma toCanonicalChar_toDisplayChar {c : Char} (hc : c ≠ ';') :
    toCanonicalChar .comma (toDisplayChar .comma c) = c := by
  by_cases hmem : c ∈ ['.', ',', ';']
  · have hall : ∀ d ∈ ['.', ',', ';'], d ≠ ';' → toCanonicalChar .comma (toDisplayChar .comma d) = d :=
      forall_separator (by decide)
    exact hall c hmem hc
  · rw [isExchange_toDisplayChar.fixed c hmem, isExchange_toCanonicalChar.fixed c hmem]

lemma toDisplayChar_toCanonicalChar {c : Char} (hc : c ≠ '.') :
    toDisplayChar .comma (toCanonicalChar .comma c) = c := by
  by_cases hmem : c ∈ ['.', ',', ';']
  · have hall : ∀ d ∈ ['.', ',', ';'], d ≠ '.' → toDisplayChar .comma (toCanonicalChar .comma d) = d :=
      forall_separator (by decide)
    exact hall c hmem hc
  · rw [isExchange_toCanonicalChar.fixed c hmem, isExchange_toDisplayChar.fixed c hmem]

/-- Two exchanges in a row are one, as long as the first one leaves the regions where they are. -/
lemma mapFrom_comp {f g : Char → Char} (hf : IsExchange f) {cs : List Char}
    (hnew : NoNewSuffix f (exposure cs)) :
    mapFrom g 0 (mapFrom f 0 cs) = mapFrom (g ∘ f) 0 cs := by
  have hchars (p : Char × Bool) : mapChar g (mapChar f p, p.2) = mapChar (g ∘ f) p := by
    obtain ⟨c, exposed⟩ := p
    cases exposed <;> rfl
  rw [mapFrom, exposureFrom_mapFrom hf hnew, List.map_map]
  exact List.map_congr_left fun p _ => hchars p

lemma mapFrom_eq_self {f : Char → Char} {cs : List Char} (h : ∀ p ∈ exposure cs, p.2 → f p.1 = p.1) :
    mapFrom f 0 cs = cs := by
  have hchars : ∀ p ∈ exposure cs, mapChar f p = p.1 := by
    rintro ⟨c, exposed⟩ hp
    cases exposed with
    | false => rfl
    | true => exact h _ hp rfl
  exact (List.map_congr_left hchars).trans (map_fst_exposureFrom 0 cs)

/-- An exchange is undone by another one, as long as both leave the regions where they are. -/
lemma mapFrom_mapFrom {f g : Char → Char} (hf : IsExchange f) {cs : List Char}
    (hnew : NoNewSuffix f (exposure cs)) (hundo : ∀ p ∈ exposure cs, p.2 → g (f p.1) = p.1) :
    mapFrom g 0 (mapFrom f 0 cs) = cs :=
  (mapFrom_comp hf hnew).trans (mapFrom_eq_self hundo)

/-- What the guard lets through: no point, and commas only as decimal marks. -/
lemma of_checkSeparators {cs : List Char} (h : checkSeparators .comma cs = [])
    {before after : List (Char × Bool)} {c : Char} (hcs : exposure cs = before ++ (c, true) :: after) :
    c ≠ '.' ∧ (c = ',' → Text.byteLength (before.map (·.1)) ∈ decimalMarks .comma cs) := by
  have hcheck : separatorMessages .comma (decimalMarks .comma cs) c
      (0 + Text.byteLength (before.map (·.1))) = [] := by
    unfold checkSeparators at h
    rw [hcs] at h
    exact eachExposed_eq_nil h
  rw [Nat.zero_add] at hcheck
  unfold separatorMessages at hcheck
  rw [if_neg (by decide)] at hcheck
  by_cases hpoint : c = '.'
  · rw [if_pos hpoint] at hcheck
    cases hcheck
  rw [if_neg hpoint] at hcheck
  refine ⟨hpoint, fun hcomma => ?_⟩
  by_contra hmark
  have hunmarked : (decimalMarks .comma cs).contains (Text.byteLength (before.map (·.1))) = false := by
    simpa using hmark
  rw [hunmarked, hcomma] at hcheck
  cases hcheck

/-- A comma that is stored as a point stands in front of a digit, so that nothing new is read as a
suffix. -/
lemma noNewSuffix_toCanonicalChar {cs : List Char} (h : checkSeparators .comma cs = []) :
    NoNewSuffix (toCanonicalChar .comma) (exposure cs) := by
  apply List.isChain_iff_forall_rel_of_append_cons_cons.mpr
  rintro ⟨c, exposed⟩ q before after hcs rfl hbracket hstored
  obtain ⟨hpoint, hmark⟩ := of_checkSeparators h hcs
  exfalso
  have hcomma : c = ',' := by
    by_contra hne
    rw [toCanonicalChar_comma, if_neg hne] at hstored
    split at hstored
    · cases hstored
    · exact hpoint hstored
  obtain ⟨before', d, after', hstored', hd, hlength⟩ := exists_of_mem_decimalMarks (hmark hcomma)
  rw [toCanonical_comma, mapFrom, ← exposure, hcs, List.map_append, List.map_cons, List.map_cons]
    at hstored'
  have hbefore : Text.byteLength (before.map (mapChar (toCanonicalChar .comma))) =
      Text.byteLength before' := by
    rw [byteLength_map_mapChar isExchange_toCanonicalChar, hlength]
  have hnext := (Text.append_inj_of_byteLength hstored' hbefore).2
  have hq : mapChar (toCanonicalChar .comma) q = d := (List.cons.inj (List.cons.inj hnext).2).1
  rw [(isExchange_toCanonicalChar.mapChar_eq_iff (by decide)).mpr hbracket] at hq
  subst hq
  exact absurd hd (by decide)

/-- With a decimal comma the two conversions undo each other, in one direction for texts without exposed
semicolons and in the other for texts that pass the guard, and neither moves anything. -/
theorem toCanonical_toDisplay_comma :
    (∀ cs : List Char, (∀ p ∈ exposure cs, p.2 → p.1 ≠ ';') →
      toCanonical .comma (toDisplay .comma cs) = cs ∧
        protectedSpans (toDisplay .comma cs) = protectedSpans cs) ∧
    (∀ cs : List Char, checkSeparators .comma cs = [] →
      toDisplay .comma (toCanonical .comma cs) = cs ∧
        protectedSpans (toCanonical .comma cs) = protectedSpans cs) ∧
    ∀ cs : List Char, Text.byteLength (toDisplay .comma cs) = Text.byteLength cs ∧
      Text.byteLength (toCanonical .comma cs) = Text.byteLength cs := by
  simp only [toDisplay_comma, toCanonical_comma]
  refine ⟨fun cs hcs => ?_, fun cs hcs => ?_, fun cs => ?_⟩
  · have hnew := noNewSuffix_toDisplayChar cs
    refine ⟨mapFrom_mapFrom isExchange_toDisplayChar hnew ?_,
      protectedSpansFrom_mapFrom isExchange_toDisplayChar 0 hnew⟩
    exact fun p hp hexposed => toCanonicalChar_toDisplayChar (hcs p hp hexposed)
  · have hnew := noNewSuffix_toCanonicalChar hcs
    refine ⟨mapFrom_mapFrom isExchange_toCanonicalChar hnew ?_,
      protectedSpansFrom_mapFrom isExchange_toCanonicalChar 0 hnew⟩
    rintro ⟨c, exposed⟩ hp rfl
    obtain ⟨before, after, hsplit⟩ := List.append_of_mem hp
    exact toDisplayChar_toCanonicalChar (of_checkSeparators hcs hsplit).1
  · exact ⟨byteLength_mapFrom isExchange_toDisplayChar 0 cs,
      byteLength_mapFrom isExchange_toCanonicalChar 0 cs⟩

/-- A suffix, a literal with separators and a bracket that is not closed. -/
theorem toCanonical_toDisplay_comma_of_brackets :
    toCanonical .comma (toDisplay .comma "MAX([d/a].[p/b], 1.5, \"x;y.\").[z,".toList) =
        "MAX([d/a].[p/b], 1.5, \"x;y.\").[z,".toList ∧
      toDisplay .comma (toCanonical .comma "MAX([d/a].[p/b]; 1,5; \"x;y.\")".toList) =
        "MAX([d/a].[p/b]; 1,5; \"x;y.\")".toList :=
  ⟨(toCanonical_toDisplay_comma.1 _ (by decide)).1,
    (toCanonical_toDisplay_comma.2.1 _ (by decide)).1⟩

end Presentation

end OlapFormula
