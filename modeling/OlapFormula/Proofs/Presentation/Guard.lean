import OlapFormula.Proofs.Compiler.Display
import OlapFormula.Proofs.Lexeme.Cutting

/-!
# The guard of separators

What the guard lets through, exactly. Shown with a decimal comma, a formula passes if and only if its points
have digits after them.
-/

namespace OlapFormula

namespace Presentation

/-- What is shown of a formula passes the guard only if its points have digits after them. -/
lemma hasPlainPoints_of_checkSeparators {cs : List Char}
    (hregular : ∀ lexeme ∈ Lexeme.scan cs, lexeme.kind.IsRegular)
    (hback : toCanonical .comma (toDisplay .comma cs) = cs)
    (h : checkSeparators .comma (toDisplay .comma cs) = []) : HasPlainPoints cs := by
  intro number hmem hkind place hplace hpoint
  have hscans := Lexeme.scans_scan cs
  obtain ⟨pre, post, hchars, rfl⟩ : ∃ pre post, number.chars = pre ++ '.' :: post ∧ place = pre.length := by
    obtain ⟨hlt, hget⟩ := List.getElem?_eq_some_iff.mp hpoint
    refine ⟨number.chars.take place, number.chars.drop (place + 1), ?_, ?_⟩
    · rw [← hget, List.getElem_cons_drop, List.take_append_drop]
    · rw [List.length_take, Nat.min_eq_left hlt.le]
  obtain ⟨before, after, hexposure, hstart⟩ :=
    exposure_of_isOpen hscans hregular hmem (hscans.isOpen_of_kind hmem hkind) hchars
  -- the point is shown as a comma, so it is the decimal mark of a number
  have hshown : exposure (toDisplay .comma cs) =
      before.map (fun p => (mapChar (toDisplayChar .comma) p, p.2)) ++ (',', true) ::
        after.map fun p => (mapChar (toDisplayChar .comma) p, p.2) := by
    rw [exposure_toDisplay, exposure, hexposure, List.map_append, List.map_cons]
    rfl
  have hmark := (of_checkSeparators h hshown).2 rfl
  rw [byteLength_map_exchanged isExchange_toDisplayChar, ← Nat.zero_add (Text.byteLength _), ← hstart]
    at hmark
  unfold decimalMarks at hmark
  rw [hback] at hmark
  obtain ⟨other, hother, hmark⟩ := List.mem_filterMap.mp hmark
  obtain ⟨whole, d, rest, hwhole, hd, hsame⟩ := exists_of_decimalMark? hmark
  obtain rfl : other = number := by
    refine hscans.areBetween.eq_of_place (List.mem_filter.mp hother).1 hmem ?_
      ⟨Nat.le_add_right .., Lexeme.place_lt_stop hchars⟩
    rw [hsame]
    exact ⟨Nat.le_add_right .., Lexeme.place_lt_stop hwhole⟩
  obtain ⟨rfl, hpost⟩ := Text.append_inj_of_byteLength (hchars.symm.trans hwhole) (Nat.add_left_cancel hsame)
  obtain rfl : post = d :: rest := (List.cons.inj hpost).2
  rw [hchars, List.getElem?_append_right (Nat.le_succ _), Nat.succ_sub le_rfl, Nat.sub_self]
  simpa using hd

lemma forall_eachExposed {check : Char → Nat → List Message} {p : Message → Prop}
    (h : ∀ c place, ∀ message ∈ check c place, p message) (exposures : List (Char × Bool)) (place : Nat) :
    ∀ message ∈ eachExposed check place exposures, p message := by
  induction exposures generalizing place with
  | nil => exact List.forall_mem_nil p
  | cons q exposures ih =>
    obtain ⟨c, exposed⟩ := q
    rw [eachExposed, List.forall_mem_append]
    refine ⟨?_, ih _⟩
    cases exposed with
    | false => exact List.forall_mem_nil p
    | true => exact h c place

lemma isError_separatorMessages {locale : Locale} {marks : List Nat} (c : Char) (place : Nat) :
    ∀ message ∈ separatorMessages locale marks c place, message.isError = true := by
  unfold separatorMessages
  split_ifs <;> simp [Message.isError, wrongArgument, wrongDecimal, MessageCode.severity]

/-- The guard says nothing but errors. -/
lemma hasErrors_checkSeparators {locale : Locale} {cs : List Char} :
    Message.hasErrors (checkSeparators locale cs) = false ↔ checkSeparators locale cs = [] := by
  constructor
  · intro h
    refine List.eq_nil_iff_forall_not_mem.mpr fun message hmem => ?_
    have herror := forall_eachExposed isError_separatorMessages _ _ message hmem
    exact List.any_eq_false.mp h message hmem herror
  · intro h
    rw [h]
    rfl

lemma checkSeparators_canonical {cs : List Char} (h : ∀ p ∈ exposure cs, p.2 → p.1 ≠ ';') :
    checkSeparators .canonical cs = [] := by
  refine eachExposed_eq_nil_of fun before c after hexposure => ?_
  have hc : c ≠ ';' := h (c, true) (by rw [hexposure]; simp) rfl
  unfold separatorMessages
  rw [if_pos (by decide), if_neg hc]

/-- A comma for a semicolon; with a decimal comma both are shown as a semicolon. -/
def commaFor (c : Char) : Char := if c = ';' then ',' else c

/-- The text with commas for the semicolons that are not protected. -/
def withCommas (cs : List Char) : List Char := mapExposed commaFor cs

lemma withCommas_eq_self {cs : List Char} (h : ∀ p ∈ exposure cs, p.2 → p.1 ≠ ';') : withCommas cs = cs :=
  mapFrom_eq_self fun p hp hexposed => if_neg (h p hp hexposed)

lemma isExchange_commaFor : IsExchange commaFor := by
  constructor
  · intro c hc
    simp only [List.mem_cons, List.not_mem_nil, or_false, not_or] at hc
    exact if_neg hc.2.2
  · exact forall_separator (by decide)

lemma noNewSuffix_commaFor (cs : List Char) : NoNewSuffix commaFor (exposure cs) := by
  apply List.isChain_iff_forall_rel_of_append_cons_cons.mpr
  intro p q before after _ _ _ hpoint
  unfold commaFor at hpoint
  split at hpoint
  · cases hpoint
  · exact hpoint

/-- What is shown is read back with commas for semicolons. -/
lemma toCanonical_toDisplay (cs : List Char) : toCanonical .comma (toDisplay .comma cs) = withCommas cs := by
  have hchars : toCanonicalChar .comma ∘ toDisplayChar .comma = commaFor := by
    funext c
    by_cases hc : c = ';'
    · subst hc
      decide
    · exact (toCanonicalChar_toDisplayChar hc).trans (if_neg hc).symm
  rw [toDisplay_comma, toCanonical_comma, mapFrom_comp isExchange_toDisplayChar (noNewSuffix_toDisplayChar cs),
    hchars]
  rfl

/-- Semicolons and the commas in their places are shown alike. -/
lemma toDisplay_withCommas (cs : List Char) : toDisplay .comma (withCommas cs) = toDisplay .comma cs := by
  have hchars : toDisplayChar .comma ∘ commaFor = toDisplayChar .comma := by
    funext c
    by_cases hc : c = ';'
    · subst hc
      decide
    · exact congrArg _ (if_neg hc)
  calc toDisplay .comma (withCommas cs)
      = mapFrom (toDisplayChar .comma) 0 (mapFrom commaFor 0 cs) := toDisplay_comma _
    _ = mapFrom (toDisplayChar .comma) 0 cs := by
        rw [mapFrom_comp isExchange_commaFor (noNewSuffix_commaFor cs), hchars]
    _ = toDisplay .comma cs := (toDisplay_comma cs).symm

end Presentation

end OlapFormula
