import Mathlib.Data.List.Infix
import OlapFormula.Folding.Step

/-!
# Patterns

A text matches a pattern if it can be cut into pieces, one for each character of the pattern, of which each
is something that its character stands for. Matching keeps the last `%` only as a place to go back to. No
match is lost with the earlier ones: what the last one may still begin with is part of all they could give.
-/

namespace OlapFormula

namespace Text

variable {c x : Char} {cs text pattern rest : List Char}

/-- A `%` stands for any run of characters, `_` for any one, and any character for itself. -/
def StandsFor (x : Char) (piece : List Char) : Prop :=
  x = '%' ∨ x = '_' ∧ piece.length = 1 ∨ piece = [x]

/-- The text can be cut into pieces for which the characters of the pattern stand, in this order. -/
def IsLike (pattern text : List Char) : Prop :=
  ∃ pieces, List.Forall₂ StandsFor pattern pieces ∧ pieces.flatten = text

lemma isLike_nil : IsLike [] text ↔ text = [] := by
  constructor
  · rintro ⟨_, ⟨⟩, rfl⟩
    rfl
  · rintro rfl
    exact ⟨[], .nil, rfl⟩

lemma isLike_cons :
    IsLike (x :: pattern) text ↔ ∃ piece rest, StandsFor x piece ∧ text = piece ++ rest ∧
      IsLike pattern rest := by
  constructor
  · rintro ⟨_, ⟨⟩, rfl⟩
    next piece pieces hpiece hpieces => exact ⟨piece, pieces.flatten, hpiece, rfl, pieces, hpieces, rfl⟩
  · rintro ⟨piece, _, hpiece, rfl, pieces, hpieces, rfl⟩
    exact ⟨piece :: pieces, .cons hpiece hpieces, rfl⟩

/-- What follows a `%` may begin anywhere. -/
lemma isLike_run : IsLike ('%' :: pattern) text ↔ ∃ rest, rest <:+ text ∧ IsLike pattern rest := by
  rw [isLike_cons]
  constructor
  · rintro ⟨piece, rest, -, rfl, hrest⟩
    exact ⟨rest, List.suffix_append piece rest, hrest⟩
  · rintro ⟨rest, ⟨piece, rfl⟩, hrest⟩
    exact ⟨piece, rest, Or.inl rfl, rfl, hrest⟩

lemma standsFor_of_ne {piece : List Char} (hx : x ≠ '%') :
    StandsFor x piece ↔ ∃ c, piece = [c] ∧ (x = '_' ∨ x = c) := by
  simp only [StandsFor, hx, false_or, List.length_eq_one_iff]
  constructor
  · rintro (⟨hone, c, rfl⟩ | rfl)
    · exact ⟨c, rfl, Or.inl hone⟩
    · exact ⟨x, rfl, Or.inr rfl⟩
  · rintro ⟨c, rfl, hone | rfl⟩
    · exact Or.inl ⟨hone, c, rfl⟩
    · exact Or.inr rfl

lemma isLike_one (hx : x ≠ '%') :
    IsLike (x :: pattern) (c :: cs) ↔ (x = '_' ∨ x = c) ∧ IsLike pattern cs := by
  rw [isLike_cons]
  constructor
  · rintro ⟨piece, rest, hpiece, htext, hrest⟩
    obtain ⟨_, rfl, hone⟩ := (standsFor_of_ne hx).mp hpiece
    obtain ⟨rfl, rfl⟩ := List.cons.inj htext
    exact ⟨hone, hrest⟩
  · rintro ⟨hone, hrest⟩
    exact ⟨[c], cs, (standsFor_of_ne hx).mpr ⟨c, rfl, hone⟩, rfl, hrest⟩

/-- The part of a pattern before the first `%` stands for as many characters as it has. -/
lemma exists_of_isLike_append {passed : List Char} (hpassed : '%' ∉ passed)
    (h : IsLike (passed ++ pattern) text) :
    ∃ rest, rest <:+ text ∧ text.length = passed.length + rest.length ∧ IsLike pattern rest := by
  induction passed generalizing text with
  | nil => exact ⟨text, List.suffix_refl text, by simp, h⟩
  | cons x passed ih =>
    rw [List.mem_cons, not_or] at hpassed
    obtain ⟨piece, after, hpiece, rfl, hafter⟩ := isLike_cons.mp h
    obtain ⟨c, rfl, -⟩ := (standsFor_of_ne (Ne.symm hpassed.1)).mp hpiece
    obtain ⟨rest, hsuffix, hlength, hrest⟩ := ih hpassed.2 hafter
    refine ⟨rest, hsuffix.trans (List.suffix_cons c after), ?_, hrest⟩
    simp only [List.singleton_append, List.length_cons, hlength]
    omega

lemma isLike_nothing : IsLike pattern [] ↔ pattern.all (· == '%') = true := by
  induction pattern with
  | nil => simp [isLike_nil]
  | cons x pattern ih =>
    by_cases hx : x = '%'
    · subst hx
      rw [isLike_run]
      simp [List.suffix_nil, ih]
    · rw [isLike_cons]
      simp only [standsFor_of_ne hx, List.all_cons, beq_false_of_ne hx, Bool.false_and]
      refine iff_of_false ?_ Bool.false_ne_true
      rintro ⟨_, _, ⟨c, rfl, -⟩, hnil, -⟩
      cases hnil

lemma Attempt.Refuses.not_isLike (h : Attempt.Refuses c pattern) : ¬ IsLike pattern (c :: cs) := by
  cases pattern with
  | nil => simp [isLike_nil]
  | cons x pattern =>
    obtain ⟨hrun, hany, hself⟩ := h x rfl
    rw [isLike_one hrun]
    exact fun hlike => hlike.1.elim hany hself

namespace Attempt

variable {attempt after : Attempt}

/-- The text is like the pattern that is left, or there is a place for what follows the last `%`. -/
def CanSucceed (attempt : Attempt) : Prop :=
  IsLike attempt.pattern attempt.text ∨
    ∃ retry ∈ attempt.retry, ∃ rest, rest <:+ retry.2 ∧ IsLike retry.1 rest

/-- Since the last `%` characters were passed one by one, beginning where its piece ends now. -/
def IsOnTrack (attempt : Attempt) : Prop :=
  ∀ retry ∈ attempt.retry, ∃ passed whole, retry = (passed ++ attempt.pattern, whole.drop 1) ∧
    '%' ∉ passed ∧ attempt.text <:+ whole ∧ whole.length = passed.length + attempt.text.length

/-- A later place for what follows the last `%` leads to a later place for the pattern that is left. -/
lemma IsOnTrack.exists_rest {retry : List Char × List Char} (h : attempt.IsOnTrack)
    (hretry : retry ∈ attempt.retry) (hsuffix : rest <:+ retry.2) (hlike : IsLike retry.1 rest) :
    ∃ later, later <:+ attempt.text ∧ IsLike attempt.pattern later := by
  obtain ⟨passed, whole, rfl, hpassed, htext, hlength⟩ := h retry hretry
  obtain ⟨later, hlater, hcount, hlike⟩ := exists_of_isLike_append hpassed hlike
  have hwhole : later <:+ whole := (hlater.trans hsuffix).trans (List.drop_suffix 1 whole)
  have hbound := hsuffix.length_le
  rw [List.length_drop] at hbound
  exact ⟨later, List.suffix_of_suffix_length_le hwhole htext (by omega), hlike⟩

/-- The last `%` takes the place of the one before. -/
lemma Moves.isOnTrack (h : Moves attempt after) (htrack : attempt.IsOnTrack) : after.IsOnTrack := by
  cases h with
  | @enter c cs pattern _ =>
    rintro _ ⟨⟩
    exact ⟨[], c :: cs, rfl, List.not_mem_nil, List.suffix_refl _, by simp⟩
  | @pass c x cs pattern _ hx _ =>
    intro retry hretry
    obtain ⟨passed, whole, rfl, hpassed, htext, hlength⟩ := htrack retry hretry
    refine ⟨passed ++ [x], whole, by simp, ?_, (List.suffix_cons c cs).trans htext, ?_⟩
    · simpa [hpassed] using hx.symm
    · simp only [List.length_cons, List.length_append, List.length_nil] at hlength ⊢
      omega
  | @back _ _ _ rest next _ =>
    rintro _ ⟨⟩
    exact ⟨[], next, rfl, List.not_mem_nil, List.suffix_refl _, by simp⟩

lemma exists_suffix_iff {P : List Char → Prop} :
    (∃ rest, rest <:+ text ∧ P rest) ↔ P text ∨ ∃ rest, rest <:+ text.drop 1 ∧ P rest := by
  cases text with
  | nil => simp [List.suffix_nil]
  | cons c cs => simp [List.suffix_cons_iff, or_and_right, exists_or]

/-- No step gains or loses a match. -/
theorem Moves.canSucceed_iff (h : Moves attempt after) (htrack : attempt.IsOnTrack) :
    after.CanSucceed ↔ attempt.CanSucceed := by
  cases h with
  | @enter c cs pattern retry =>
    have hafter : CanSucceed ⟨c :: cs, pattern, some (pattern, cs)⟩ ↔
        IsLike ('%' :: pattern) (c :: cs) := by
      rw [isLike_run, exists_suffix_iff]
      simp [CanSucceed]
    rw [hafter]
    refine ⟨Or.inl, fun hsuccess => hsuccess.elim id ?_⟩
    -- What the `%` before could give, this one gives as well.
    rintro ⟨before, hbefore, rest, hrest, hlike⟩
    obtain ⟨later, hlater, hlike⟩ := htrack.exists_rest hbefore hrest hlike
    obtain ⟨last, hlast, hlike⟩ := isLike_run.mp hlike
    exact isLike_run.mpr ⟨last, hlast.trans hlater, hlike⟩
  | @pass c x cs pattern retry hx hone => simp [CanSucceed, isLike_one hx, hone]
  | @back c cs pattern rest next hrefuses =>
    have hafter := @exists_suffix_iff next (IsLike rest)
    simp [CanSucceed, hrefuses.not_isLike, hafter]

/-- When a step gives the answer: at the end of the text, or where there is nothing to go back to. -/
inductive Stops : Attempt → Bool → Prop
  | finish {pattern : List Char} {retry : Option (List Char × List Char)} :
    Stops ⟨[], pattern, retry⟩ (pattern.all (· == '%'))
  | fail {c : Char} {cs pattern : List Char} : Refuses c pattern → Stops ⟨c :: cs, pattern, none⟩ false

lemma stops_of_back {retry : Option (List Char × List Char)} {found : Bool} (hrefuses : Refuses c pattern)
    (h : back ⟨c :: cs, pattern, retry⟩ = .inr found) : Stops ⟨c :: cs, pattern, retry⟩ found := by
  cases retry with
  | some retry => cases h
  | none =>
    cases h
    exact .fail hrefuses

lemma stops_of_step {found : Bool} (h : attempt.step = .inr found) : Stops attempt found := by
  obtain ⟨text, pattern, retry⟩ := attempt
  match text, pattern with
  | [], pattern =>
    cases h
    exact .finish
  | c :: cs, [] => exact stops_of_back (by simp [Refuses]) h
  | c :: cs, x :: pattern =>
    unfold step at h
    dsimp only at h
    split_ifs at h with hrun hone
    exact stops_of_back (by simpa [Refuses, hrun] using hone) h

/-- The answer is given when it is clear. -/
theorem Stops.canSucceed_iff {found : Bool} (h : Stops attempt found) (htrack : attempt.IsOnTrack) :
    found = true ↔ attempt.CanSucceed := by
  cases h with
  | @finish pattern retry =>
    rw [← isLike_nothing]
    refine ⟨Or.inl, fun hsuccess => hsuccess.elim id ?_⟩
    rintro ⟨before, hbefore, rest, hrest, hlike⟩
    obtain ⟨later, hlater, hlike⟩ := htrack.exists_rest hbefore hrest hlike
    rwa [List.suffix_nil.mp hlater] at hlike
  | @fail c cs pattern hrefuses => simp [CanSucceed, hrefuses.not_isLike]

/-- Step after step, the attempt comes to an answer. -/
inductive EndsWith : Attempt → Bool → Prop
  | stop {attempt : Attempt} {found : Bool} : attempt.step = .inr found → EndsWith attempt found
  | move {attempt after : Attempt} {found : Bool} : attempt.step = .inl after → EndsWith after found →
    EndsWith attempt found

/-- Every attempt ends. -/
theorem endsWith_answer (attempt : Attempt) : attempt.EndsWith attempt.answer := by
  induction attempt using answer.induct with
  | case1 attempt after hstep ih =>
    have hanswer : attempt.answer = after.answer := by
      rw [answer]
      split <;> simp_all
    exact hanswer ▸ .move hstep ih
  | case2 attempt found hstep =>
    have hanswer : attempt.answer = found := by
      rw [answer]
      split <;> simp_all
    exact hanswer ▸ .stop hstep

/-- The answer that an attempt comes to is whether there is a match. -/
theorem EndsWith.canSucceed_iff {found : Bool} (h : attempt.EndsWith found) (htrack : attempt.IsOnTrack) :
    found = true ↔ attempt.CanSucceed := by
  induction h with
  | stop hstep => exact (stops_of_step hstep).canSucceed_iff htrack
  | move hstep _ ih =>
    have hmoves := moves_of_step hstep
    rw [ih (hmoves.isOnTrack htrack), hmoves.canSucceed_iff htrack]

end Attempt

end Text

/-- The matching of a pattern ends, and `LIKE` of two strings is whether the text is like the pattern. -/
theorem Node.fold?_like (order : DateOrder) (text pattern : String) :
    ∃ found, Text.Attempt.EndsWith { text := text.toList, pattern := pattern.toList } found ∧
      (Node.call .like [.string text, .string pattern]).fold? order = some (.boolean found) ∧
      (found = true ↔ Text.IsLike pattern.toList text.toList) := by
  have hends := Text.Attempt.endsWith_answer { text := text.toList, pattern := pattern.toList }
  refine ⟨_, hends, rfl, ?_⟩
  rw [hends.canSucceed_iff (by rintro _ ⟨⟩)]
  simp [Text.Attempt.CanSucceed]

end OlapFormula
