import Mathlib.Data.List.TakeWhile
import OlapFormula.Proofs.Lexeme.Words

/-!
# What single words look like

Names, numbers, string literals and field references are read as one word each.
-/

namespace OlapFormula.Lexeme

/-- A name: letters, numerals and underscores, the first of them no numeral. -/
def isName : List Char → Bool
  | [] => false
  | c :: body => !Text.isBlank c && isNameStart c && !c.isDigit && body.all isNamePart

lemma startsNumber_cons {c : Char} (hc : c ≠ '.') (cs : List Char) :
    startsNumber (c :: cs) = c.isDigit := by
  unfold startsNumber
  split
  · simp_all
  · simp_all
  · contradiction

lemma classify_name {c : Char} (h : isNameStart c) (hdigit : c.isDigit = false) (cs : List Char) :
    classify c cs = (.identifier, 1 + (cs.takeWhile isNamePart).length) := by
  have hc : c ≠ '.' := by
    rintro rfl
    exact absurd h (by decide)
  unfold classify
  split
  all_goals first
    | exact absurd h (by decide)
    | simp [startsNumber_cons hc, hdigit, h]

theorem spells_name {cs : List Char} (h : isName cs) : Spells cs [(.identifier, cs)] := by
  intro rest hrest
  cases cs with
  | nil => simp [isName] at h
  | cons c body =>
    simp only [isName, Bool.and_eq_true, Bool.not_eq_true', List.all_eq_true] at h
    obtain ⟨⟨⟨hblank, hstart⟩, hdigit⟩, hbody⟩ := h
    have hrun : (body ++ rest).takeWhile isNamePart = body :=
      hrest.takeWhile_append hbody (by decide)
    apply words_lexeme body hblank
    rw [classify_name hstart hdigit, hrun]

/-- Digits, and perhaps a point and more digits after it. -/
def IsNumeral (cs : List Char) : Prop :=
  ∃ whole fraction, cs = whole ++ fraction ∧ whole ≠ [] ∧ (∀ c ∈ whole, c.isDigit) ∧
    (fraction = [] ∨ ∃ digits, fraction = '.' :: digits ∧ ∀ c ∈ digits, c.isDigit)

lemma digitCount_append {cs rest : List Char} (h : ∀ c ∈ cs, c.isDigit)
    (hrest : ∀ c, rest.head? = some c → c.isDigit = false) :
    digitCount (cs ++ rest) = cs.length := by
  unfold digitCount
  rw [List.takeWhile_append_of_pos h]
  cases rest with
  | nil => simp
  | cons d rest => rw [List.takeWhile_cons_of_neg (by simp [hrest d rfl]), List.append_nil]

lemma Delimited.isDigit_head {rest : List Char} (h : Delimited rest) (c : Char)
    (hc : rest.head? = some c) : c.isDigit = false := by
  have hnone : !c.isDigit := h.of_all (p := fun d => !d.isDigit) (by decide) hc
  simpa using hnone

lemma Delimited.exponentLength {rest : List Char} (h : Delimited rest) :
    exponentLength rest = 0 := by
  cases rest with
  | nil => rfl
  | cons c rest =>
    have hmark : !(decide (c = 'e') || decide (c = 'E')) :=
      h.of_all (p := fun d => !(decide (d = 'e') || decide (d = 'E'))) (by decide) rfl
    have hnone : ¬(decide (c = 'e') || decide (c = 'E')) = true := by simpa using hmark
    simp only [Lexeme.exponentLength, if_neg hnone]

lemma Delimited.fractionLength {rest : List Char} (h : Delimited rest) :
    fractionLength rest = 0 := by
  unfold Lexeme.fractionLength
  split
  · exact absurd (h '.' rfl) (by decide)
  · rfl

lemma numberLength_numeral {cs rest : List Char} (h : IsNumeral cs) (hrest : Delimited rest) :
    numberLength (cs ++ rest) = cs.length := by
  obtain ⟨whole, fraction, rfl, hne, hwhole, hfraction⟩ := h
  unfold numberLength
  rcases hfraction with rfl | ⟨digits, rfl, hdigits⟩
  · simp only [List.append_nil, digitCount_append hwhole hrest.isDigit_head, List.drop_left,
      hrest.fractionLength, Nat.add_zero, hrest.exponentLength]
  · have hpoint : ∀ c, ('.' :: digits ++ rest).head? = some c → c.isDigit = false := by
      intro c hc
      obtain rfl : '.' = c := by simpa using hc
      decide
    have hlength := digitCount_append hdigits hrest.isDigit_head
    have hdrop : ((whole ++ '.' :: digits) ++ rest).drop (whole.length + (1 + digits.length)) =
        rest := by
      have hsum : whole.length + (1 + digits.length) = (whole ++ '.' :: digits).length := by
        simp [Nat.add_comm]
      rw [hsum, List.drop_left]
    have hfraction : Lexeme.fractionLength ('.' :: digits ++ rest) = 1 + digits.length := by
      simp only [List.cons_append, Lexeme.fractionLength, hlength]
    rw [List.append_assoc] at hdrop ⊢
    simp only [digitCount_append hwhole hpoint, List.drop_left, hfraction, hdrop,
      hrest.exponentLength, Nat.add_zero, List.length_append, List.length_cons]
    omega

lemma classify_digit {c : Char} (h : c.isDigit) (cs : List Char) :
    classify c cs = (.number, numberLength (c :: cs)) := by
  have hc : c ≠ '.' := by
    rintro rfl
    exact absurd h (by decide)
  unfold classify
  split
  all_goals first
    | exact absurd h (by decide)
    | simp [startsNumber_cons hc, h]

lemma isBlank_of_isDigit {c : Char} (h : c.isDigit) : Text.isBlank c = false := by
  simp only [Char.isDigit, Bool.and_eq_true, decide_eq_true_eq] at h
  have hlow : 48 ≤ c.toNat := h.1
  have hhigh : c.toNat ≤ 57 := h.2
  simp [Text.isBlank]
  omega

lemma IsNumeral.head {cs : List Char} (h : IsNumeral cs) :
    ∃ c body, cs = c :: body ∧ c.isDigit := by
  obtain ⟨whole, fraction, rfl, hne, hwhole, -⟩ := h
  obtain ⟨c, whole, rfl⟩ := List.exists_cons_of_ne_nil hne
  exact ⟨c, whole ++ fraction, rfl, hwhole c (List.mem_cons_self ..)⟩

theorem spells_number {cs : List Char} (h : IsNumeral cs) : Spells cs [(.number, cs)] := by
  intro rest hrest
  have hlength := numberLength_numeral h hrest
  obtain ⟨c, body, rfl, hc⟩ := h.head
  apply words_lexeme body (isBlank_of_isDigit hc)
  rw [List.cons_append] at hlength
  rw [classify_digit hc, hlength, List.length_cons, Nat.add_comm]

lemma splitAfterQuote_doubleQuotes (cs : List Char) {rest : List Char}
    (hrest : rest.head? ≠ some '"') :
    Text.splitAfterQuote (Text.doubleQuotes cs ++ '"' :: rest) =
      some (Text.doubleQuotes cs ++ ['"'], rest) := by
  induction cs with
  | nil =>
    cases rest with
    | nil => rfl
    | cons c rest =>
      have hc : c ≠ '"' := by simpa using hrest
      simp [Text.doubleQuotes, Text.splitAfterQuote, hc]
  | cons c cs ih =>
    by_cases hc : c = '"'
    · subst hc
      simp [Text.doubleQuotes, Text.splitAfterQuote, ih]
    · simp [Text.doubleQuotes, hc, Text.splitAfterQuote, ih]

theorem spells_string (cs : List Char) : Spells (Text.quote cs) [(.string, Text.quote cs)] := by
  intro rest hrest
  have hhead : rest.head? ≠ some '"' := fun h => absurd (hrest _ h) (by decide)
  have hsplit := splitAfterQuote_doubleQuotes cs hhead
  have hquote : Text.quote cs ++ rest = '"' :: (Text.doubleQuotes cs ++ ['"'] ++ rest) := by
    simp [Text.quote]
  rw [hquote]
  apply words_lexeme _ (by decide)
  rw [List.append_assoc]
  simp [classify, hsplit]

theorem spells_field {r : FieldReference} (h : r.IsWellFormed) :
    Spells r.text.toList [(.field, r.text.toList)] := by
  intro rest hrest
  have hhead : rest.head? ≠ some '.' := fun h => absurd (hrest _ h) (by decide)
  have hsplit := FieldReference.splitField_text h hhead
  obtain ⟨body, hbody⟩ : ∃ body, r.text.toList = '[' :: body := ⟨_, FieldReference.text_toList r⟩
  rw [hbody, List.cons_append] at hsplit ⊢
  apply words_lexeme body (by decide)
  simp [classify, hsplit, Nat.add_comm]

end OlapFormula.Lexeme
