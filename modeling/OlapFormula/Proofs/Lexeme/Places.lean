import OlapFormula.Proofs.FieldReference.Splitting
import OlapFormula.Proofs.Lexeme.Words

/-!
# Places of lexemes

How a text is made up of its lexemes: one stands after the other, each at its place, and nothing but
white space is between them.
-/

namespace OlapFormula

namespace Text

lemma byteLength_append (xs ys : List Char) :
    byteLength (xs ++ ys) = byteLength xs + byteLength ys := by
  induction xs with
  | nil => simp [byteLength]
  | cons x xs ih => rw [List.cons_append, byteLength, byteLength, ih, Nat.add_assoc]

lemma eq_nil_of_byteLength {xs : List Char} (h : byteLength xs = 0) : xs = [] := by
  cases xs with
  | nil => rfl
  | cons x xs =>
    have hsize := x.utf8Size_pos
    rw [byteLength] at h
    omega

lemma append_inj_of_byteLength {xs ys xs' ys' : List Char} (h : xs ++ xs' = ys ++ ys')
    (hlength : byteLength xs = byteLength ys) : xs = ys ∧ xs' = ys' := by
  rcases List.append_eq_append_iff.mp h with ⟨between, rfl, rfl⟩ | ⟨between, rfl, rfl⟩
  · rw [byteLength_append] at hlength
    have hbetween : byteLength between = 0 := by omega
    obtain rfl := eq_nil_of_byteLength hbetween
    simp
  · rw [byteLength_append] at hlength
    have hbetween : byteLength between = 0 := by omega
    obtain rfl := eq_nil_of_byteLength hbetween
    simp

end Text

namespace Lexeme

lemma exists_digits (cs : List Char) :
    ∃ digits rest, cs = digits ++ rest ∧ digitCount cs = digits.length ∧
      ∀ c ∈ digits, c.isDigit = true :=
  ⟨_, _, (List.takeWhile_append_dropWhile (p := Char.isDigit)).symm, rfl,
    fun _ hc => List.mem_takeWhile_imp hc⟩

lemma exists_fraction (cs : List Char) :
    ∃ fraction rest, cs = fraction ++ rest ∧ fractionLength cs = fraction.length ∧
      (fraction = [] ∨ ∃ digits, fraction = '.' :: digits ∧ ∀ c ∈ digits, c.isDigit = true) := by
  unfold fractionLength
  split
  · rename_i cs
    obtain ⟨digits, rest, rfl, hcount, hdigits⟩ := exists_digits cs
    exact ⟨'.' :: digits, rest, rfl, by rw [hcount, List.length_cons, Nat.add_comm],
      Or.inr ⟨digits, rfl, hdigits⟩⟩
  · exact ⟨[], cs, rfl, rfl, Or.inl rfl⟩

/-- Length of the sign at the start of a text. -/
def signLength : List Char → Nat
  | '+' :: _ | '-' :: _ => 1
  | _ => 0

lemma signLength_le (cs : List Char) : signLength cs ≤ cs.length := by
  unfold signLength
  split <;> simp

lemma mem_sign {cs : List Char} : ∀ c ∈ cs.take (signLength cs), c ∈ ['+', '-'] := by
  unfold signLength
  split <;> simp

lemma exponentLength_cons {c : Char} (hc : (decide (c = 'e') || decide (c = 'E')) = true)
    (cs : List Char) :
    exponentLength (c :: cs) =
      if digitCount (cs.drop (signLength cs)) = 0 then 0
      else 1 + signLength cs + digitCount (cs.drop (signLength cs)) :=
  if_pos hc

/-- The characters of an exponent. -/
def IsExponentChar (c : Char) : Prop := c.isDigit = true ∨ c ∈ ['e', 'E', '+', '-']

lemma exists_exponent (cs : List Char) :
    ∃ exponent rest, cs = exponent ++ rest ∧ exponentLength cs = exponent.length ∧
      ∀ c ∈ exponent, IsExponentChar c := by
  have hnone (cs : List Char) : ∃ exponent rest : List Char, cs = exponent ++ rest ∧
      0 = exponent.length ∧ ∀ c ∈ exponent, IsExponentChar c := ⟨[], cs, rfl, rfl, by simp⟩
  cases cs with
  | nil => exact hnone []
  | cons c cs =>
    by_cases hmark : (decide (c = 'e') || decide (c = 'E')) = true
    · rw [exponentLength_cons hmark]
      split
      · exact hnone _
      · obtain ⟨digits, rest, hrest, hlength, hdigits⟩ := exists_digits (cs.drop (signLength cs))
        refine ⟨c :: (cs.take (signLength cs) ++ digits), rest, ?_, ?_, ?_⟩
        · rw [List.cons_append, List.append_assoc, ← hrest, List.take_append_drop]
        · rw [hlength, List.length_cons, List.length_append, List.length_take_of_le (signLength_le cs)]
          omega
        · rw [List.forall_mem_cons, List.forall_mem_append]
          have hc : c ∈ ['e', 'E', '+', '-'] := by
            rw [Bool.or_eq_true, decide_eq_true_eq, decide_eq_true_eq] at hmark
            rcases hmark with rfl | rfl <;> decide
          exact ⟨Or.inr hc, fun d hd => Or.inr (List.mem_append_right ['e', 'E'] (mem_sign d hd)),
            fun d hd => Or.inl (hdigits d hd)⟩
    · have hzero : exponentLength (c :: cs) = 0 := if_neg hmark
      rw [hzero]
      exact hnone _

/-- A number: digits, perhaps a point with more of them, and perhaps an exponent. -/
def IsNumber (cs : List Char) : Prop :=
  ∃ whole fraction exponent, cs = whole ++ fraction ++ exponent ∧ (∀ c ∈ whole, c.isDigit = true) ∧
    (fraction = [] ∨ ∃ digits, fraction = '.' :: digits ∧ ∀ c ∈ digits, c.isDigit = true) ∧
    ∀ c ∈ exponent, IsExponentChar c

lemma exists_number (cs : List Char) :
    ∃ number rest, cs = number ++ rest ∧ numberLength cs = number.length ∧ IsNumber number := by
  obtain ⟨whole, cs, rfl, hcount, hwhole⟩ := exists_digits cs
  obtain ⟨fraction, cs, rfl, hfraction, hpoint⟩ := exists_fraction cs
  obtain ⟨exponent, rest, rfl, hlength, hexponent⟩ := exists_exponent cs
  refine ⟨whole ++ fraction ++ exponent, rest, by simp, ?_,
    whole, fraction, exponent, rfl, hwhole, hpoint, hexponent⟩
  unfold numberLength
  dsimp only
  rw [hcount, List.drop_left, hfraction, ← List.length_append, ← List.append_assoc, List.drop_left,
    hlength, ← List.length_append]

lemma numberLength_pos {cs : List Char} (h : startsNumber cs = true) : 0 < numberLength cs := by
  unfold numberLength
  dsimp only
  unfold startsNumber at h
  split at h
  · rename_i c cs
    have hwhole : digitCount ('.' :: c :: cs) = 0 := rfl
    simp only [hwhole, List.drop_zero, fractionLength]
    omega
  · rename_i c cs _
    have hwhole : digitCount (c :: cs) ≠ 0 := by simp [digitCount, h]
    omega
  · cases h

/-- A lexeme is taken off the front of a text. -/
lemma exists_classify (c : Char) (cs : List Char) :
    ∃ body rest, cs = body ++ rest ∧ (classify c cs).2 = 1 + body.length := by
  have hone : ∃ body rest : List Char, cs = body ++ rest ∧ 1 = 1 + body.length := ⟨[], cs, rfl, rfl⟩
  have htwo {d : Char} {ds : List Char} :
      ∃ body rest : List Char, d :: ds = body ++ rest ∧ 2 = 1 + body.length := ⟨[d], ds, rfl, rfl⟩
  have hall : ∃ body rest : List Char, cs = body ++ rest ∧ 1 + cs.length = 1 + body.length :=
    ⟨cs, [], (List.append_nil cs).symm, rfl⟩
  have hfront {lexeme rest : List Char} (h : c :: cs = lexeme ++ rest) (hne : 0 < lexeme.length) :
      ∃ body rest : List Char, cs = body ++ rest ∧ lexeme.length = 1 + body.length := by
    obtain ⟨d, body, rfl⟩ := List.exists_cons_of_length_pos hne
    obtain ⟨rfl, rfl⟩ := List.cons.inj h
    exact ⟨body, rest, rfl, by rw [List.length_cons, Nat.add_comm]⟩
  unfold classify
  split
  any_goals first | exact hone | exact htwo
  · split
    · rename_i body rest hsplit
      exact ⟨body, rest, (Text.splitAfterQuote_eq_some hsplit).1, rfl⟩
    · exact hall
  · split
    · rename_i field rest hsplit
      refine hfront (FieldReference.splitField_eq_some hsplit).1 ?_
      exact FieldReference.length_pos_of_splitField hsplit
    · exact hall
  · split_ifs with hnumber hname
    · obtain ⟨number, rest, hcs, hlength, -⟩ := exists_number (c :: cs)
      rw [hlength]
      exact hfront hcs (hlength ▸ numberLength_pos hnumber)
    · exact ⟨_, _, (List.takeWhile_append_dropWhile (p := isNamePart)).symm, rfl⟩
    · exact hone

lemma eq_nil_of_length {body rest : List Char} (h : 1 + (body ++ rest).length = 1 + body.length) :
    rest = [] := by
  rw [List.length_append] at h
  exact List.eq_nil_of_length_eq_zero (by omega)

/-- A quote begins a string, or what runs to the end of the text. -/
lemma classify_quote {kind : LexemeKind} {body rest : List Char}
    (h : classify '"' (body ++ rest) = (kind, 1 + body.length)) :
    (kind = .string ∧ Text.splitAfterQuote (body ++ rest) = some (body, rest)) ∨
      kind = .unterminated ∧ Text.splitAfterQuote (body ++ rest) = none ∧ rest = [] := by
  cases hsplit : Text.splitAfterQuote (body ++ rest) with
  | some parts =>
    simp only [classify, hsplit] at h
    obtain ⟨rfl, hlength⟩ := Prod.mk.inj h
    have hcs := (Text.splitAfterQuote_eq_some hsplit).1
    obtain ⟨hbody, hrest⟩ := List.append_inj hcs (Nat.add_left_cancel hlength).symm
    exact Or.inl ⟨rfl, congrArg some (Prod.ext hbody.symm hrest.symm)⟩
  | none =>
    simp only [classify, hsplit] at h
    obtain ⟨rfl, hlength⟩ := Prod.mk.inj h
    exact Or.inr ⟨rfl, rfl, eq_nil_of_length hlength⟩

/-- A bracket begins a field, or what runs to the end of the text. -/
lemma classify_bracket {kind : LexemeKind} {body rest : List Char}
    (h : classify '[' (body ++ rest) = (kind, 1 + body.length)) :
    (kind = .field ∧ FieldReference.splitField ('[' :: body ++ rest) = some ('[' :: body, rest)) ∨
      kind = .unterminated ∧ FieldReference.splitField ('[' :: body ++ rest) = none ∧ rest = [] := by
  rw [List.cons_append]
  cases hsplit : FieldReference.splitField ('[' :: (body ++ rest)) with
  | some parts =>
    simp only [classify, hsplit] at h
    obtain ⟨rfl, hlength⟩ := Prod.mk.inj h
    have hcs := (FieldReference.splitField_eq_some hsplit).1
    rw [Nat.add_comm, ← List.length_cons] at hlength
    obtain ⟨hbody, hrest⟩ := List.append_inj hcs hlength.symm
    exact Or.inl ⟨rfl, congrArg some (Prod.ext hbody.symm hrest.symm)⟩
  | none =>
    simp only [classify, hsplit] at h
    obtain ⟨rfl, hlength⟩ := Prod.mk.inj h
    exact Or.inr ⟨rfl, rfl, eq_nil_of_length hlength⟩

/-- A text that begins at a place is read as these lexemes. -/
inductive Scans : Nat → List Char → List Lexeme → Prop
  | nil (start : Nat) : Scans start [] []
  | blank {start : Nat} {c : Char} {cs : List Char} {ls : List Lexeme} : Text.isBlank c = true →
    Scans (start + c.utf8Size) cs ls → Scans start (c :: cs) ls
  | lexeme {start : Nat} {kind : LexemeKind} {c : Char} {body rest : List Char} {ls : List Lexeme} :
    Text.isBlank c = false → classify c (body ++ rest) = (kind, 1 + body.length) →
    Scans (start + Text.byteLength (c :: body)) rest ls →
    Scans start (c :: body ++ rest) (⟨kind, start, c :: body⟩ :: ls)

lemma scanFrom_append {start : Nat} (xs cs : List Char) :
    scanFrom xs.length start (xs ++ cs) = scanFrom 0 (start + Text.byteLength xs) cs := by
  induction xs generalizing start with
  | nil => rfl
  | cons x xs ih =>
    rw [List.length_cons, List.cons_append, scanFrom, ih, Text.byteLength, Nat.add_assoc]

lemma take_lexeme (c : Char) (body rest : List Char) :
    (c :: (body ++ rest)).take (1 + body.length) = c :: body := by
  rw [Nat.add_comm, List.take_succ_cons, List.take_left]

lemma scanFrom_lexeme {start : Nat} (c : Char) (body rest : List Char) :
    scanFrom (1 + body.length - 1) (start + c.utf8Size) (body ++ rest) =
      scanFrom 0 (start + Text.byteLength (c :: body)) rest := by
  rw [Nat.add_sub_cancel_left, scanFrom_append, Text.byteLength, Nat.add_assoc]

/-- The scanner finds the lexemes that a text is read as, and no others. -/
theorem scans_iff {start : Nat} {cs : List Char} {ls : List Lexeme} :
    Scans start cs ls ↔ scanFrom 0 start cs = ls := by
  constructor
  · intro h
    induction h with
    | nil start => rfl
    | blank hc _ ih => rw [scanFrom, if_pos hc, ih]
    | @lexeme start kind c body rest ls hc hclassify _ ih =>
      rw [List.cons_append, scanFrom]
      simp only [if_neg (show ¬Text.isBlank c = true by simp [hc]), hclassify]
      rw [take_lexeme, scanFrom_lexeme, ih]
  · rintro rfl
    induction h : cs.length using Nat.strong_induction_on generalizing start cs with
    | _ n ih =>
      subst h
      cases cs with
      | nil => exact .nil start
      | cons c cs =>
        by_cases hc : Text.isBlank c = true
        · rw [scanFrom, if_pos hc]
          exact .blank hc (ih _ (Nat.lt_succ_self _) rfl)
        · obtain ⟨body, rest, rfl, hlength⟩ := exists_classify c cs
          have hclassify : classify c (body ++ rest) =
              ((classify c (body ++ rest)).1, 1 + body.length) := Prod.ext rfl hlength
          rw [scanFrom]
          simp only [if_neg hc]
          rw [hlength, take_lexeme, scanFrom_lexeme]
          refine .lexeme (by simpa using hc) hclassify (ih rest.length ?_ rfl)
          simp only [List.length_cons, List.length_append]
          omega

lemma scans_scan (cs : List Char) : Scans 0 cs (scan cs) := scans_iff.mpr rfl

/-- A lexeme is read where it stands in the text. -/
lemma Scans.exists_classified {start : Nat} {cs : List Char} {ls : List Lexeme} (h : Scans start cs ls)
    {lexeme : Lexeme} (hmem : lexeme ∈ ls) :
    ∃ before c body rest, cs = before ++ (c :: body ++ rest) ∧
      lexeme.start = start + Text.byteLength before ∧ lexeme.chars = c :: body ∧
      Text.isBlank c = false ∧ classify c (body ++ rest) = (lexeme.kind, 1 + body.length) := by
  have hlater {start : Nat} (xs : List Char) {cs : List Char}
      (h : ∃ before c body rest, cs = before ++ (c :: body ++ rest) ∧
        lexeme.start = start + Text.byteLength xs + Text.byteLength before ∧ lexeme.chars = c :: body ∧
        Text.isBlank c = false ∧ classify c (body ++ rest) = (lexeme.kind, 1 + body.length)) :
      ∃ before c body rest, xs ++ cs = before ++ (c :: body ++ rest) ∧
        lexeme.start = start + Text.byteLength before ∧ lexeme.chars = c :: body ∧
        Text.isBlank c = false ∧ classify c (body ++ rest) = (lexeme.kind, 1 + body.length) := by
    obtain ⟨before, c, body, rest, hcs, hstart, hread⟩ := h
    refine ⟨xs ++ before, c, body, rest, by rw [hcs, List.append_assoc], ?_, hread⟩
    rw [hstart, Text.byteLength_append, Nat.add_assoc]
  induction h with
  | nil start => cases hmem
  | @blank start c cs ls _ _ ih => exact hlater [c] (ih hmem)
  | @lexeme start kind c body rest ls hc hclassify _ ih =>
    rcases List.mem_cons.mp hmem with rfl | hmem
    · exact ⟨[], c, body, rest, rfl, rfl, rfl, hc, hclassify⟩
    · exact hlater (c :: body) (ih hmem)

/-- A lexeme stands in the text at its place. -/
lemma Scans.exists_of_mem {start : Nat} {cs : List Char} {ls : List Lexeme} (h : Scans start cs ls)
    {lexeme : Lexeme} (hmem : lexeme ∈ ls) :
    ∃ before after, cs = before ++ lexeme.chars ++ after ∧
      lexeme.start = start + Text.byteLength before := by
  obtain ⟨before, c, body, rest, hcs, hstart, hchars, -⟩ := h.exists_classified hmem
  exact ⟨before, rest, by rw [hcs, hchars, List.append_assoc], hstart⟩

end Lexeme

end OlapFormula
