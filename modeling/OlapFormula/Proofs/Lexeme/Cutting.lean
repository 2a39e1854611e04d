import OlapFormula.Proofs.Lexeme.Places
import OlapFormula.Proofs.Lexeme.Spelling

/-!
# Parts of a text

Between two of its lexemes a text can be cut without any lexeme being read differently.
-/

namespace OlapFormula

namespace Text

lemma splitAt?_append (xs ys : List Char) : splitAt? (byteLength xs) (xs ++ ys) = some (xs, ys) := by
  induction xs with
  | nil => cases ys <;> rfl
  | cons x xs ih =>
    have hsize := x.utf8Size_pos
    obtain ⟨n, hn⟩ : ∃ n, byteLength (x :: xs) = n + 1 :=
      Nat.exists_eq_add_one.mpr (by rw [byteLength]; omega)
    have hle : x.utf8Size ≤ n + 1 := by rw [← hn, byteLength]; exact Nat.le_add_right ..
    rw [hn, List.cons_append, splitAt?, if_pos hle, ← hn, byteLength, Nat.add_sub_cancel_left, ih]
    rfl

lemma slice_append (xs ys zs : List Char) :
    slice (xs ++ (ys ++ zs)) ⟨byteLength xs, byteLength xs + byteLength ys⟩ = ys := by
  unfold slice
  simp only [splitAt?_append, Nat.add_sub_cancel_left]

end Text

namespace FieldReference

/-- What is no bracket with its end is none if it is cut off. -/
lemma splitBrackets_of_append {xs ys : List Char} (h : splitBrackets (xs ++ ys) = none) :
    splitBrackets xs = none := by
  cases hxs : splitBrackets xs with
  | none => rfl
  | some pair =>
    obtain ⟨head, rest⟩ := pair
    obtain ⟨rfl, hread⟩ := splitBrackets_eq_some hxs
    rw [List.append_assoc, hread] at h
    cases h

/-- The suffix of a field is part of it, or not even begun in what follows. -/
lemma splitField_of_append {field xs ys : List Char}
    (h : splitField (field ++ (xs ++ ys)) = some (field, xs ++ ys)) :
    splitField (field ++ xs) = some (field, xs) := by
  unfold splitField at h
  cases hhead : splitBrackets (field ++ (xs ++ ys)) with
  | none => simp [hhead] at h
  | some pair =>
    obtain ⟨head, after⟩ := pair
    obtain ⟨hcs, hread⟩ := splitBrackets_eq_some hhead
    simp only [hhead] at h
    have halone (hpair : (head, after) = (field, xs ++ ys))
        (hsuffix : ∀ suffixed, after = '.' :: suffixed → splitBrackets suffixed = none) :
        splitField (field ++ xs) = some (field, xs) := by
      cases hpair
      unfold splitField
      rw [hread xs]
      dsimp only
      split
      · rename_i suffixed
        rw [splitBrackets_of_append (hsuffix (suffixed ++ ys) rfl)]
      · rfl
    split at h
    · rename_i suffixed
      split at h
      · rename_i suffix rest hsuffix
        obtain ⟨hsuffixed, hread'⟩ := splitBrackets_eq_some hsuffix
        cases h
        unfold splitField
        rw [List.append_assoc, hread]
        simp [hread']
      · rename_i hnone
        refine halone (Option.some.inj h) fun suffixed' hsuffixed => ?_
        cases hsuffixed
        exact hnone
    · rename_i hno
      exact halone (Option.some.inj h) fun suffixed hsuffixed => absurd hsuffixed (hno suffixed)

end FieldReference

namespace Lexeme

/-! ## Numbers -/

/-- A run that ends in a part of a text ends there without the rest as well. -/
lemma length_takeWhile_of_append {p : Char → Bool} {cs ys : List Char}
    (h : ((cs ++ ys).takeWhile p).length ≤ cs.length) :
    (cs.takeWhile p).length = ((cs ++ ys).takeWhile p).length := by
  rw [List.takeWhile_append] at h ⊢
  split at h
  · next hall =>
    rw [List.length_append] at h
    have hnone : ys.takeWhile p = [] := List.eq_nil_of_length_eq_zero (by omega)
    rw [if_pos hall, hnone, List.append_nil, hall]
  · next hsome => rw [if_neg hsome]

lemma digitCount_of_append {cs ys : List Char} (h : digitCount (cs ++ ys) ≤ cs.length) :
    digitCount cs = digitCount (cs ++ ys) :=
  length_takeWhile_of_append h

lemma fractionLength_of_append {cs ys : List Char} (h : fractionLength (cs ++ ys) ≤ cs.length) :
    fractionLength cs = fractionLength (cs ++ ys) := by
  cases cs with
  | nil => exact (Nat.eq_zero_of_le_zero h).symm
  | cons c cs =>
    by_cases hc : c = '.'
    · subst hc
      simp only [List.cons_append, fractionLength, List.length_cons] at h ⊢
      have hdigits : digitCount cs = digitCount (cs ++ ys) := digitCount_of_append (by omega)
      rw [hdigits]
    · unfold fractionLength
      split
      · simp_all
      · split
        · simp_all
        · rfl

lemma signLength_cons_append (c : Char) (cs ys : List Char) :
    signLength (c :: (cs ++ ys)) = signLength (c :: cs) := by
  unfold signLength
  split <;> split <;> simp_all

lemma exponentLength_of_append {cs ys : List Char} (h : exponentLength (cs ++ ys) ≤ cs.length) :
    exponentLength cs = exponentLength (cs ++ ys) := by
  cases cs with
  | nil => exact (Nat.eq_zero_of_le_zero h).symm
  | cons c cs =>
    by_cases hmark : (decide (c = 'e') || decide (c = 'E')) = true
    · rw [List.cons_append, exponentLength_cons hmark] at h
      rw [List.cons_append, exponentLength_cons hmark, exponentLength_cons hmark]
      cases cs with
      | nil =>
        have hnone : digitCount (List.drop (signLength []) []) = 0 := rfl
        rw [if_pos hnone]
        rw [List.nil_append] at h ⊢
        split at h
        · next hdigits => rw [if_pos hdigits]
        · rw [List.length_singleton] at h
          omega
      | cons d cs =>
        have hsign := signLength_le (d :: cs)
        rw [List.cons_append, signLength_cons_append, ← List.cons_append,
          List.drop_append_of_le_length hsign] at h ⊢
        have hdigits : digitCount ((d :: cs).drop (signLength (d :: cs))) =
            digitCount ((d :: cs).drop (signLength (d :: cs)) ++ ys) := by
          apply digitCount_of_append
          rw [List.length_drop]
          split at h
          · omega
          · rw [List.length_cons] at h
            omega
        rw [hdigits]
    · simp only [List.cons_append, exponentLength, if_neg hmark]

lemma numberLength_of_append {cs ys : List Char} (h : numberLength (cs ++ ys) ≤ cs.length) :
    numberLength cs = numberLength (cs ++ ys) := by
  have hdrop {n : Nat} (hn : n ≤ cs.length) : (cs ++ ys).drop n = cs.drop n ++ ys :=
    List.drop_append_of_le_length hn
  unfold numberLength at h ⊢
  dsimp only at h ⊢
  have hwhole : digitCount cs = digitCount (cs ++ ys) := digitCount_of_append (by omega)
  rw [← hwhole, hdrop (by omega)] at h ⊢
  have hfraction : fractionLength (cs.drop (digitCount cs)) =
      fractionLength (cs.drop (digitCount cs) ++ ys) :=
    fractionLength_of_append (by rw [List.length_drop]; omega)
  rw [← hfraction, hdrop (by omega)] at h ⊢
  rw [exponentLength_of_append (by rw [List.length_drop]; exact Nat.le_sub_of_add_le' h)]

lemma startsNumber_append {cs : List Char} (h : startsNumber cs = true) (ys : List Char) :
    startsNumber (cs ++ ys) = true := by
  cases cs with
  | nil => cases h
  | cons c cs =>
    by_cases hc : c = '.'
    · subst hc
      cases cs with
      | nil => cases h
      | cons d cs => exact h
    · rw [List.cons_append, startsNumber_cons hc]
      rwa [startsNumber_cons hc] at h

lemma startsNumber_of_append {cs ys : List Char} (h : startsNumber (cs ++ ys) = true)
    (hlength : numberLength (cs ++ ys) ≤ cs.length) : startsNumber cs = true := by
  cases cs with
  | nil => exact absurd (numberLength_pos h) (Nat.not_lt.mpr hlength)
  | cons c cs =>
    by_cases hc : c = '.'
    · subst hc
      cases cs with
      | nil =>
        have hdigits : digitCount ys ≠ 0 := by
          cases ys with
          | nil => cases h
          | cons d ys =>
            have hd : d.isDigit = true := h
            simp [digitCount, hd]
        have hwhole : digitCount ('.' :: ys) = 0 := rfl
        simp only [numberLength, List.cons_append, List.nil_append, hwhole, List.drop_zero,
          fractionLength, List.length_singleton] at hlength
        omega
      | cons d cs => exact h
    · rw [List.cons_append, startsNumber_cons hc] at h
      rwa [startsNumber_cons hc]

lemma head?_ne {cs : List Char} {c : Char} (h : ∀ tail, cs = c :: tail → False) :
    cs.head? ≠ some c := by
  intro hhead
  obtain ⟨tail, htail⟩ := List.head?_eq_some_iff.mp hhead
  exact h tail htail

lemma head?_of_append {body xs ys : List Char} {c : Char} (h : (body ++ (xs ++ ys)).head? ≠ some c) :
    (body ++ xs).head? ≠ some c := by
  intro hhead
  obtain ⟨tail, htail⟩ := List.head?_eq_some_iff.mp hhead
  rw [← List.append_assoc, htail] at h
  exact h rfl

/-- The characters that begin a lexeme of their own. -/
def symbols : List Char :=
  ['+', '-', '*', '/', '^', '=', ',', '(', ')', '\x7b', '\x7d', '<', '>', '"', '[']

lemma classify_less {cs : List Char} (hequal : cs.head? ≠ some '=') (hgreater : cs.head? ≠ some '>') :
    classify '<' cs = (.less, 1) := by
  unfold classify
  split <;> simp_all

lemma classify_greater {cs : List Char} (hequal : cs.head? ≠ some '=') :
    classify '>' cs = (.greater, 1) := by
  unfold classify
  split <;> simp_all

/-- Numbers, names and what is neither. -/
lemma classify_other {c : Char} {cs : List Char}
    (hc : c ∉ symbols)
    (hcs : c = '!' → cs.head? ≠ some '=') :
    classify c cs =
      if startsNumber (c :: cs) then (.number, numberLength (c :: cs))
      else if isNameStart c then (.identifier, 1 + (cs.takeWhile isNamePart).length)
      else (.unexpected, 1) := by
  unfold classify
  split <;> simp_all [symbols]

/-- Numbers and names do not depend on what follows them. -/
lemma classify_other_of_append {kind : LexemeKind} {c : Char} {body xs ys : List Char} (hc : c ∉ symbols)
    (hbang : c = '!' → (body ++ (xs ++ ys)).head? ≠ some '=')
    (h : classify c (body ++ (xs ++ ys)) = (kind, 1 + body.length)) :
    classify c (body ++ xs) = (kind, 1 + body.length) := by
  rw [classify_other hc hbang] at h
  rw [classify_other hc fun hsame => head?_of_append (hbang hsame)]
  rw [← List.append_assoc, ← List.cons_append] at h
  split_ifs at h with hnumber hname
  · have hlength : numberLength (c :: (body ++ xs) ++ ys) ≤ (c :: (body ++ xs)).length := by
      rw [(Prod.mk.inj h).2, List.length_cons, List.length_append]
      omega
    rw [if_pos (startsNumber_of_append hnumber hlength), numberLength_of_append hlength]
    exact h
  · rw [if_neg fun hstarts => hnumber (startsNumber_append hstarts ys), if_pos hname]
    rw [length_takeWhile_of_append]
    · exact h
    · rw [Nat.add_left_cancel (Prod.mk.inj h).2, List.length_append]
      exact Nat.le_add_right ..
  · rw [if_neg fun hstarts => hnumber (startsNumber_append hstarts ys), if_neg hname]
    exact h

/-- A lexeme does not depend on what follows, as long as it is all there. -/
lemma classify_of_append {kind : LexemeKind} {c : Char} {body xs ys : List Char}
    (h : classify c (body ++ (xs ++ ys)) = (kind, 1 + body.length)) :
    classify c (body ++ xs) = (kind, 1 + body.length) := by
  by_cases hother : c ∉ symbols ∧ (c = '!' → (body ++ (xs ++ ys)).head? ≠ some '=')
  · exact classify_other_of_append hother.1 hother.2 h
  have hwhole := h
  have hone (hlength : 1 = 1 + body.length) : body = [] := List.eq_nil_of_length_eq_zero (by omega)
  have htwo {d : Char} {cs : List Char} (hcs : body ++ (xs ++ ys) = d :: cs)
      (hlength : 2 = 1 + body.length) : body = [d] := by
    obtain ⟨e, rfl⟩ := List.length_eq_one_iff.mp (show body.length = 1 by omega)
    rw [(List.cons.inj hcs).1]
  have hall (hlength : 1 + (body ++ (xs ++ ys)).length = 1 + body.length) :
      classify c (body ++ xs) = (kind, 1 + body.length) := by
    rw [List.length_append, List.length_append] at hlength
    obtain rfl : xs = [] := List.eq_nil_of_length_eq_zero (by omega)
    obtain rfl : ys = [] := List.eq_nil_of_length_eq_zero (by omega)
    exact hwhole
  unfold classify at h
  split at h
  any_goals exact h
  · obtain rfl := htwo (by assumption) (Prod.mk.inj h).2
    exact h
  · obtain rfl := htwo (by assumption) (Prod.mk.inj h).2
    exact h
  · rename_i hequal hgreater
    obtain rfl := hone (Prod.mk.inj h).2
    exact (classify_less (head?_of_append (head?_ne hequal)) (head?_of_append (head?_ne hgreater))).trans h
  · obtain rfl := htwo (by assumption) (Prod.mk.inj h).2
    exact h
  · rename_i hequal
    obtain rfl := hone (Prod.mk.inj h).2
    exact (classify_greater (head?_of_append (head?_ne hequal))).trans h
  · obtain rfl := htwo (by assumption) (Prod.mk.inj h).2
    exact h
  · split at h
    · next inner rest hsplit =>
      obtain ⟨hcs, hrest, hread⟩ := Text.splitAfterQuote_eq_some hsplit
      obtain ⟨rfl, rfl⟩ := List.append_inj hcs (Nat.add_left_cancel (Prod.mk.inj h).2).symm
      have hxs : xs.head? ≠ some '"' := fun hhead => hrest (by rw [List.head?_append, hhead]; rfl)
      simp only [classify, hread xs hxs]
      exact h
    · exact hall (Prod.mk.inj h).2
  · split at h
    · next field rest hsplit =>
      obtain ⟨rfl, rfl⟩ : '[' :: body = field ∧ xs ++ ys = rest := by
        have hcs : '[' :: body ++ (xs ++ ys) = field ++ rest :=
          (FieldReference.splitField_eq_some hsplit).1
        refine List.append_inj hcs ?_
        rw [(Prod.mk.inj h).2, List.length_cons, Nat.add_comm]
      have hread : FieldReference.splitField ('[' :: body ++ xs) = some ('[' :: body, xs) :=
        FieldReference.splitField_of_append hsplit
      rw [List.cons_append] at hread
      simp only [classify, hread]
      exact h
    · exact hall (Prod.mk.inj h).2
  · refine absurd ⟨?_, ?_⟩ hother
    · simp_all [symbols]
    · rename_i hbang
      exact fun hc => head?_ne fun tail => hbang tail hc

/-! ## Parts -/

/-- The part of a text in front of a lexeme has the lexemes before it. -/
lemma Scans.cut {start : Nat} {cs : List Char} {ls ms : List Lexeme} {m : Lexeme}
    (h : Scans start cs (ls ++ m :: ms)) :
    ∃ xs ys, cs = xs ++ ys ∧ Scans start xs ls ∧ m.start = start + Text.byteLength xs := by
  generalize hall : ls ++ m :: ms = all at h
  induction h generalizing ls with
  | nil start => simp at hall
  | @blank start c cs _ hc _ ih =>
    obtain ⟨xs, ys, rfl, hscans, hstart⟩ := ih hall
    refine ⟨c :: xs, ys, rfl, .blank hc hscans, ?_⟩
    rw [hstart, Text.byteLength, Nat.add_assoc]
  | @lexeme start kind c body rest _ hc hclassify _ ih =>
    cases ls with
    | nil =>
      obtain ⟨rfl, -⟩ := List.cons.inj hall
      exact ⟨[], c :: body ++ rest, rfl, .nil start, rfl⟩
    | cons l ls =>
      obtain ⟨rfl, hrest⟩ := List.cons.inj hall
      obtain ⟨xs, ys, rfl, hscans, hstart⟩ := ih hrest
      refine ⟨c :: body ++ xs, ys, by simp, .lexeme hc (classify_of_append hclassify) hscans, ?_⟩
      rw [hstart, Text.byteLength_append, Nat.add_assoc]

/-- The part of a text after a lexeme has the lexemes after it. -/
lemma Scans.after {start : Nat} {cs : List Char} {ls ms : List Lexeme} {m : Lexeme}
    (h : Scans start cs (ls ++ m :: ms)) :
    ∃ xs ys, cs = xs ++ ys ∧ m.stop = start + Text.byteLength xs ∧ Scans m.stop ys ms := by
  generalize hall : ls ++ m :: ms = all at h
  have hlater {start : Nat} (xs : List Char) {cs : List Char}
      (h : ∃ xs' ys, cs = xs' ++ ys ∧ m.stop = start + Text.byteLength xs + Text.byteLength xs' ∧
        Scans m.stop ys ms) :
      ∃ xs' ys, xs ++ cs = xs' ++ ys ∧ m.stop = start + Text.byteLength xs' ∧ Scans m.stop ys ms := by
    obtain ⟨xs', ys, rfl, hstop, hscans⟩ := h
    exact ⟨xs ++ xs', ys, by simp, by rw [hstop, Text.byteLength_append, Nat.add_assoc], hscans⟩
  induction h generalizing ls with
  | nil start => simp at hall
  | @blank start c cs _ _ _ ih => exact hlater [c] (ih hall)
  | @lexeme start kind c body rest _ _ _ hrest ih =>
    cases ls with
    | nil =>
      obtain ⟨rfl, rfl⟩ := List.cons.inj hall
      exact ⟨c :: body, rest, rfl, rfl, hrest⟩
    | cons l ls => exact hlater (c :: body) (ih (List.cons.inj hall).2)

lemma Scans.words_eq {start : Nat} {cs : List Char} {ls : List Lexeme} (h : Scans start cs ls) :
    words cs = ls.map word := by
  have hwords := map_word_scanFrom 0 start cs
  rwa [scans_iff.mp h, List.drop_zero, eq_comm] at hwords

/-- What stands between two lexemes is read as the lexemes between them. -/
theorem words_between {cs : List Char} {before between after : List Lexeme} {first last : Lexeme}
    (h : scan cs = before ++ first :: (between ++ last :: after)) :
    words (Text.slice cs ⟨first.stop, last.start⟩) = between.map word := by
  have hscans := scans_scan cs
  rw [h] at hscans
  obtain ⟨xs, rest, rfl, hstop, hrest⟩ := hscans.after
  obtain ⟨ys, zs, rfl, hbetween, hstart⟩ := hrest.cut
  rw [Nat.zero_add] at hstop
  rw [hstart, hstop, Text.slice_append]
  exact hbetween.words_eq

/-- A text without lexemes is blank. -/
lemma words_eq_nil_iff {cs : List Char} : words cs = [] ↔ Text.isAllBlank cs = true := by
  induction cs with
  | nil => simp [Text.isAllBlank]
  | cons c cs ih =>
    rw [words_cons]
    by_cases hc : Text.isBlank c = true
    · rw [if_pos hc, ih]
      simp [Text.isAllBlank, hc]
    · rw [if_neg hc]
      simp [Text.isAllBlank, hc]

/-- Lexemes come one after the other. -/
lemma Scans.pairwise {start : Nat} {cs : List Char} {ls : List Lexeme} (h : Scans start cs ls) :
    ls.Pairwise fun a b => a.start < b.start := by
  induction h with
  | nil start => exact .nil
  | blank _ _ ih => exact ih
  | @lexeme start kind c body rest ls _ _ hrest ih =>
    refine .cons (fun later hlater => ?_) ih
    obtain ⟨before, _, -, hstart⟩ := hrest.exists_of_mem hlater
    have hsize := c.utf8Size_pos
    rw [hstart, Text.byteLength]
    show start < _
    omega

/-- The lexemes come one after the other in a part of a text. -/
def AreBetween (start stop : Nat) : List Lexeme → Prop
  | [] => start ≤ stop
  | l :: ls => start ≤ l.start ∧ l.start < l.stop ∧ AreBetween l.stop stop ls

namespace AreBetween

variable {start stop : Nat} {ls ms : List Lexeme} {l : Lexeme}

lemma le (h : AreBetween start stop ls) : start ≤ stop := by
  induction ls generalizing start with
  | nil => exact h
  | cons l ls ih =>
    obtain ⟨hstart, hsize, hrest⟩ := h
    have hle := ih hrest
    omega

lemma mono {earlier : Nat} (hstart : earlier ≤ start) (h : AreBetween start stop ls) :
    AreBetween earlier stop ls := by
  cases ls with
  | nil => exact hstart.trans h
  | cons l ls => exact ⟨hstart.trans h.1, h.2⟩

lemma after (h : AreBetween start stop (ls ++ l :: ms)) :
    start ≤ l.start ∧ l.start < l.stop ∧ AreBetween l.stop stop ms := by
  induction ls generalizing start with
  | nil => exact h
  | cons k ls ih =>
    obtain ⟨hstart, hsize, hrest⟩ := h
    obtain ⟨hle, hrest⟩ := ih hrest
    exact ⟨by omega, hrest⟩

lemma start_le {start stop : Nat} {ls : List Lexeme} (h : AreBetween start stop ls) {l : Lexeme}
    (hl : l ∈ ls) : start ≤ l.start := by
  obtain ⟨before, after, rfl⟩ := List.append_of_mem hl
  exact h.after.1

/-- At a place there is at most one lexeme. -/
lemma eq_of_place {start stop : Nat} {ls : List Lexeme} (h : AreBetween start stop ls)
    {l m : Lexeme} (hl : l ∈ ls) (hm : m ∈ ls) {place : Nat} (hplace : l.start ≤ place ∧ place < l.stop)
    (hplace' : m.start ≤ place ∧ place < m.stop) : l = m := by
  induction ls generalizing start with
  | nil => cases hl
  | cons k ls ih =>
    have hlater {l : Lexeme} (hl : l ∈ ls) : k.stop ≤ l.start := h.2.2.start_le hl
    rcases List.mem_cons.mp hl with rfl | hl'
    · rcases List.mem_cons.mp hm with rfl | hm'
      · rfl
      · have hle := hlater hm'
        omega
    · rcases List.mem_cons.mp hm with rfl | hm'
      · have hle := hlater hl'
        omega
      · exact ih h.2.2 hl' hm'

end AreBetween

lemma place_lt_stop {l : Lexeme} {before after : List Char} {c : Char}
    (h : l.chars = before ++ c :: after) : l.start + Text.byteLength before < l.stop := by
  have hsize := c.utf8Size_pos
  rw [Lexeme.stop, h, Text.byteLength_append, Text.byteLength]
  omega

lemma Scans.areBetween {start : Nat} {cs : List Char} {ls : List Lexeme} (h : Scans start cs ls) :
    AreBetween start (start + Text.byteLength cs) ls := by
  induction h with
  | nil start => exact le_rfl
  | @blank start c cs ls _ _ ih =>
    rw [Text.byteLength, ← Nat.add_assoc]
    exact ih.mono (Nat.le_add_right ..)
  | @lexeme start kind c body rest ls _ _ _ ih =>
    have hsize := c.utf8Size_pos
    refine ⟨le_rfl, ?_, ?_⟩
    · show start < start + Text.byteLength (c :: body)
      rw [Text.byteLength]
      omega
    · rw [Text.byteLength_append, ← Nat.add_assoc]
      exact ih

/-- Where the next lexeme begins, or the text ends. -/
def nextStart (cs : List Char) : List Lexeme → Nat
  | [] => Text.byteLength cs
  | l :: _ => l.start

/-- What stands after a lexeme is read as the lexemes up to the next one. -/
lemma words_passed {cs : List Char} {before passed rest : List Lexeme} {first : Lexeme}
    (h : scan cs = before ++ first :: (passed ++ rest)) :
    words (Text.slice cs ⟨first.stop, nextStart cs rest⟩) = passed.map word := by
  cases rest with
  | cons l rest => exact words_between h
  | nil =>
    have hscans := scans_scan cs
    rw [h, List.append_nil] at hscans
    obtain ⟨xs, ys, rfl, hstop, hpassed⟩ := hscans.after
    have hslice := Text.slice_append xs ys []
    rw [List.append_nil] at hslice
    rw [Nat.zero_add] at hstop
    rw [nextStart, Text.byteLength_append, hstop, hslice]
    exact hpassed.words_eq

end Lexeme

end OlapFormula
