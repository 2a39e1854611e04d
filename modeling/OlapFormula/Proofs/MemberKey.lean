import Mathlib.Data.List.Induction
import Mathlib.Data.Nat.Digits.Defs
import OlapFormula.Rewriting

/-!
# Keys that are found

A key that is found is one of a day, of a month or of a quarter. It is rewritten no more, because a text of
digits means no date. The year of a month or of a quarter is copied as it is written, so the key has the
digits of ASCII exactly if the text has no others.
-/

namespace OlapFormula

namespace Text

lemma isDecimalDigit_of_isDigit {c : Char} (h : c.isDigit) : isDecimalDigit c := by
  have hlow : c.toNat < 0x80 := by
    simp only [Char.isDigit, Bool.and_eq_true, decide_eq_true_eq] at h
    have hle : c.toNat ≤ 57 := h.2
    omega
  simp [isDecimalDigit, hlow, h]

lemma isBlank_of_isDecimalDigit {c : Char} (h : isDecimalDigit c) : isBlank c = false := by
  unfold isDecimalDigit at h
  split at h
  · rename_i hlow
    simp only [Char.isDigit, Bool.and_eq_true, decide_eq_true_eq] at h
    have hle : 48 ≤ c.toNat := h.1
    have hle' : c.toNat ≤ 57 := h.2
    simp [isBlank]
    omega
  · obtain ⟨first, hfirst, hrange⟩ := List.any_eq_true.mp h
    have hgaps : ∀ n ∈ digitZeros, n = 0x30 ∨ (0xA0 < n ∧ n + 10 ≤ 0x1680) ∨
        (0x1680 < n ∧ n + 10 ≤ 0x2000) ∨ 0x3000 < n := by decide
    have hgap := hgaps first hfirst
    simp only [Bool.and_eq_true, decide_eq_true_eq] at hrange
    simp [isBlank]
    omega

/-- The only digits in the text are those of ASCII. -/
def HasAsciiDigits (cs : List Char) : Prop := ∀ c ∈ cs, isDecimalDigit c → c.isDigit

lemma hasAsciiDigits_cons {c : Char} {cs : List Char} :
    HasAsciiDigits (c :: cs) ↔ (isDecimalDigit c → c.isDigit) ∧ HasAsciiDigits cs :=
  List.forall_mem_cons

lemma hasAsciiDigits_append {xs ys : List Char} :
    HasAsciiDigits (xs ++ ys) ↔ HasAsciiDigits xs ∧ HasAsciiDigits ys :=
  List.forall_mem_append

lemma hasAsciiDigits_reverse {cs : List Char} : HasAsciiDigits cs.reverse ↔ HasAsciiDigits cs := by
  simp only [HasAsciiDigits, List.mem_reverse]

lemma hasAsciiDigits_of_isDigit {cs : List Char} (h : ∀ c ∈ cs, c.isDigit) : HasAsciiDigits cs :=
  fun c hc _ => h c hc

/-- White space has no digits. -/
lemma hasAsciiDigits_dropWhile (cs : List Char) :
    HasAsciiDigits (cs.dropWhile isBlank) ↔ HasAsciiDigits cs := by
  induction cs with
  | nil => rfl
  | cons c cs ih =>
    rw [List.dropWhile_cons]
    split
    · next hblank =>
      have hc : isDecimalDigit c → c.isDigit := by
        intro hdigit
        rw [isBlank_of_isDecimalDigit hdigit] at hblank
        contradiction
      rw [ih, hasAsciiDigits_cons, and_iff_right hc]
    · rfl

lemma hasAsciiDigits_trim (cs : List Char) : HasAsciiDigits (trim cs) ↔ HasAsciiDigits cs := by
  rw [trim, trimEnd, trimStart, hasAsciiDigits_reverse, hasAsciiDigits_dropWhile,
    hasAsciiDigits_reverse, hasAsciiDigits_dropWhile]

end Text

namespace MemberKey

open Text

variable {order : DateOrder} {cs key : List Char}

lemma number?_eq_some_iff {n : Nat} :
    number? cs = some n ↔ (∀ c ∈ cs, c.isDigit) ∧ Nat.ofDigitChars 10 cs 0 = n := by
  rw [number?, Nat.ofDigitChars_eq_foldl, Option.ite_none_right_eq_some, List.all_eq_true,
    Option.some.injEq]

lemma number?_lt {n : Nat} (h : number? cs = some n) : n < 10 ^ cs.length := by
  obtain ⟨hdigits, rfl⟩ := number?_eq_some_iff.mp h
  clear h
  induction cs using List.reverseRecOn with
  | nil => decide
  | append_singleton cs c ih =>
    rw [List.forall_mem_append, List.forall_mem_singleton] at hdigits
    have hcs := ih hdigits.1
    have hc : c.toNat ≤ '9'.toNat := by
      simp only [Char.isDigit, Bool.and_eq_true, decide_eq_true_eq] at hdigits
      exact hdigits.2.2
    have hnine : '9'.toNat = 57 := rfl
    have hzero : '0'.toNat = 48 := rfl
    rw [Nat.ofDigitChars_append, Nat.ofDigitChars_eq_foldl, List.foldl_cons, List.foldl_nil,
      List.length_append, List.length_singleton, pow_succ]
    omega

/-- The numeral of a number with so many ASCII digits. -/
def IsNumeral (width n : Nat) (cs : List Char) : Prop := cs.length = width ∧ number? cs = some n

lemma IsNumeral.isDigit {width n : Nat} (h : IsNumeral width n cs) : ∀ c ∈ cs, c.isDigit :=
  (number?_eq_some_iff.mp h.2).1

lemma isNumeral_padded {width n : Nat} (hwidth : 0 < width) (h : n < 10 ^ width) :
    IsNumeral width n (padded width n) := by
  have hlength : (Nat.toDigits 10 n).length ≤ width := Nat.toDigits_length 10 n width hwidth h
  refine ⟨?_, number?_eq_some_iff.mpr ⟨?_, ?_⟩⟩
  · rw [padded, List.length_append, List.length_replicate]
    omega
  · intro c hc
    rcases List.mem_append.mp hc with hc | hc
    · rw [List.eq_of_mem_replicate hc]
      decide
    · exact Nat.isDigit_of_mem_toDigits (by decide) (by decide) hc
  · rw [padded, Nat.ofDigitChars_append, Nat.ofDigitChars_replicate_zero, Nat.mul_zero,
      Nat.ofDigitChars_ten_toDigits]

/-- A key of a day, of a month or of a quarter. The year of a day is an ASCII numeral, and any other year
consists of digits of any script. -/
inductive HasForm : List Char → Prop
  | day {year month day : List Char} (date : Date) (y : Nat) : date.year = y → IsNumeral 4 y year →
    IsNumeral 2 date.month month → IsNumeral 2 date.day day → HasForm (year ++ month ++ day)
  | month {year month : List Char} (m : Nat) : isYear year → 1 ≤ m ∧ m ≤ 12 → IsNumeral 2 m month →
    HasForm (year ++ month)
  | quarter {year quarter : List Char} (q : Nat) : isYear year → 1 ≤ q ∧ q ≤ 4 →
    IsNumeral 1 q quarter → HasForm (year ++ quarter)

/-- Nothing but digits of any script. -/
def IsKey (cs : List Char) : Prop := ∀ c ∈ cs, isDecimalDigit c

lemma isKey_append {xs ys : List Char} : IsKey (xs ++ ys) ↔ IsKey xs ∧ IsKey ys :=
  List.forall_mem_append

lemma IsNumeral.isKey {width n : Nat} (h : IsNumeral width n cs) : IsKey cs :=
  fun c hc => isDecimalDigit_of_isDigit (h.isDigit c hc)

lemma isKey_of_isYear (h : isYear cs) : IsKey cs := by
  simp only [isYear, areDigits, Bool.and_eq_true, List.all_eq_true] at h
  exact h.2

lemma HasForm.isKey (h : HasForm key) : IsKey key := by
  cases h with
  | day date y _ hyear hmonth hday =>
    exact isKey_append.mpr ⟨isKey_append.mpr ⟨hyear.isKey, hmonth.isKey⟩, hday.isKey⟩
  | month m hyear _ hmonth => exact isKey_append.mpr ⟨isKey_of_isYear hyear, hmonth.isKey⟩
  | quarter q hyear _ hquarter => exact isKey_append.mpr ⟨isKey_of_isYear hyear, hquarter.isKey⟩

lemma IsKey.forall_isDigit_iff (h : IsKey cs) : (∀ c ∈ cs, c.isDigit) ↔ HasAsciiDigits cs :=
  ⟨hasAsciiDigits_of_isDigit, fun hascii c hc => hascii c hc (h c hc)⟩

/-! ## What is found -/

/-- The key that is found in a text has a form, and the digits of ASCII if the text has no others. -/
structure IsKeyOf (cs key : List Char) : Prop where
  hasForm : HasForm key
  ascii : HasAsciiDigits key ↔ HasAsciiDigits cs

lemma hasAsciiDigits_of_number? {n : Nat} (h : number? cs = some n) : HasAsciiDigits cs :=
  hasAsciiDigits_of_isDigit (number?_eq_some_iff.mp h).1

lemma IsNumeral.hasAsciiDigits {width n : Nat} (h : IsNumeral width n cs) : HasAsciiDigits cs :=
  hasAsciiDigits_of_isDigit h.isDigit

lemma length_of_isYear (h : isYear cs) : cs.length = 4 := by
  simp only [isYear, areDigits, Bool.and_eq_true, decide_eq_true_eq] at h
  omega

lemma daysInMonth_le (year : Int) (month : Nat) : daysInMonth year month ≤ 31 := by
  unfold daysInMonth
  split
  · split <;> decide
  · split <;> decide

lemma isKeyOf_dayKey? {year month day : List Char} (hyear : isYear year)
    (h : dayKey? year month day = some key) : IsKeyOf (year ++ month ++ day) key := by
  simp only [dayKey?, Option.bind_eq_bind, Option.bind_eq_some_iff, Option.pure_def,
    Option.some.injEq] at h
  obtain ⟨y, hy, m, hm, d, hd, date, hdate, rfl⟩ := h
  obtain ⟨⟨hmonth, hday⟩, -⟩ := Option.dite_none_right_eq_some.mp hdate
  have hlast := daysInMonth_le y m
  have hlast' : y < 10 ^ 4 := length_of_isYear hyear ▸ number?_lt hy
  have hy' := isNumeral_padded (by decide : 0 < 4) hlast'
  have hm' := isNumeral_padded (by decide : 0 < 2) (by omega : m < 10 ^ 2)
  have hd' := isNumeral_padded (by decide : 0 < 2) (by omega : d < 10 ^ 2)
  refine ⟨.day ⟨y, m, d, hmonth, hday⟩ y rfl hy' hm' hd', ?_⟩
  simp only [hasAsciiDigits_append, hy'.hasAsciiDigits, hm'.hasAsciiDigits, hd'.hasAsciiDigits,
    hasAsciiDigits_of_number? hy, hasAsciiDigits_of_number? hm, hasAsciiDigits_of_number? hd]

lemma isKeyOf_monthKey? {year month : List Char} (hyear : isYear year)
    (h : monthKey? year month = some key) : IsKeyOf (year ++ month) key := by
  simp only [monthKey?, Option.bind_eq_bind, Option.bind_eq_some_iff,
    Option.ite_none_right_eq_some, Option.some.injEq] at h
  obtain ⟨m, hm, hmonth, rfl⟩ := h
  have hm' := isNumeral_padded (by decide : 0 < 2) (by omega : m < 10 ^ 2)
  refine ⟨.month m hyear hmonth hm', ?_⟩
  simp only [hasAsciiDigits_append, hm'.hasAsciiDigits, hasAsciiDigits_of_number? hm]

/-- Between separators that are no digits, a text has the digits of its parts. -/
lemma hasAsciiDigits_splitBy {isSeparator : Char → Bool}
    (hseparator : ∀ c, isSeparator c → isDecimalDigit c = false) (cs : List Char) :
    HasAsciiDigits cs ↔ ∀ part ∈ splitBy isSeparator cs, HasAsciiDigits part := by
  induction cs with
  | nil => simp [splitBy]
  | cons c cs ih =>
    rw [hasAsciiDigits_cons, ih, splitBy]
    split
    · next hc =>
      have hnone := hseparator c hc
      simp [hnone, HasAsciiDigits]
    · split
      · next hparts => simp [hparts, HasAsciiDigits]
      · next hparts => simp [hparts, hasAsciiDigits_cons, and_assoc]

lemma not_digit_dash {c : Char} (h : (c == '-') = true) : isDecimalDigit c = false := by
  rw [beq_iff_eq.mp h]
  decide

lemma not_digit_slash {c : Char} (h : (c == '/') = true) : isDecimalDigit c = false := by
  rw [beq_iff_eq.mp h]
  decide

lemma not_digit_slash_or_point {c : Char} (h : (c == '/' || c == '.') = true) :
    isDecimalDigit c = false := by
  simp only [Bool.or_eq_true, beq_iff_eq] at h
  rcases h with rfl | rfl <;> decide

lemma IsKeyOf.congr {cs' : List Char} (h : IsKeyOf cs key)
    (hascii : HasAsciiDigits cs ↔ HasAsciiDigits cs') : IsKeyOf cs' key :=
  ⟨h.hasForm, h.ascii.trans hascii⟩

lemma isKeyOf_dashedKey? (h : dashedKey? cs = some key) : IsKeyOf cs key := by
  have hdigits := hasAsciiDigits_splitBy (fun c => not_digit_dash) cs
  unfold dashedKey? at h
  split at h
  · next hparts =>
    rw [Option.ite_none_right_eq_some] at h
    simp only [Bool.and_eq_true] at h
    refine (isKeyOf_dayKey? h.1.1.1 h.2).congr ?_
    simp [hdigits, hparts, hasAsciiDigits_append]
  · next hparts =>
    rw [Option.ite_none_right_eq_some] at h
    simp only [Bool.and_eq_true] at h
    refine (isKeyOf_monthKey? h.1.1 h.2).congr ?_
    simp [hdigits, hparts, hasAsciiDigits_append]
  · cases h

lemma isKeyOf_yearLastKey? (h : yearLastKey? order cs = some key) : IsKeyOf cs key := by
  have hdigits := hasAsciiDigits_splitBy (fun c => not_digit_slash_or_point) cs
  unfold yearLastKey? at h
  split at h
  · next hparts =>
    rw [Option.ite_none_right_eq_some] at h
    simp only [Bool.and_eq_true] at h
    cases order with
    | monthFirst =>
      refine (isKeyOf_dayKey? h.1.2 h.2).congr ?_
      simp only [hdigits, hparts, List.forall_mem_cons, hasAsciiDigits_append]
      tauto
    | dayFirst =>
      refine (isKeyOf_dayKey? h.1.2 h.2).congr ?_
      simp only [hdigits, hparts, List.forall_mem_cons, hasAsciiDigits_append]
      tauto
  · cases h

lemma isKeyOf_slashedMonthKey? (h : slashedMonthKey? cs = some key) : IsKeyOf cs key := by
  have hdigits := hasAsciiDigits_splitBy (fun c => not_digit_slash) cs
  unfold slashedMonthKey? at h
  split at h
  · next hparts =>
    rw [Option.ite_none_right_eq_some] at h
    simp only [Bool.and_eq_true] at h
    refine (isKeyOf_monthKey? h.1.2 h.2).congr ?_
    simp only [hdigits, hparts, List.forall_mem_cons, hasAsciiDigits_append]
    tauto
  · cases h

lemma isNumeral_of_between {c : Char} (hlow : '1' ≤ c) (hhigh : c ≤ '4') :
    ∃ q, (1 ≤ q ∧ q ≤ 4) ∧ IsNumeral 1 q [c] := by
  have h1 : 49 ≤ c.toNat := hlow
  have h4 : c.toNat ≤ 52 := hhigh
  have hdigit : c.isDigit := by
    simp only [Char.isDigit, Bool.and_eq_true, decide_eq_true_eq]
    exact ⟨Nat.le_trans (by decide) hlow, Nat.le_trans hhigh (by decide)⟩
  refine ⟨c.toNat - 48, by omega, rfl, number?_eq_some_iff.mpr ⟨?_, ?_⟩⟩
  · exact List.forall_mem_singleton.mpr hdigit
  · rw [Nat.ofDigitChars_eq_foldl, List.foldl_cons, List.foldl_nil]
    exact Nat.zero_add _

lemma isKeyOf_quarterKey? (h : quarterKey? cs = some key) : IsKeyOf cs key := by
  unfold quarterKey? at h
  dsimp only at h
  split at h
  · next mark quarter hrest =>
    rw [Option.ite_none_right_eq_some] at h
    simp only [Bool.and_eq_true, Bool.or_eq_true, beq_iff_eq, decide_eq_true_eq,
      Option.some.injEq] at h
    obtain ⟨⟨⟨⟨hyear, hmark⟩, hlow⟩, hhigh⟩, rfl⟩ := h
    obtain ⟨q, hq, hquarter⟩ := isNumeral_of_between hlow hhigh
    have hnone : isDecimalDigit mark = false := by rcases hmark with rfl | rfl <;> decide
    have hdrop : HasAsciiDigits (cs.drop 4) := by
      rw [← hasAsciiDigits_dropWhile, hrest, hasAsciiDigits_cons]
      exact ⟨by simp [hnone], hquarter.hasAsciiDigits⟩
    refine ⟨.quarter q hyear hq hquarter, ?_⟩
    rw [hasAsciiDigits_append, and_iff_left hquarter.hasAsciiDigits]
    conv_rhs => rw [← List.take_append_drop 4 cs, hasAsciiDigits_append, and_iff_left hdrop]
  · cases h

lemma isKeyOf_memberKey? (h : memberKey? order cs = some key) : IsKeyOf cs key := by
  suffices hkey : IsKeyOf (trim cs) key from hkey.congr (hasAsciiDigits_trim cs)
  unfold memberKey? at h
  dsimp only at h
  simp only [Option.orElse_eq_orElse, Option.orElse_eq_or, Option.or_eq_some_iff] at h
  rcases h with h | ⟨-, h | ⟨-, h | ⟨-, h⟩⟩⟩
  · exact isKeyOf_dashedKey? h
  · exact isKeyOf_yearLastKey? h
  · exact isKeyOf_slashedMonthKey? h
  · exact isKeyOf_quarterKey? h

/-! ## Nothing is found in a key -/

lemma splitBy_eq_singleton {isSeparator : Char → Bool}
    (h : ∀ c ∈ cs, isSeparator c = false) : splitBy isSeparator cs = [cs] := by
  induction cs with
  | nil => rfl
  | cons c cs ih =>
    have hc := h c (List.mem_cons_self ..)
    have hcs := ih fun d hd => h d (List.mem_cons_of_mem c hd)
    simp [splitBy, hc, hcs]

lemma IsKey.splitBy_eq (h : IsKey cs) {isSeparator : Char → Bool}
    (hseparator : ∀ c, isSeparator c → isDecimalDigit c = false) : splitBy isSeparator cs = [cs] := by
  refine splitBy_eq_singleton fun c hc => ?_
  by_contra hsep
  have hkey := h c hc
  rw [hseparator c (by simpa using hsep)] at hkey
  contradiction

lemma IsKey.dropWhile_eq (h : IsKey cs) : cs.dropWhile isBlank = cs := by
  cases cs with
  | nil => rfl
  | cons c cs =>
    rw [List.dropWhile_cons_of_neg]
    simp [isBlank_of_isDecimalDigit (h c (List.mem_cons_self ..))]

lemma IsKey.trim_eq (h : IsKey cs) : trim cs = cs := by
  have hreverse : IsKey cs.reverse := fun c hc => h c (List.mem_reverse.mp hc)
  rw [trim, trimStart, h.dropWhile_eq, trimEnd, hreverse.dropWhile_eq, List.reverse_reverse]

lemma IsKey.quarterKey? (h : IsKey cs) : quarterKey? cs = none := by
  have hrest : IsKey (cs.drop 4) := fun c hc => h c (List.mem_of_mem_drop hc)
  unfold MemberKey.quarterKey?
  dsimp only
  rw [hrest.dropWhile_eq]
  split
  · next mark quarter hparts =>
    have hmark : isDecimalDigit mark := hrest mark (hparts ▸ List.mem_cons_self ..)
    rw [if_neg]
    simp only [Bool.and_eq_true, Bool.or_eq_true, beq_iff_eq, not_and]
    rintro ⟨⟨-, rfl | rfl⟩, -⟩
    · exact absurd hmark (by decide)
    · exact absurd hmark (by decide)
  · rfl

theorem memberKey?_of_isKey (h : IsKey cs) : memberKey? order cs = none := by
  have hdash := h.splitBy_eq fun c => not_digit_dash
  have hslash := h.splitBy_eq fun c => not_digit_slash
  have hpoint := h.splitBy_eq fun c => not_digit_slash_or_point
  simp [memberKey?, h.trim_eq, dashedKey?, yearLastKey?, slashedMonthKey?, hdash, hslash, hpoint,
    h.quarterKey?]

/-- A key is not rewritten once more. -/
theorem memberKey?_memberKey? (order' : DateOrder) (h : memberKey? order cs = some key) :
    memberKey? order' key = none :=
  memberKey?_of_isKey (isKeyOf_memberKey? h).hasForm.isKey

/-- A key that is found is that of a day, of a month or of a quarter, and is rewritten no more. All its
digits are ASCII exactly if those of the text are, because the year of a month or of a quarter is copied. -/
theorem memberKey?_hasForm (h : memberKey? order cs = some key) :
    HasForm key ∧ ((∀ c ∈ key, c.isDigit) ↔ HasAsciiDigits cs) ∧
      ∀ order', memberKey? order' key = none ∧
        ∀ kind ref, Rewriting.memberComparison? order' kind
          [.dimension ref, .string (String.ofList key)] = none := by
  have hkey := isKeyOf_memberKey? h
  refine ⟨hkey.hasForm, hkey.hasForm.isKey.forall_isDigit_iff.trans hkey.ascii, fun order' => ?_⟩
  have hnone := memberKey?_memberKey? order' h
  refine ⟨hnone, fun kind ref => ?_⟩
  simp [Rewriting.memberComparison?, Node.string, hnone]

theorem memberKey?_hasForm_of_leapDay :
    memberKey? .dayFirst " 29.2.2024 ".toList = some "20240229".toList ∧
      HasForm "20240229".toList ∧
      ((∀ c ∈ "20240229".toList, c.isDigit) ↔ HasAsciiDigits " 29.2.2024 ".toList) ∧
      memberKey? .monthFirst "20240229".toList = none := by
  have hkey : memberKey? .dayFirst " 29.2.2024 ".toList = some "20240229".toList := by decide +kernel
  obtain ⟨hform, hascii, hnone⟩ := memberKey?_hasForm hkey
  exact ⟨hkey, hform, hascii, (hnone .monthFirst).1⟩

/-- A month with a year in digits of full width is taken for a month, and its key has the year as it is
written. -/
theorem exists_foreign_digits :
    memberKey? .monthFirst "２０２４-3".toList = some "２０２４03".toList ∧
      ¬∀ c ∈ "２０２４03".toList, c.isDigit := by
  refine ⟨by decide +kernel, fun hdigits => ?_⟩
  have hmem : '２' ∈ "２０２４03".toList := by decide
  exact absurd (hdigits '２' hmem) (by decide)

end MemberKey

end OlapFormula
