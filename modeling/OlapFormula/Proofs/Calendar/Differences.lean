import OlapFormula.Folding.Step
import OlapFormula.Proofs.Calendar.Days
import OlapFormula.Proofs.Decimal.Value
import OlapFormula.Proofs.MemberKey

/-!
# Differences of dates

Differences change their sign when the dates change places, and they grow with the first date. From an
earlier date to a later one, the whole months are as many as lead to the last day with the number of the
earlier day that is not after the later one.
-/

namespace OlapFormula.Date

variable {a a' b : Date}

lemma daysBetween_swap (a b : Date) : b.daysBetween a = -a.daysBetween b := by
  unfold daysBetween
  omega

lemma daysBetween_mono (h : a ≤ a') : a.daysBetween b ≤ a'.daysBetween b :=
  Int.sub_le_sub_right (dayNumber_strictMono.monotone h) _

/-- The place of a date, as its month and the day in it. -/
def place (date : Date) : ℤ ×ₗ ℕ := toLex (date.monthNumber, date.day)

lemma le_iff_place : a ≤ b ↔ a.place ≤ b.place := by
  have ha := a.month_mem
  have hb := b.month_mem
  rw [le_iff, place, place, Prod.Lex.toLex_le_toLex, monthNumber, monthNumber]
  omega

lemma monthsBetween_swap (a b : Date) : b.monthsBetween a = -a.monthsBetween b := by
  unfold monthsBetween
  dsimp only
  split_ifs <;> omega

lemma monthsBetween_mono (h : a ≤ a') : a.monthsBetween b ≤ a'.monthsBetween b := by
  rw [le_iff_place, place, place, Prod.Lex.toLex_le_toLex] at h
  unfold monthsBetween
  dsimp only
  split_ifs <;> omega

/-- Adding the whole months to the earlier date does not go beyond the later one, and one month more
does. -/
lemma monthsBetween_eq_iff (h : b ≤ a) {months : ℤ} :
    a.monthsBetween b = months ↔
      toLex (b.monthNumber + months, b.day) ≤ a.place ∧
        a.place < toLex (b.monthNumber + months + 1, b.day) := by
  rw [le_iff_place, place, place, Prod.Lex.toLex_le_toLex] at h
  rw [place, Prod.Lex.toLex_le_toLex, Prod.Lex.toLex_lt_toLex]
  unfold monthsBetween
  dsimp only
  split_ifs <;> omega

lemma monthsBetween_nonneg (h : b ≤ a) : 0 ≤ a.monthsBetween b := by
  have hmono := monthsBetween_mono (b := b) h
  have hself := monthsBetween_swap b b
  omega

lemma yearsBetween_swap (a b : Date) : b.yearsBetween a = -a.yearsBetween b := by
  rw [yearsBetween, yearsBetween, monthsBetween_swap, Int.neg_tdiv]

lemma yearsBetween_mono (h : a ≤ a') : a.yearsBetween b ≤ a'.yearsBetween b :=
  Int.tdiv_le_tdiv (by decide) (monthsBetween_mono h)

lemma yearsBetween_eq_ediv (h : b ≤ a) : a.yearsBetween b = a.monthsBetween b / 12 :=
  Int.tdiv_eq_ediv_of_nonneg (monthsBetween_nonneg h)

lemma number_lt_of_leadingNumber? {most n : Nat} {cs rest : List Char}
    (h : MemberKey.leadingNumber? most cs = some (n, rest)) : n < 10 ^ most := by
  unfold MemberKey.leadingNumber? at h
  dsimp only at h
  split at h
  · cases h
  · simp only [Option.bind_eq_bind, Option.bind_eq_some_iff, Option.pure_def, Option.some.injEq] at h
    obtain ⟨m, hm, hpair⟩ := h
    obtain ⟨rfl, -⟩ := Prod.mk.inj hpair
    have hlength := (List.takeWhile_sublist (l := (Text.trimStart cs).take most) Char.isDigit).length_le
    rw [List.length_take] at hlength
    exact (MemberKey.number?_lt hm).trans_le (Nat.pow_le_pow_right (by decide) (by omega))

lemma length_trimStart_le (cs : List Char) : (Text.trimStart cs).length ≤ cs.length :=
  (List.dropWhile_sublist Text.isBlank).length_le

lemma natAbs_lt_of_signed {most : Nat} {year : Int} {cs rest : List Char} (f : Nat → Int)
    (hsign : ∀ n, (f n).natAbs = n) (hmost : most ≤ 8)
    (h : ((MemberKey.leadingNumber? most cs).map fun (n, rest) => (f n, rest)) = some (year, rest)) :
    year.natAbs < 10 ^ 8 := by
  obtain ⟨⟨n, _⟩, hn, hpair⟩ := Option.map_eq_some_iff.mp h
  obtain ⟨rfl, rfl⟩ := Prod.mk.inj hpair
  rw [hsign]
  exact (number_lt_of_leadingNumber? hn).trans_le (Nat.pow_le_pow_right (by decide) hmost)

/-- A year has four digits at most, or fewer than the text has characters. -/
lemma natAbs_lt_of_leadingYear? {year : Int} {cs rest : List Char} (hcs : cs.length ≤ 8)
    (h : MemberKey.leadingYear? cs = some (year, rest)) : year.natAbs < 10 ^ 8 := by
  have htrim := length_trimStart_le cs
  unfold MemberKey.leadingYear? at h
  split at h
  · next ds hds =>
    rw [hds, List.length_cons] at htrim
    rw [Option.ite_none_right_eq_some] at h
    exact natAbs_lt_of_signed (fun n => -(n : Int)) (by simp) (by omega) h.2
  · next ds hds =>
    rw [hds, List.length_cons] at htrim
    rw [Option.ite_none_right_eq_some] at h
    exact natAbs_lt_of_signed Nat.cast Int.natAbs_natCast (by omega) h.2
  · exact natAbs_lt_of_signed Nat.cast Int.natAbs_natCast (by decide) h

lemma length_le_byteLength (cs : List Char) : cs.length ≤ Text.byteLength cs := by
  induction cs with
  | nil => exact le_rfl
  | cons c cs ih =>
    have hsize := c.utf8Size_pos
    rw [List.length_cons, Text.byteLength]
    omega

lemma natAbs_year_lt {order : DateOrder} {text : List Char} {date : Date}
    (h : ofText? order text = some date) : date.year.natAbs < 10 ^ 8 := by
  unfold ofText? MemberKey.toDate? at h
  generalize (memberKey? order text).getD (Text.trim text) = key at h
  have hlength := length_le_byteLength key
  split at h
  · cases h
  · next height =>
    simp only [Option.bind_eq_bind, Option.bind_eq_some_iff] at h
    obtain ⟨⟨year, rest⟩, hyear, ⟨month, rest'⟩, -, ⟨day, rest''⟩, -, h⟩ := h
    rw [Option.ite_none_right_eq_some] at h
    obtain ⟨_, hdate⟩ := Option.dite_none_right_eq_some.mp h.2
    obtain rfl := Option.some.inj hdate
    have hbytes : Text.byteLength key = 8 := by simpa using height
    exact natAbs_lt_of_leadingYear? (by omega) hyear

/-! ## Folded differences -/

/-- The call of this kind for two texts is folded to the number. -/
def IsFolded (order : DateOrder) (kind : FunctionKind) (a b : String) (n : ℤ) : Prop :=
  ∃ value : Decimal, (Node.call kind [.string a, .string b]).fold? order = some (.number value) ∧
    value.value = n

/-- The differences of the dates that two texts mean are folded to these numbers. -/
structure AreFolded (order : DateOrder) (a b : String) (days months years : ℤ) : Prop where
  days : IsFolded order .daysBetween a b days
  months : IsFolded order .monthsBetween a b months
  years : IsFolded order .yearsBetween a b years

/-- The number of a day that can be written. -/
lemma natAbs_dayNumber_lt {date : Date} (h : date.year.natAbs < 10 ^ 8) :
    date.dayNumber.natAbs < 10 ^ 11 := by
  have hlow := date.yearStart_le_dayNumber
  have hhigh := date.dayNumber_lt_yearStart
  unfold yearStart at hlow hhigh
  omega

lemma isFolded_of_ofInt? {order : DateOrder} {kind : FunctionKind} {a b : String} {n : ℤ}
    (hn : n.natAbs < mantissaLimit)
    (hfold : (Node.call kind [.string a, .string b]).fold? order = (Decimal.ofInt? n).map .number) :
    IsFolded order kind a b n := by
  obtain ⟨value, hvalue, hworth⟩ := Decimal.exists_ofInt? hn
  exact ⟨value, by rw [hfold, hvalue, Option.map_some], hworth⟩

/-- No difference of dates that can be written is too large for a number. -/
lemma areFolded {order : DateOrder} {a b : String} {date date' : Date}
    (ha : ofText? order a.toList = some date) (hb : ofText? order b.toList = some date') :
    AreFolded order a b (date.daysBetween date') (date.monthsBetween date')
      (date.yearsBetween date') := by
  have hyear := natAbs_year_lt ha
  have hyear' := natAbs_year_lt hb
  have hmonth := date.month_mem
  have hmonth' := date'.month_mem
  have hday := natAbs_dayNumber_lt hyear
  have hday' := natAbs_dayNumber_lt hyear'
  have hlimit : 10 ^ 12 < mantissaLimit := by decide
  have hdays : (date.daysBetween date').natAbs < mantissaLimit := by
    unfold daysBetween
    omega
  have hmonths : (date.monthsBetween date').natAbs < mantissaLimit := by
    unfold monthsBetween monthNumber
    dsimp only
    split_ifs <;> omega
  have hyears : (date.yearsBetween date').natAbs < mantissaLimit := by
    rw [yearsBetween, Int.natAbs_tdiv]
    exact (Nat.div_le_self ..).trans_lt hmonths
  refine ⟨isFolded_of_ofInt? hdays ?_, isFolded_of_ofInt? hmonths ?_, isFolded_of_ofInt? hyears ?_⟩
  all_goals simp [Node.fold?, Node.string, Folding.ofDates, ha, hb, Option.map_eq_bind]

/-- Any two dates that are written have differences, which are folded. They change their signs when the
dates change places, and none of them falls when the first date grows. From a date to one that is not
before it, the days are the days of the calendar, the months lead to the last day with the number of the
first that is not after the other, and twelve of them are a year. -/
theorem exists_folded_differences {order : DateOrder} {a b : String} {date date' : Date}
    (ha : ofText? order a.toList = some date) (hb : ofText? order b.toList = some date') :
    ∃ days months years : ℤ, AreFolded order a b days months years ∧
      AreFolded order b a (-days) (-months) (-years) ∧
      (∀ (later : String) (laterDate : Date), ofText? order later.toList = some laterDate →
        date ≤ laterDate → ∃ days' months' years' : ℤ, AreFolded order later b days' months' years' ∧
          days ≤ days' ∧ months ≤ months' ∧ years ≤ years') ∧
      (date' ≤ date → days = (Set.Ico date' date).ncard ∧
        (∀ m : ℤ, m = months ↔
          toLex (date'.monthNumber + m, date'.day) ≤ toLex (date.monthNumber, date.day) ∧
            toLex (date.monthNumber, date.day) < toLex (date'.monthNumber + m + 1, date'.day)) ∧
        years = months / 12) := by
  refine ⟨_, _, _, areFolded ha hb, ?_, ?_, ?_⟩
  · rw [← daysBetween_swap, ← monthsBetween_swap, ← yearsBetween_swap]
    exact areFolded hb ha
  · intro later laterDate hlater hle
    exact ⟨_, _, _, areFolded hlater hb, daysBetween_mono hle, monthsBetween_mono hle,
      yearsBetween_mono hle⟩
  · intro hle
    exact ⟨(ncard_days hle).symm, fun m => eq_comm.trans (monthsBetween_eq_iff hle),
      yearsBetween_eq_ediv hle⟩

/-- From the end of January to the leap day thirteen months later there are twelve whole months. -/
theorem exists_folded_differences_of_leapDay :
    IsFolded .dayFirst .monthsBetween "2024-2-29" "31.1.2023" 12 ∧
      IsFolded .dayFirst .yearsBetween "31.1.2023" "2024-2-29" (-1) := by
  have ha : ofText? .dayFirst "2024-2-29".toList = some ⟨2024, 2, 29, by decide, by decide⟩ := by
    decide +kernel
  have hb : ofText? .dayFirst "31.1.2023".toList = some ⟨2023, 1, 31, by decide, by decide⟩ := by
    decide +kernel
  obtain ⟨days, months, years, hab, hba, -, hlater⟩ := exists_folded_differences ha hb
  obtain ⟨-, hmonths, rfl⟩ := hlater (le_iff.mpr (by decide))
  obtain rfl := (hmonths 12).mpr (by
    simp only [Prod.Lex.toLex_le_toLex, Prod.Lex.toLex_lt_toLex, monthNumber]
    decide)
  exact ⟨hab.months, hba.years⟩

end OlapFormula.Date
