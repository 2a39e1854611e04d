import Mathlib.Data.Int.ConditionallyCompleteOrder
import Mathlib.Data.Int.Interval
import Mathlib.Data.Prod.Lex
import Mathlib.Data.Set.Card
import OlapFormula.Calendar

/-!
# Counting days

Dates in the order of the calendar are in the order of the integers: every integer is the number of exactly
one day, and later days have greater numbers. So the difference of two day numbers is the number of days
from the one date to the other.
-/

namespace OlapFormula.Date

def key (date : Date) : ℤ ×ₗ ℕ ×ₗ ℕ := toLex (date.year, toLex (date.month, date.day))

lemma key_injective : Function.Injective key := by
  rintro ⟨year, month, day, _, _⟩ ⟨year', month', day', _, _⟩ h
  simp only [key, toLex_inj, Prod.mk.injEq] at h
  obtain ⟨rfl, rfl, rfl⟩ := h
  rfl

/-- Dates are ordered by year, month and day. -/
instance : LinearOrder Date := LinearOrder.lift' key key_injective

variable {a b : Date}

lemma lt_iff : a < b ↔ a.year < b.year ∨
    a.year = b.year ∧ (a.month < b.month ∨ a.month = b.month ∧ a.day < b.day) := by
  change key a < key b ↔ _
  simp only [key, Prod.Lex.toLex_lt_toLex]

lemma le_iff : a ≤ b ↔ a.year < b.year ∨
    a.year = b.year ∧ (a.month < b.month ∨ a.month = b.month ∧ a.day ≤ b.day) := by
  change key a ≤ key b ↔ _
  simp only [key, Prod.Lex.toLex_le_toLex]

lemma daysInMonth_pos (year : Int) (month : Nat) : 0 < daysInMonth year month := by
  unfold daysInMonth
  split
  · split <;> decide
  · split <;> decide

lemma daysBeforeMonth_succ (year : Int) {month : Nat} (h : 1 ≤ month) :
    daysBeforeMonth year (month + 1) = daysBeforeMonth year month + daysInMonth year month := by
  obtain ⟨month, rfl⟩ : ∃ m, month = m + 1 := ⟨month - 1, by omega⟩
  rfl

lemma daysBeforeMonth_mono (year : Int) {month month' : Nat} (h : 1 ≤ month) (h' : month ≤ month') :
    daysBeforeMonth year month ≤ daysBeforeMonth year month' := by
  induction month', h' using Nat.le_induction with
  | base => exact le_rfl
  | succ month' hle ih =>
    rw [daysBeforeMonth_succ year (h.trans hle)]
    exact ih.trans (Nat.le_add_right _ _)

/-- The month that would come after December begins with the next year. -/
lemma daysBeforeMonth_end (year : Int) :
    daysBeforeMonth year 13 = if isLeapYear year then 366 else 365 := by
  cases hleap : isLeapYear year <;> simp [daysBeforeMonth, daysInMonth, hleap]

/-- The number of the first day of a year. -/
def yearStart (year : Int) : Int :=
  365 * (year - 1) + (year - 1) / 4 - (year - 1) / 100 + (year - 1) / 400

lemma yearStart_succ (year : Int) :
    yearStart (year + 1) = yearStart year + daysBeforeMonth year 13 := by
  rw [daysBeforeMonth_end]
  unfold yearStart isLeapYear
  split
  · next hleap =>
    simp only [Bool.and_eq_true, Bool.or_eq_true, beq_iff_eq, bne_iff_ne, ne_eq] at hleap
    push_cast
    omega
  · next hcommon =>
    simp only [Bool.and_eq_true, Bool.or_eq_true, beq_iff_eq, bne_iff_ne, ne_eq] at hcommon
    push_cast
    omega

lemma yearStart_mono : Monotone yearStart :=
  monotone_int_of_le_succ fun year => by
    rw [yearStart_succ]
    omega

lemma dayNumber_eq (date : Date) :
    date.dayNumber =
      yearStart date.year + daysBeforeMonth date.year date.month + (date.day - 1 : Nat) := rfl

/-- A day comes before the first day of the next month. -/
lemma day_lt (date : Date) :
    daysBeforeMonth date.year date.month + (date.day - 1) <
      daysBeforeMonth date.year (date.month + 1) := by
  have hday := date.day_mem
  rw [daysBeforeMonth_succ _ date.month_mem.1]
  omega

lemma dayNumber_lt_yearStart (date : Date) : date.dayNumber < yearStart (date.year + 1) := by
  have hmonth := date.month_mem
  have hday := date.day_lt
  have hend := daysBeforeMonth_mono date.year (by omega : 1 ≤ date.month + 1)
    (by omega : date.month + 1 ≤ 13)
  rw [dayNumber_eq, yearStart_succ]
  omega

lemma yearStart_le_dayNumber (date : Date) : yearStart date.year ≤ date.dayNumber := by
  rw [dayNumber_eq]
  omega

lemma dayNumber_strictMono : StrictMono dayNumber := by
  intro a b h
  rcases lt_iff.mp h with hyear | ⟨hyear, hmonth | ⟨hmonth, hday⟩⟩
  · calc a.dayNumber < yearStart (a.year + 1) := a.dayNumber_lt_yearStart
      _ ≤ yearStart b.year := yearStart_mono hyear
      _ ≤ b.dayNumber := b.yearStart_le_dayNumber
  · have hlast := a.day_lt
    have hnext := daysBeforeMonth_mono a.year (by omega : 1 ≤ a.month + 1) hmonth
    rw [dayNumber_eq, dayNumber_eq, ← hyear]
    omega
  · have hfirst := a.day_mem
    rw [dayNumber_eq, dayNumber_eq, ← hyear, ← hmonth]
    omega

/-- The day after a date: in the same month, in the next one, or in the next year. -/
lemma exists_next (date : Date) : ∃ next : Date, next.dayNumber = date.dayNumber + 1 := by
  obtain ⟨year, month, day, hmonth, hday⟩ := date
  by_cases hlast : day < daysInMonth year month
  · refine ⟨⟨year, month, day + 1, hmonth, by omega⟩, ?_⟩
    simp only [dayNumber_eq]
    omega
  · have hfirst := daysInMonth_pos year (month + 1)
    have hnew := daysInMonth_pos (year + 1) 1
    have hsucc := daysBeforeMonth_succ year hmonth.1
    by_cases hend : month < 12
    · refine ⟨⟨year, month + 1, 1, by omega, by omega⟩, ?_⟩
      simp only [dayNumber_eq]
      omega
    · refine ⟨⟨year + 1, 1, 1, by omega, by omega⟩, ?_⟩
      obtain rfl : month = 12 := by omega
      have hdecember : daysBeforeMonth year 13 = daysBeforeMonth year 12 + daysInMonth year 12 := hsucc
      have hyear := yearStart_succ year
      have hjanuary : daysBeforeMonth (year + 1) 1 = 0 := rfl
      simp only [dayNumber_eq]
      omega

/-- The day before a date: in the same month, in the month before, or in the year before. -/
lemma exists_previous (date : Date) : ∃ previous : Date, previous.dayNumber = date.dayNumber - 1 := by
  obtain ⟨year, month, day, hmonth, hday⟩ := date
  by_cases hfirst : 1 < day
  · refine ⟨⟨year, month, day - 1, hmonth, by omega⟩, ?_⟩
    simp only [dayNumber_eq]
    omega
  · by_cases hstart : 1 < month
    · have hlast := daysInMonth_pos year (month - 1)
      have hsucc := daysBeforeMonth_succ year (by omega : 1 ≤ month - 1)
      rw [Nat.sub_add_cancel hmonth.1] at hsucc
      refine ⟨⟨year, month - 1, daysInMonth year (month - 1), by omega, by omega⟩, ?_⟩
      simp only [dayNumber_eq]
      omega
    · obtain rfl : month = 1 := by omega
      have hlast := daysInMonth_pos (year - 1) 12
      have hdecember : daysBeforeMonth (year - 1) 13 =
          daysBeforeMonth (year - 1) 12 + daysInMonth (year - 1) 12 :=
        daysBeforeMonth_succ (year - 1) (by decide)
      have hyear := yearStart_succ (year - 1)
      have hjanuary : daysBeforeMonth year 1 = 0 := rfl
      rw [Int.sub_add_cancel] at hyear
      refine ⟨⟨year - 1, 12, daysInMonth (year - 1) 12, by omega, by omega⟩, ?_⟩
      simp only [dayNumber_eq]
      omega

lemma dayNumber_surjective : Function.Surjective dayNumber := by
  intro n
  induction n using Int.induction_on with
  | zero => exact ⟨⟨1, 1, 1, by decide, by decide⟩, rfl⟩
  | succ n ih =>
    obtain ⟨date, hdate⟩ := ih
    obtain ⟨next, hnext⟩ := date.exists_next
    exact ⟨next, by rw [hnext, hdate]⟩
  | pred n ih =>
    obtain ⟨date, hdate⟩ := ih
    obtain ⟨previous, hprevious⟩ := date.exists_previous
    exact ⟨previous, by rw [hprevious, hdate]⟩

/-- The days from one date to another, the first of them counted and the last not. -/
theorem ncard_days (h : b ≤ a) : ((Set.Ico b a).ncard : ℤ) = a.daysBetween b := by
  have hpreimage : Set.Ico b a = Set.preimage dayNumber (Set.Ico b.dayNumber a.dayNumber) := by
    ext date
    simp only [Set.mem_preimage, Set.mem_Ico, dayNumber_strictMono.le_iff_le,
      dayNumber_strictMono.lt_iff_lt]
  have himage : dayNumber '' Set.Ico b a = Set.Ico b.dayNumber a.dayNumber := by
    rw [hpreimage, Set.image_preimage_eq _ dayNumber_surjective]
  have hle : b.dayNumber ≤ a.dayNumber := dayNumber_strictMono.monotone h
  rw [← Set.ncard_image_of_injective _ dayNumber_strictMono.injective, himage, ← Finset.coe_Ico,
    Set.ncard_coe_finset, Int.card_Ico, Int.toNat_of_nonneg (by omega), daysBetween]

end OlapFormula.Date
