import Mathlib.Order.Monotone.Basic
import NetOps.Clock.Stamps

/-!
# Clock.Calendar

Dates of the years 1 to 9999, their day numbers, and the days that come so many days after or
before a date.

* `ordinal_injective`: the day number says which date it is.
* `addDays_eq_some`, `subDays_eq_some`: adding to a date is adding to its day number, as far as
  there are dates.
* `addDays_four`: the day four days after the 28th is of the next month.
-/

namespace NetOps
namespace Clock

structure Date where
  year : Nat
  month : Nat
  day : Nat
  year_range : 1 ≤ year ∧ year ≤ 9999
  month_range : 1 ≤ month ∧ month ≤ 12
  day_range : 1 ≤ day ∧ day ≤ daysIn year month
  deriving DecidableEq

/-! The first of May 2026 is a date. -/

theorem year_2026 : 1 ≤ 2026 ∧ 2026 ≤ 9999 := by decide
theorem month_may : 1 ≤ 5 ∧ 5 ≤ 12 := by decide
theorem first_of_may : 1 ≤ 1 ∧ 1 ≤ daysIn 2026 5 := by decide

/-- `_days_before_year`. -/
def daysBeforeYear (year : Nat) : Nat :=
  (year - 1) * 365 + (year - 1) / 4 - (year - 1) / 100 + (year - 1) / 400

/-- The days of so many months of a year. -/
def daysOfMonths (year : Nat) : Nat → Nat
  | 0 => 0
  | months + 1 => daysOfMonths year months + daysIn year (months + 1)

theorem daysIn_range (year month : Nat) : 28 ≤ daysIn year month ∧ daysIn year month ≤ 31 := by
  unfold daysIn
  split
  · split <;> omega
  · split <;> omega

theorem daysOfMonths_mono (year : Nat) : Monotone (daysOfMonths year) := by
  apply monotone_nat_of_le_succ
  intro months
  exact Nat.le_add_right _ _

theorem daysOfMonths_twelve (year : Nat) :
    daysOfMonths year 12 = if leapYear year then 366 else 365 := by
  cases hleap : leapYear year with
  | false => simp [daysOfMonths, daysIn, hleap]
  | true => simp [daysOfMonths, daysIn, hleap]

/-- The years follow each other without a gap. -/
theorem daysBeforeYear_succ {year : Nat} (h : 1 ≤ year) :
    daysBeforeYear (year + 1) = daysBeforeYear year + daysOfMonths year 12 := by
  obtain ⟨n, rfl⟩ := Nat.exists_eq_add_of_le' h
  have hle : n / 100 ≤ n / 4 := by omega
  rw [daysOfMonths_twelve]
  unfold daysBeforeYear leapYear
  simp only [Nat.add_sub_cancel, Nat.succ_div, Nat.dvd_iff_mod_eq_zero]
  generalize n / 4 = fours at *
  generalize n / 100 = hundreds at *
  generalize n / 400 = fourHundreds
  by_cases h4 : (n + 1) % 4 = 0
  · by_cases h100 : (n + 1) % 100 = 0
    · by_cases h400 : (n + 1) % 400 = 0
      · simp [h4, h100, h400]
        omega
      · simp [h4, h100, h400]
        omega
    · have h400 : (n + 1) % 400 ≠ 0 := by omega
      simp [h4, h100, h400]
      omega
  · have h100 : (n + 1) % 100 ≠ 0 := by omega
    have h400 : (n + 1) % 400 ≠ 0 := by omega
    simp [h4, h100, h400]
    omega

theorem daysBeforeYear_mono {year year' : Nat} (h : 1 ≤ year) (hle : year ≤ year') :
    daysBeforeYear year ≤ daysBeforeYear year' := by
  induction year', hle using Nat.le_induction with
  | base => exact Nat.le_refl _
  | succ year' hle ih =>
    rw [daysBeforeYear_succ (Nat.le_trans h hle)]
    omega

namespace Date

/-- The days before the month of a date. -/
def before (d : Date) : Nat := daysBeforeYear d.year + daysOfMonths d.year (d.month - 1)

/-- `d.toordinal()`. -/
def ordinal (d : Date) : Nat := d.before + d.day

/-- The days of the month of a date. -/
def days (d : Date) : Nat := daysIn d.year d.month

def SameMonth (d e : Date) : Prop := d.year = e.year ∧ d.month = e.month

instance (d e : Date) : Decidable (d.SameMonth e) := inferInstanceAs (Decidable (_ ∧ _))

def EarlierMonth (d e : Date) : Prop := d.year < e.year ∨ d.year = e.year ∧ d.month < e.month

variable {d e : Date}

theorem days_range (d : Date) : 28 ≤ d.days ∧ d.days ≤ 31 := daysIn_range d.year d.month

theorem ordinal_range (d : Date) : d.before < d.ordinal ∧ d.ordinal ≤ d.before + d.days := by
  have hday := d.day_range
  unfold ordinal days
  omega

theorem sameMonth_or (d e : Date) : d.SameMonth e ∨ d.EarlierMonth e ∨ e.EarlierMonth d := by
  unfold SameMonth EarlierMonth
  omega

theorem SameMonth.before_eq (h : d.SameMonth e) : d.before = e.before := by
  unfold before
  rw [h.1, h.2]

theorem SameMonth.days_eq (h : d.SameMonth e) : d.days = e.days := by
  unfold days
  rw [h.1, h.2]

/-- The day after the last of a month, counted from the days before its year. -/
theorem before_add_days (d : Date) :
    d.before + d.days = daysBeforeYear d.year + daysOfMonths d.year d.month := by
  obtain ⟨months, hmonths⟩ : ∃ months, d.month = months + 1 :=
    ⟨d.month - 1, by have := d.month_range; omega⟩
  unfold before days
  rw [hmonths, Nat.add_sub_cancel, daysOfMonths, Nat.add_assoc]

theorem EarlierMonth.before_le (h : d.EarlierMonth e) : d.before + d.days ≤ e.before := by
  rw [before_add_days]
  unfold before
  rcases h with h | ⟨hyear, hmonth⟩
  · have hyears := daysBeforeYear_mono (Nat.le_succ_of_le d.year_range.1) h
    have hmonths := daysOfMonths_mono d.year d.month_range.2
    rw [Nat.succ_eq_add_one, daysBeforeYear_succ d.year_range.1] at hyears
    omega
  · have hmonths := daysOfMonths_mono e.year (Nat.le_sub_one_of_lt hmonth)
    rw [hyear]
    omega

theorem ordinal_lt_of_earlierMonth (h : d.EarlierMonth e) : d.ordinal < e.ordinal := by
  have hle := h.before_le
  have hd := d.ordinal_range
  have he := e.ordinal_range
  omega

theorem sameMonth_of_ordinal (hlow : d.before < e.ordinal) (hhigh : e.ordinal ≤ d.before + d.days) :
    d.SameMonth e := by
  have he := e.ordinal_range
  rcases sameMonth_or d e with h | h | h
  · exact h
  · have := h.before_le
    omega
  · have := h.before_le
    omega

theorem ordinal_injective (h : d.ordinal = e.ordinal) : d = e := by
  have hd := d.ordinal_range
  have hsame : d.SameMonth e := sameMonth_of_ordinal (by omega) (by omega)
  have hday : d.day = e.day := by
    have hbefore := hsame.before_eq
    unfold ordinal at h
    omega
  obtain ⟨hyear, hmonth⟩ := hsame
  cases d
  cases e
  simp only at hyear hmonth hday
  subst hyear hmonth hday
  rfl

/-! ## The days after and before -/

def next (d : Date) : Option Date :=
  if h : d.day < d.days then
    some { d with day := d.day + 1, day_range := ⟨by omega, h⟩ }
  else if h : d.month < 12 then
    some { d with
      month := d.month + 1, day := 1
      month_range := ⟨by omega, h⟩
      day_range := ⟨by omega, Nat.le_trans (by omega) (daysIn_range _ _).1⟩ }
  else if h : d.year < 9999 then
    some { year := d.year + 1, month := 1, day := 1
           year_range := ⟨by omega, h⟩
           month_range := by omega
           day_range := ⟨by omega, Nat.le_trans (by omega) (daysIn_range _ _).1⟩ }
  else none

def prev (d : Date) : Option Date :=
  if h : 1 < d.day then
    some { d with day := d.day - 1, day_range := by have := d.day_range; omega }
  else if h : 1 < d.month then
    some { d with
      month := d.month - 1, day := daysIn d.year (d.month - 1)
      month_range := by have := d.month_range; omega
      day_range := ⟨Nat.le_trans (by omega) (daysIn_range _ _).1, Nat.le_refl _⟩ }
  else if h : 1 < d.year then
    some { year := d.year - 1, month := 12, day := 31
           year_range := by have := d.year_range; omega
           month_range := by omega
           day_range := ⟨by omega, by simp [daysIn]⟩ }
  else none

theorem ordinal_next (h : d.next = some e) : e.ordinal = d.ordinal + 1 := by
  have hday := d.day_range
  have hdays := before_add_days d
  unfold next at h
  split at h
  · cases h
    rfl
  · split at h
    · cases h
      simp only [ordinal, before, Nat.add_sub_cancel] at hdays ⊢
      unfold days at *
      omega
    · split at h
      · cases h
        have hmonth : d.month = 12 := by have := d.month_range; omega
        rw [hmonth, ← daysBeforeYear_succ d.year_range.1] at hdays
        simp only [ordinal, before, Nat.sub_self, daysOfMonths] at hdays ⊢
        unfold days at *
        omega
      · cases h

/-- Only the last day has none after it. -/
theorem ordinal_le_of_next (h : d.next = none) (e : Date) : e.ordinal ≤ d.ordinal := by
  have hday := d.day_range
  have hrange := d.month_range
  unfold next at h
  split at h
  · cases h
  · split at h
    · cases h
    · split at h
      · cases h
      · have he := e.ordinal_range
        have hlast : d.ordinal = d.before + d.days := by
          unfold ordinal
          unfold days at *
          omega
        rcases sameMonth_or d e with hsame | hearlier | hearlier
        · rw [hlast, hsame.before_eq, hsame.days_eq]
          exact he.2
        · have := e.year_range
          have := e.month_range
          unfold EarlierMonth at hearlier
          omega
        · exact Nat.le_of_lt (ordinal_lt_of_earlierMonth hearlier)

theorem ordinal_prev (h : d.prev = some e) : e.ordinal + 1 = d.ordinal := by
  have hday := d.day_range
  unfold prev at h
  split at h
  · cases h
    simp only [ordinal, before]
    omega
  · split at h
    · rename_i hmonth
      cases h
      obtain ⟨months, hmonths⟩ : ∃ months, d.month = months + 2 := ⟨d.month - 2, by omega⟩
      have hdays : daysOfMonths d.year (months + 1) =
          daysOfMonths d.year months + daysIn d.year (months + 1) := rfl
      simp only [ordinal, before, hmonths, Nat.add_sub_cancel, show months + 2 - 1 = months + 1 from
        rfl]
      omega
    · split at h
      · cases h
        have hmonth : d.month = 1 := by have := d.month_range; omega
        obtain ⟨year, hyear⟩ : ∃ year, d.year = year + 2 := ⟨d.year - 2, by omega⟩
        have hyears : daysBeforeYear (year + 2) =
            daysBeforeYear (year + 1) + daysOfMonths (year + 1) 12 :=
          daysBeforeYear_succ (by omega)
        have hlast : daysOfMonths (year + 1) 12 = daysOfMonths (year + 1) 11 + 31 := by
          simp [daysOfMonths, daysIn]
        have hzero : daysOfMonths (year + 2) 0 = 0 := rfl
        simp only [ordinal, before, hmonth, hyear, Nat.sub_self, hzero,
          show year + 2 - 1 = year + 1 from rfl, show 12 - 1 = 11 from rfl]
        omega
      · cases h

/-- Only the first day has none before it. -/
theorem ordinal_of_prev (h : d.prev = none) : d.ordinal = 1 := by
  have hday := d.day_range
  have hmonth := d.month_range
  have hyear := d.year_range
  unfold prev at h
  split at h
  · cases h
  · split at h
    · cases h
    · split at h
      · cases h
      · have hone : d.year = 1 ∧ d.month = 1 ∧ d.day = 1 := by omega
        unfold ordinal before
        rw [hone.1, hone.2.1, hone.2.2]
        rfl

/-- `d + timedelta(days=n)`. -/
def addDays (d : Date) : Nat → Option Date
  | 0 => some d
  | n + 1 => d.next.bind fun d => d.addDays n

/-- `d - timedelta(days=n)`. -/
def subDays (d : Date) : Nat → Option Date
  | 0 => some d
  | n + 1 => d.prev.bind fun d => d.subDays n

theorem addDays_eq_some {n : Nat} : d.addDays n = some e ↔ e.ordinal = d.ordinal + n := by
  induction n generalizing d with
  | zero =>
    rw [addDays, Option.some.injEq]
    exact ⟨fun h => h ▸ rfl, fun h => (ordinal_injective h).symm⟩
  | succ n ih =>
    rw [addDays]
    cases hnext : d.next with
    | none =>
      have hle := ordinal_le_of_next hnext e
      simp only [Option.bind_none]
      constructor
      · intro h
        cases h
      · intro h
        omega
    | some d' =>
      have hone := ordinal_next hnext
      rw [Option.bind_some, ih, hone]
      omega

theorem subDays_eq_some {n : Nat} : d.subDays n = some e ↔ e.ordinal + n = d.ordinal := by
  induction n generalizing d with
  | zero =>
    rw [subDays, Option.some.injEq]
    exact ⟨fun h => h ▸ rfl, fun h => (ordinal_injective h).symm⟩
  | succ n ih =>
    rw [subDays]
    cases hprev : d.prev with
    | none =>
      have hone := ordinal_of_prev hprev
      have he := e.ordinal_range
      simp only [Option.bind_none]
      constructor
      · intro h
        cases h
      · intro h
        omega
    | some d' =>
      have hone := ordinal_prev hprev
      rw [Option.bind_some, ih]
      omega

theorem subDays_isSome {n : Nat} (h : n < d.ordinal) : ∃ e, d.subDays n = some e := by
  induction n generalizing d with
  | zero => exact ⟨d, rfl⟩
  | succ n ih =>
    rw [subDays]
    cases hprev : d.prev with
    | none =>
      have hone := ordinal_of_prev hprev
      omega
    | some d' =>
      have hone := ordinal_prev hprev
      rw [Option.bind_some]
      exact ih (by omega)

/-- There is a day as long as there is a later one. -/
theorem addDays_isSome {n : Nat} (h : d.ordinal + n ≤ e.ordinal) : ∃ f, d.addDays n = some f := by
  have hd := d.ordinal_range
  have hback : e.ordinal - (d.ordinal + n) < e.ordinal := by omega
  obtain ⟨f, hf⟩ := subDays_isSome hback
  rw [subDays_eq_some] at hf
  exact ⟨f, addDays_eq_some.2 (by omega)⟩

/-- `date.max`. -/
def last : Date := ⟨9999, 12, 31, by decide, by decide, by decide⟩

theorem ordinal_last : last.ordinal = 3652059 := by decide

theorem ordinal_le_last (d : Date) : d.ordinal ≤ 3652059 := by
  have hnone : last.next = none := by decide
  have hle := ordinal_le_of_next hnone d
  rwa [ordinal_last] at hle

theorem addDays_eq_none {n : Nat} : d.addDays n = none ↔ 3652059 < d.ordinal + n := by
  constructor
  · intro h
    by_contra hle
    have hlast : d.ordinal + n ≤ last.ordinal := by
      rw [ordinal_last]
      omega
    obtain ⟨f, hf⟩ := addDays_isSome hlast
    rw [h] at hf
    cases hf
  · intro h
    cases hadd : d.addDays n with
    | none => rfl
    | some e =>
      have hsum := addDays_eq_some.1 hadd
      have hle := ordinal_le_last e
      omega

/-! ## Weeks and months -/

/-- `d.weekday()`: Monday is 0. -/
def weekday (d : Date) : Nat := (d.ordinal + 6) % 7

/-- Weeks begin on Mondays, the first on the first day. -/
def week (d : Date) : Nat := (d.ordinal + 6) / 7

/-- The week of the year, where weeks begin on Sundays (`%U`). -/
def weekOfYear (d : Date) : Nat :=
  (d.ordinal - daysBeforeYear d.year - 1 + 7 - (d.weekday + 1) % 7) / 7

/-- Months in turn. -/
def monthNumber (d : Date) : Nat := 12 * d.year + d.month

/-! The first and the twenty-eighth are days of all months. -/

theorem day_1 : 1 ≤ 1 ∧ 1 ≤ 28 := by decide
theorem day_28 : 1 ≤ 28 ∧ 28 ≤ 28 := by decide

/-- `d.replace(day=day)`, for a day that all months have. -/
def withDay (d : Date) (day : Nat) (h : 1 ≤ day ∧ day ≤ 28) : Date where
  year := d.year
  month := d.month
  day := day
  year_range := d.year_range
  month_range := d.month_range
  day_range := ⟨h.1, Nat.le_trans h.2 d.days_range.1⟩

theorem ordinal_withDay (d : Date) (day : Nat) (h : 1 ≤ day ∧ day ≤ 28) :
    (d.withDay day h).ordinal = d.before + day := rfl

theorem sameMonth_iff : d.SameMonth e ↔ d.monthNumber = e.monthNumber := by
  have hd := d.month_range
  have he := e.month_range
  unfold SameMonth monthNumber
  omega

theorem earlierMonth_iff : d.EarlierMonth e ↔ d.monthNumber < e.monthNumber := by
  have hd := d.month_range
  have he := e.month_range
  unfold EarlierMonth monthNumber
  omega

/-- The first day of the next month. -/
def nextMonth (d : Date) : Option Date :=
  if h : d.month < 12 then
    some { d with
      month := d.month + 1, day := 1
      month_range := ⟨by omega, h⟩
      day_range := ⟨by omega, Nat.le_trans (by omega) (daysIn_range _ _).1⟩ }
  else if h : d.year < 9999 then
    some { year := d.year + 1, month := 1, day := 1
           year_range := ⟨by omega, h⟩
           month_range := by omega
           day_range := ⟨by omega, Nat.le_trans (by omega) (daysIn_range _ _).1⟩ }
  else none

theorem nextMonth_eq_none : d.nextMonth = none ↔ d.SameMonth last := by
  have hmonth := d.month_range
  have hyear := d.year_range
  unfold nextMonth SameMonth last
  split
  · simp
    omega
  · split
    · simp
      omega
    · simp
      omega

theorem nextMonth_eq_some (h : d.nextMonth = some e) :
    e.before = d.before + d.days ∧ e.day = 1 ∧ e.monthNumber = d.monthNumber + 1 := by
  have hmonth := d.month_range
  have hdays := before_add_days d
  unfold nextMonth at h
  split at h
  · cases h
    refine ⟨?_, rfl, rfl⟩
    rw [hdays]
    rfl
  · split at h
    · cases h
      have hlast : d.month = 12 := by omega
      refine ⟨?_, rfl, ?_⟩
      · rw [hdays, hlast, ← daysBeforeYear_succ d.year_range.1]
        rfl
      · simp only [monthNumber, hlast]
        omega
    · cases h

/-- From the 28th on, four days lead to the next month. -/
theorem addDays_four (d : Date) {f : Date}
    (h : (d.withDay 28 (by omega)).addDays 4 = some f) :
    d.nextMonth = some (f.withDay 1 (by omega)) := by
  have hsum := addDays_eq_some.1 h
  have hd := d.days_range
  have hf := f.ordinal_range
  rw [ordinal_withDay] at hsum
  cases hnext : d.nextMonth with
  | none =>
    have hlast := nextMonth_eq_none.1 hnext
    have hbefore := hlast.before_eq
    have hle := ordinal_le_last f
    have hend : last.before = 3652028 := by decide
    omega
  | some e =>
    obtain ⟨hbefore, hday, -⟩ := nextMonth_eq_some hnext
    have he := e.days_range
    have hsame : e.SameMonth f := sameMonth_of_ordinal (by omega) (by omega)
    rw [Option.some.injEq]
    apply ordinal_injective
    rw [ordinal_withDay, ← hsame.before_eq, ordinal, hday]

theorem addDays_four_eq_none (d : Date) :
    (d.withDay 28 (by omega)).addDays 4 = none ↔ d.SameMonth last := by
  constructor
  · intro h
    rw [← nextMonth_eq_none]
    cases hnext : d.nextMonth with
    | none => rfl
    | some e =>
      obtain ⟨hbefore, hday, -⟩ := nextMonth_eq_some hnext
      have hlarge := addDays_eq_none.1 h
      have he := e.days_range
      have hd := d.days_range
      have hle := ordinal_le_last (e.withDay 28 (by omega))
      rw [ordinal_withDay] at hlarge hle
      omega
  · intro h
    rw [addDays_eq_none, ordinal_withDay, h.before_eq]
    decide

end Date
end Clock
end NetOps
