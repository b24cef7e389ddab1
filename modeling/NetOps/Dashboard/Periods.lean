import NetOps.Dashboard.Buckets

/-!
# Dashboard.Periods

When the buckets partition the time. Days do. The interval of a week or a month begins at the
comparison's own time of day, and the label of a week changes on Sunday while its start changes on
Monday; so the comparisons of one week or month are together only if they agree in these.

* `keysApart_iff`: exactly when the keys are apart, for any kind of periods.
* `buckets_partition_iff`: exactly when the buckets are what the claim says.
-/

namespace NetOps
namespace Dashboard

open Clock (Date Wall padded microsPerDay length_padded)

/-! ## Kinds of periods -/

/-- Periods in turn. A key begins at an offset after the first day of its period and ends at that
offset after the first day of the next one. -/
structure Periods (granularity : AggregationGranularity) where
  number : Wall → Nat
  first : Wall → Nat
  next : Wall → Nat
  offset : Wall → Nat
  Overflows : Wall → Prop
  samePeriod : ∀ t u, SamePeriod granularity t u ↔ number t = number u
  same : ∀ t u, number t = number u → first t = first u ∧ next t = next u
  first_lt_next : ∀ t, first t < next t
  follows : ∀ t u, number u = number t + 1 → next t = first u
  later : ∀ t u, number t + 1 < number u → next t < first u
  offset_lt : ∀ t, offset t < microsPerDay
  inside : ∀ t : Wall, first t * microsPerDay + offset t ≤ t.total ∧
    t.total < next t * microsPerDay + offset t
  key_eq_none : ∀ t, bucketKey granularity t = none ↔ Overflows t
  key_eq_some : ∀ t key, bucketKey granularity t = some key →
    key.label = bucketLabel t granularity ∧
      key.start.total = first t * microsPerDay + offset t ∧
        key.finish.total + 1 = next t * microsPerDay + offset t

namespace Periods

variable {granularity : AggregationGranularity} (p : Periods granularity) {t u : Wall}
  {key key' : BucketKey}

theorem next_le (h : p.number t < p.number u) : p.next t ≤ p.first u := by
  rcases Nat.eq_or_lt_of_le (Nat.succ_le_of_lt h) with hnext | hlater
  · exact Nat.le_of_eq (p.follows t u hnext.symm)
  · exact Nat.le_of_lt (p.later t u hlater)

theorem number_eq (h : p.first t = p.first u) : p.number t = p.number u := by
  have ht := p.first_lt_next t
  have hu := p.first_lt_next u
  rcases Nat.lt_trichotomy (p.number t) (p.number u) with hlt | heq | hlt
  · have hle := p.next_le hlt
    omega
  · exact heq
  · have hle := p.next_le hlt
    omega

/-- Times of one period have one key if they agree in the label and in the offset. -/
theorem key_eq_iff (h : bucketKey granularity t = some key)
    (h' : bucketKey granularity u = some key') :
    key = key' ↔ p.number t = p.number u ∧ p.offset t = p.offset u ∧
      bucketLabel t granularity = bucketLabel u granularity := by
  obtain ⟨hlabel, hstart, hfinish⟩ := p.key_eq_some t key h
  obtain ⟨hlabel', hstart', hfinish'⟩ := p.key_eq_some u key' h'
  have ht := p.offset_lt t
  have hu := p.offset_lt u
  constructor
  · rintro rfl
    rw [hstart] at hstart'
    unfold microsPerDay at *
    have hfirst : p.first t = p.first u := by omega
    exact ⟨p.number_eq hfirst, by omega, hlabel.symm.trans hlabel'⟩
  · rintro ⟨hnumber, hoffset, hlabels⟩
    obtain ⟨hfirst, hnext⟩ := p.same t u hnumber
    have hstarts : key.start = key'.start := by
      apply Wall.total_injective
      rw [hstart, hstart', hfirst, hoffset]
    have hfinishes : key.finish = key'.finish := by
      apply Wall.total_injective
      rw [hnext, hoffset] at hfinish
      omega
    cases key
    cases key'
    simp only [BucketKey.mk.injEq]
    exact ⟨hlabel.trans (hlabels.trans hlabel'.symm), hstarts, hfinishes⟩

/-- The intervals of times in turn are apart. -/
theorem disjoint_iff (h : bucketKey granularity t = some key)
    (h' : bucketKey granularity u = some key') (hlt : p.number t < p.number u) :
    Disjoint key key' ↔ (p.number u = p.number t + 1 → p.offset t ≤ p.offset u) := by
  obtain ⟨-, hstart, hfinish⟩ := p.key_eq_some t key h
  obtain ⟨-, hstart', hfinish'⟩ := p.key_eq_some u key' h'
  have ht := p.offset_lt t
  have hu := p.offset_lt u
  have hfirst := p.first_lt_next t
  have hfirst' := p.first_lt_next u
  unfold Disjoint
  unfold microsPerDay at *
  by_cases hnext : p.number u = p.number t + 1
  · have hfollows := p.follows t u hnext
    constructor
    · intro hdisjoint _
      omega
    · intro hoffset
      have hle := hoffset hnext
      omega
  · have hlater := p.later t u (by omega)
    constructor
    · intro _ hsame
      exact absurd hsame hnext
    · intro _
      omega

/-- Exactly when the keys are apart. -/
theorem keysApart_iff (comparisons : List ComparisonResult) :
    KeysApart granularity comparisons ↔
      (∀ c ∈ comparisons, ¬p.Overflows c.comparedAt) ∧
      (∀ c ∈ comparisons, ∀ c' ∈ comparisons, p.number c.comparedAt = p.number c'.comparedAt →
        p.offset c.comparedAt = p.offset c'.comparedAt ∧
          bucketLabel c.comparedAt granularity = bucketLabel c'.comparedAt granularity) ∧
      ∀ c ∈ comparisons, ∀ c' ∈ comparisons,
        p.number c'.comparedAt = p.number c.comparedAt + 1 →
          p.offset c.comparedAt ≤ p.offset c'.comparedAt := by
  have hkeys : (∀ c ∈ comparisons, ∃ key, bucketKey granularity c.comparedAt = some key) ↔
      ∀ c ∈ comparisons, ¬p.Overflows c.comparedAt := by
    constructor
    · intro h c hc hoverflow
      obtain ⟨key, hkey⟩ := h c hc
      rw [(p.key_eq_none _).2 hoverflow] at hkey
      cases hkey
    · intro h c hc
      rw [← Option.ne_none_iff_exists']
      exact fun hnone => h c hc ((p.key_eq_none _).1 hnone)
  constructor
  · intro hapart
    refine ⟨hkeys.1 hapart.keys, ?_, ?_⟩
    · intro c hc c' hc' hnumber
      obtain ⟨key, hkey⟩ := hapart.keys c hc
      have hsame := (hapart.same c hc c' hc').2 ((p.samePeriod _ _).2 hnumber)
      exact ((p.key_eq_iff hkey (hsame ▸ hkey)).1 rfl).2
    · intro c hc c' hc' hnext
      obtain ⟨key, hkey⟩ := hapart.keys c hc
      obtain ⟨key', hkey'⟩ := hapart.keys c' hc'
      have hne : key ≠ key' := by
        intro hsame
        have hnumber := ((p.key_eq_iff hkey hkey').1 hsame).1
        omega
      have hdisjoint := hapart.disjoint c hc c' hc' key key' hkey hkey' hne
      exact (p.disjoint_iff hkey hkey' (by omega)).1 hdisjoint hnext
  · rintro ⟨hoverflow, htogether, hinTurn⟩
    have hexist := hkeys.2 hoverflow
    refine ⟨hexist, ?_, ?_⟩
    · intro c hc c' hc'
      obtain ⟨key, hkey⟩ := hexist c hc
      obtain ⟨key', hkey'⟩ := hexist c' hc'
      rw [hkey, hkey', Option.some.injEq, p.key_eq_iff hkey hkey', p.samePeriod]
      constructor
      · exact fun h => h.1
      · intro hnumber
        exact ⟨hnumber, htogether c hc c' hc' hnumber⟩
    · intro c hc c' hc' key key' hkey hkey' hne
      rcases Nat.lt_trichotomy (p.number c.comparedAt) (p.number c'.comparedAt) with
        hlt | heq | hlt
      · exact (p.disjoint_iff hkey hkey' hlt).2 (hinTurn c hc c' hc')
      · exact absurd ((p.key_eq_iff hkey hkey').2 ⟨heq, htogether c hc c' hc' heq⟩) hne
      · exact disjoint_comm.1 ((p.disjoint_iff hkey' hkey hlt).2 (hinTurn c' hc' c hc))

end Periods

theorem bucketKey_eq_some {granularity : AggregationGranularity} {t : Wall} {key : BucketKey} :
    bucketKey granularity t = some key ↔ key.label = bucketLabel t granularity ∧
      bucketStart t granularity = some key.start ∧ bucketEnd t granularity = some key.finish := by
  unfold bucketKey
  cases key
  cases bucketStart t granularity <;> cases bucketEnd t granularity <;>
    simp [eq_comm]

theorem bucketKey_eq_none {granularity : AggregationGranularity} {t start : Wall}
    (h : bucketStart t granularity = some start) :
    bucketKey granularity t = none ↔ bucketEnd t granularity = none := by
  unfold bucketKey
  cases bucketEnd t granularity <;> simp [h]

/-! ## Days -/

theorem midnight_total (d : Date) : (Wall.midnight d).total = d.ordinal * microsPerDay := by
  rw [Wall.midnight, Wall.total_mk, Nat.add_zero]

theorem midnight_plus (d : Date) :
    (Wall.midnight d).plus (microsPerDay - 1) = some ⟨d, microsPerDay - 1, by decide⟩ := by
  rw [Wall.plus_eq_some, midnight_total, Wall.total_mk]

/-- All other granularities are by days. -/
def days (granularity : AggregationGranularity) (h : granularity ≠ .weekly)
    (h' : granularity ≠ .monthly) : Periods granularity where
  number t := t.date.ordinal
  first t := t.date.ordinal
  next t := t.date.ordinal + 1
  offset _ := 0
  Overflows _ := False
  samePeriod := by
    intro t u
    have hsame : SamePeriod granularity t u ↔ t.date = u.date := by
      cases granularity with
      | weekly => exact absurd rfl h
      | monthly => exact absurd rfl h'
      | _ => exact Iff.rfl
    rw [hsame]
    exact ⟨fun heq => by rw [heq], Date.ordinal_injective⟩
  same := by
    intro t u hsame
    exact ⟨hsame, by rw [hsame]⟩
  first_lt_next := fun t => Nat.lt_succ_self _
  follows := fun t u hnext => hnext.symm
  later := fun t u hlater => hlater
  offset_lt := fun _ => by decide
  inside := by
    intro t
    have hmicros := t.micros_lt
    unfold Wall.total microsPerDay at *
    omega
  key_eq_none := by
    intro t
    have hend : bucketEnd t granularity = some ⟨t.date, microsPerDay - 1, by decide⟩ := by
      cases granularity with
      | weekly => exact absurd rfl h
      | monthly => exact absurd rfl h'
      | _ => exact midnight_plus t.date
    have hstart : bucketStart t granularity = some (Wall.midnight t.date) := by
      cases granularity with
      | weekly => exact absurd rfl h
      | monthly => exact absurd rfl h'
      | _ => rfl
    rw [bucketKey_eq_none hstart, hend]
    simp
  key_eq_some := by
    intro t key hkey
    obtain ⟨hlabel, hstart, hend⟩ := bucketKey_eq_some.1 hkey
    have hvalues : Wall.midnight t.date = key.start ∧
        ⟨t.date, microsPerDay - 1, by decide⟩ = key.finish := by
      cases granularity with
      | weekly => exact absurd rfl h
      | monthly => exact absurd rfl h'
      | _ =>
        exact ⟨Option.some.inj hstart, Option.some.inj ((midnight_plus t.date).symm.trans hend)⟩
    refine ⟨hlabel, ?_, ?_⟩
    · rw [← hvalues.1, midnight_total, Nat.add_zero]
    · rw [← hvalues.2, Wall.total_mk, Nat.add_mul]
      unfold microsPerDay
      omega

/-! ## Weeks -/

theorem monday_eq (d : Date) : 7 * d.week - 6 + d.weekday = d.ordinal := by
  have hd := d.ordinal_range
  unfold Date.week Date.weekday
  omega

theorem week_range (d : Date) : 1 ≤ d.week ∧ d.week ≤ 521723 := by
  have hd := d.ordinal_range
  have hle := d.ordinal_le_last
  unfold Date.week
  omega

theorem week_last : Date.last.week = 521723 := by
  unfold Date.week
  rw [Date.ordinal_last]

/-- The Monday of the week, at the same time of day. -/
theorem weekly_start (t : Wall) : ∃ start, bucketStart t .weekly = some start ∧
    start.total = (7 * t.date.week - 6) * microsPerDay + t.micros := by
  have hmonday := monday_eq t.date
  have hweek := week_range t.date
  have hback : t.date.weekday < t.date.ordinal := by omega
  obtain ⟨monday, hdate⟩ := Date.subDays_isSome hback
  rw [Date.subDays_eq_some] at hdate
  have hordinal : monday.ordinal = 7 * t.date.week - 6 := by omega
  refine ⟨⟨monday, t.micros, t.micros_lt⟩, ?_, ?_⟩
  · refine Wall.minus_eq_some.2 ?_
    rw [Wall.total_mk, Wall.total, ← hdate, Nat.add_mul]
    omega
  · rw [Wall.total_mk, hordinal]

theorem weekly_end {t start : Wall} (h : bucketStart t .weekly = some start) :
    bucketEnd t .weekly = start.plus (7 * microsPerDay - 1) := by
  rw [bucketEnd, h, Option.bind_some]

/-- Seven days later there is no time in the last week only. -/
theorem weekly_end_eq_none {t start : Wall}
    (hstart : start.total = (7 * t.date.week - 6) * microsPerDay + t.micros) :
    start.plus (7 * microsPerDay - 1) = none ↔ t.date.week = Date.last.week := by
  have hweek := week_range t.date
  have hmicros := t.micros_lt
  rw [week_last]
  constructor
  · intro hnone
    by_contra hother
    have hlater : start.date.ordinal + (start.micros + (7 * microsPerDay - 1)) / microsPerDay ≤
        Date.last.ordinal := by
      have hlt := start.micros_lt
      rw [Date.ordinal_last]
      unfold Wall.total at hstart
      unfold microsPerDay at *
      omega
    obtain ⟨f, hf⟩ := Date.addDays_isSome hlater
    rw [Wall.plus, hf] at hnone
    cases hnone
  · intro hlast
    cases hplus : start.plus (7 * microsPerDay - 1) with
    | none => rfl
    | some v =>
      have htotal := Wall.plus_eq_some.1 hplus
      have hv := v.micros_lt
      have hle := v.date.ordinal_le_last
      rw [hstart] at htotal
      unfold Wall.total at htotal
      unfold microsPerDay at *
      omega

def weeks : Periods .weekly where
  number t := t.date.week
  first t := 7 * t.date.week - 6
  next t := 7 * t.date.week + 1
  offset t := t.micros
  Overflows t := t.date.week = Date.last.week
  samePeriod := fun _ _ => Iff.rfl
  same := by
    intro t u hsame
    rw [hsame]
    exact ⟨rfl, rfl⟩
  first_lt_next := by
    intro t
    omega
  follows := by
    intro t u hnext
    omega
  later := by
    intro t u hlater
    omega
  offset_lt := fun t => t.micros_lt
  inside := by
    intro t
    have hmonday := monday_eq t.date
    have hweek := week_range t.date
    have hday : t.date.weekday < 7 := Nat.mod_lt _ (by decide)
    unfold Wall.total microsPerDay
    omega
  key_eq_none := by
    intro t
    obtain ⟨start, hstart, htotal⟩ := weekly_start t
    rw [bucketKey_eq_none hstart, weekly_end hstart, weekly_end_eq_none htotal]
  key_eq_some := by
    intro t key hkey
    obtain ⟨hlabel, hstart, hend⟩ := bucketKey_eq_some.1 hkey
    obtain ⟨start, hstart', htotal⟩ := weekly_start t
    have hsame : start = key.start := Option.some.inj (hstart'.symm.trans hstart)
    subst hsame
    rw [weekly_end hstart, Wall.plus_eq_some, htotal] at hend
    have hweek := week_range t.date
    refine ⟨hlabel, htotal, ?_⟩
    unfold microsPerDay at *
    omega

/-! ## Months -/

/-- The end of a month's interval. -/
theorem monthly_end {t : Wall} {e : Date} (h : t.date.nextMonth = some e) :
    ∃ finish, bucketEnd t .monthly = some finish ∧
      finish.total + 1 = (t.date.before + t.date.days + 1) * microsPerDay + t.micros := by
  obtain ⟨hbefore, hday, -⟩ := Date.nextMonth_eq_some h
  have hnotLast : ¬t.date.SameMonth Date.last := by
    rw [← Date.nextMonth_eq_none, h]
    simp
  obtain ⟨f, hf⟩ := Option.ne_none_iff_exists'.1
    (fun hnone => hnotLast ((Date.addDays_four_eq_none t.date).1 hnone))
  have he : e = f.withDay 1 (by omega) :=
    Option.some.inj (h.symm.trans (Date.addDays_four t.date hf))
  have hordinal : e.ordinal = t.date.before + t.date.days + 1 := by
    rw [Date.ordinal, hbefore, hday]
  have hback : 1 < e.ordinal := by
    have hdays := t.date.days_range
    omega
  have htotal : 1 ≤ (Wall.mk e t.micros t.micros_lt).total := by
    rw [Wall.total_mk, hordinal]
    unfold microsPerDay
    omega
  obtain ⟨finish, hfinish⟩ : ∃ finish,
      (Wall.mk e t.micros t.micros_lt).minus 1 = some finish := by
    unfold Wall.minus
    have hdays : (Wall.mk e t.micros t.micros_lt).borrowed 1 < e.ordinal := by
      unfold Wall.borrowed microsPerDay
      omega
    obtain ⟨date, hdate⟩ := Date.subDays_isSome hdays
    exact ⟨_, by rw [hdate]; rfl⟩
  refine ⟨finish, ?_, ?_⟩
  · rw [bucketEnd, hf, Option.bind_some, ← he]
    exact hfinish
  · rw [Wall.minus_eq_some.1 hfinish, Wall.total_mk, hordinal]

theorem monthly_end_none {t : Wall} (h : t.date.SameMonth Date.last) :
    bucketEnd t .monthly = none := by
  rw [bucketEnd, (Date.addDays_four_eq_none t.date).2 h]
  rfl

theorem nextMonth_isSome {d e : Date} (h : d.monthNumber < e.monthNumber) :
    ∃ f, d.nextMonth = some f := by
  rw [← Option.ne_none_iff_exists']
  intro hnone
  have hlast := (Date.sameMonth_iff.1 (Date.nextMonth_eq_none.1 hnone))
  have hyear := e.year_range
  have hmonth := e.month_range
  unfold Date.monthNumber Date.last at *
  dsimp only at hlast
  omega

def months : Periods .monthly where
  number t := t.date.monthNumber
  first t := t.date.before + 1
  next t := t.date.before + t.date.days + 1
  offset t := t.micros
  Overflows t := t.date.SameMonth Date.last
  samePeriod := fun _ _ => Date.sameMonth_iff
  same := by
    intro t u hsame
    have hmonth := Date.sameMonth_iff.2 hsame
    rw [hmonth.before_eq, hmonth.days_eq]
    exact ⟨rfl, rfl⟩
  first_lt_next := by
    intro t
    have hdays := t.date.days_range
    omega
  follows := by
    intro t u hnext
    obtain ⟨e, he⟩ := nextMonth_isSome (show t.date.monthNumber < u.date.monthNumber by omega)
    obtain ⟨hbefore, -, hnumber⟩ := Date.nextMonth_eq_some he
    have hsame : e.SameMonth u.date := Date.sameMonth_iff.2 (by omega)
    rw [← hbefore, hsame.before_eq]
  later := by
    intro t u hlater
    obtain ⟨e, he⟩ := nextMonth_isSome (show t.date.monthNumber < u.date.monthNumber by omega)
    obtain ⟨hbefore, -, hnumber⟩ := Date.nextMonth_eq_some he
    have hearlier : e.EarlierMonth u.date := Date.earlierMonth_iff.2 (by omega)
    have hle := hearlier.before_le
    have hdays := e.days_range
    omega
  offset_lt := fun t => t.micros_lt
  inside := by
    intro t
    have hday := t.date.ordinal_range
    unfold Wall.total microsPerDay
    omega
  key_eq_none := by
    intro t
    have hstart : bucketStart t .monthly = some { t with date := t.date.withDay 1 Date.day_1 } :=
      rfl
    rw [bucketKey_eq_none hstart]
    constructor
    · intro hnone
      rw [← Date.nextMonth_eq_none]
      cases hnext : t.date.nextMonth with
      | none => rfl
      | some e =>
        obtain ⟨finish, hfinish, -⟩ := monthly_end hnext
        rw [hnone] at hfinish
        cases hfinish
    · exact monthly_end_none
  key_eq_some := by
    intro t key hkey
    obtain ⟨hlabel, hstart, hend⟩ := bucketKey_eq_some.1 hkey
    refine ⟨hlabel, ?_, ?_⟩
    · rw [← Option.some.inj hstart]
      rfl
    · cases hnext : t.date.nextMonth with
      | none =>
        rw [monthly_end_none (Date.nextMonth_eq_none.1 hnext)] at hend
        cases hend
      | some e =>
        obtain ⟨finish, hfinish, htotal⟩ := monthly_end hnext
        rw [← Option.some.inj (hfinish.symm.trans hend), htotal]

/-! ## Labels -/

theorem padded_injective {width n m : Nat} (hn : n < 10 ^ width) (hm : m < 10 ^ width)
    (h : padded width n = padded width m) : n = m := by
  have hread := congrArg (fun cs => Nat.ofDigitChars 10 cs 0) h
  simpa [Clock.ofDigitChars_padded hn, Clock.ofDigitChars_padded hm] using hread

theorem yearText_injective {d e : Date} (h : yearText d = yearText e) : d.year = e.year := by
  have hd := d.year_range
  have he := e.year_range
  exact padded_injective (by omega) (by omega) h

/-- How many days of its year come before a date. -/
theorem dayOfYear (d : Date) :
    Clock.daysBeforeYear d.year < d.ordinal ∧ d.ordinal ≤ Clock.daysBeforeYear d.year + 366 := by
  have hd := d.ordinal_range
  have hmonth := d.before_add_days
  have hmonths := Clock.daysOfMonths_mono d.year d.month_range.2
  have hyear : Clock.daysOfMonths d.year 12 ≤ 366 := by
    rw [Clock.daysOfMonths_twelve]
    split <;> omega
  have hbefore : Clock.daysBeforeYear d.year ≤ d.before := Nat.le_add_right _ _
  omega

theorem weekOfYear_lt (d : Date) : d.weekOfYear < 100 := by
  have hd := dayOfYear d
  unfold Date.weekOfYear
  omega

/-- In a week and a year, the number of the week is another one on Sunday. -/
theorem weekOfYear_eq_iff {d e : Date} (hweek : d.week = e.week) (hyear : d.year = e.year) :
    d.weekOfYear = e.weekOfYear ↔ (d.weekday = 6 ↔ e.weekday = 6) := by
  have hd := dayOfYear d
  have he := dayOfYear e
  rw [hyear] at hd
  unfold Date.weekOfYear Date.weekday Date.week at *
  rw [hyear]
  omega

theorem weeklyLabel_eq_iff {t u : Wall} (hweek : t.date.week = u.date.week) :
    bucketLabel t .weekly = bucketLabel u .weekly ↔
      t.date.year = u.date.year ∧ (t.date.weekday = 6 ↔ u.date.weekday = 6) := by
  unfold bucketLabel
  constructor
  · intro h
    have hchars := String.ofList_injective h
    obtain ⟨hyears, hrest⟩ := List.append_inj hchars (by simp [yearText])
    have hyear := yearText_injective hyears
    simp only [List.cons.injEq, true_and] at hrest
    have hnumber := padded_injective (weekOfYear_lt t.date) (weekOfYear_lt u.date) hrest
    exact ⟨hyear, (weekOfYear_eq_iff hweek hyear).1 hnumber⟩
  · rintro ⟨hyear, hsunday⟩
    rw [(weekOfYear_eq_iff hweek hyear).2 hsunday, yearText, yearText, hyear]

theorem monthlyLabel_eq {t u : Wall} (h : t.date.SameMonth u.date) :
    bucketLabel t .monthly = bucketLabel u .monthly := by
  rw [bucketLabel, bucketLabel, yearText, yearText, h.1, h.2]

theorem dailyLabel_eq {granularity : AggregationGranularity} {t u : Wall}
    (h : granularity ≠ .weekly) (h' : granularity ≠ .monthly) (hdate : t.date = u.date) :
    bucketLabel t granularity = bucketLabel u granularity := by
  cases granularity with
  | weekly => exact absurd rfl h
  | monthly => exact absurd rfl h'
  | _ => simp only [bucketLabel, hdate]

/-! ## When the buckets partition the time -/

/-- In one week, the comparisons are of one time of day and one year, and all or none of them of
Sunday; in one month, of one time of day. From a week or month to the next one, the time of day does
not get earlier; and none is of the last week or month there is. -/
def Regular (comparisons : List ComparisonResult) : AggregationGranularity → Prop
  | .weekly =>
    (∀ c ∈ comparisons, c.comparedAt.date.week ≠ Date.last.week) ∧
    (∀ c ∈ comparisons, ∀ c' ∈ comparisons,
      c.comparedAt.date.week = c'.comparedAt.date.week →
        c.comparedAt.micros = c'.comparedAt.micros ∧
          c.comparedAt.date.year = c'.comparedAt.date.year ∧
            (c.comparedAt.date.weekday = 6 ↔ c'.comparedAt.date.weekday = 6)) ∧
    ∀ c ∈ comparisons, ∀ c' ∈ comparisons,
      c'.comparedAt.date.week = c.comparedAt.date.week + 1 →
        c.comparedAt.micros ≤ c'.comparedAt.micros
  | .monthly =>
    (∀ c ∈ comparisons, ¬c.comparedAt.date.SameMonth Date.last) ∧
    (∀ c ∈ comparisons, ∀ c' ∈ comparisons,
      c.comparedAt.date.SameMonth c'.comparedAt.date →
        c.comparedAt.micros = c'.comparedAt.micros) ∧
    ∀ c ∈ comparisons, ∀ c' ∈ comparisons,
      c'.comparedAt.date.monthNumber = c.comparedAt.date.monthNumber + 1 →
        c.comparedAt.micros ≤ c'.comparedAt.micros
  | _ => True

theorem Periods.inside_key {granularity : AggregationGranularity} (p : Periods granularity)
    (t : Wall) (key : BucketKey) (h : bucketKey granularity t = some key) :
    key.start.total ≤ t.total ∧ t.total ≤ key.finish.total := by
  obtain ⟨-, hstart, hfinish⟩ := p.key_eq_some t key h
  have hinside := p.inside t
  omega

theorem partition_weekly (comparisons : List ComparisonResult) :
    (∃ buckets, aggregatedStatistics .weekly comparisons = some buckets ∧
      Partition .weekly comparisons buckets) ↔ Regular comparisons .weekly := by
  rw [partition_iff_keys weeks.inside_key, weeks.keysApart_iff]
  unfold Regular
  refine and_congr_right fun _ => and_congr_left fun _ => ?_
  refine forall₂_congr fun c _ => forall₂_congr fun c' _ => forall_congr' fun hweek => ?_
  exact and_congr_right fun _ => weeklyLabel_eq_iff hweek

theorem partition_monthly (comparisons : List ComparisonResult) :
    (∃ buckets, aggregatedStatistics .monthly comparisons = some buckets ∧
      Partition .monthly comparisons buckets) ↔ Regular comparisons .monthly := by
  rw [partition_iff_keys months.inside_key, months.keysApart_iff]
  unfold Regular
  refine and_congr_right fun _ => and_congr_left fun _ => ?_
  refine forall₂_congr fun c _ => forall₂_congr fun c' _ => ?_
  constructor
  · intro h hsame
    exact (h (Date.sameMonth_iff.1 hsame)).1
  · intro h hnumber
    have hsame := Date.sameMonth_iff.2 hnumber
    exact ⟨h hsame, monthlyLabel_eq hsame⟩

theorem partition_daily {granularity : AggregationGranularity} (h : granularity ≠ .weekly)
    (h' : granularity ≠ .monthly) (comparisons : List ComparisonResult) :
    ∃ buckets, aggregatedStatistics granularity comparisons = some buckets ∧
      Partition granularity comparisons buckets := by
  rw [partition_iff_keys (days granularity h h').inside_key,
    (days granularity h h').keysApart_iff]
  refine ⟨fun _ _ => id, ?_, fun _ _ _ _ _ => Nat.le_refl 0⟩
  intro c _ c' _ hnumber
  exact ⟨rfl, dailyLabel_eq h h' (Date.ordinal_injective hnumber)⟩

/-- Exactly when the buckets are what the claim says. -/
theorem buckets_partition_iff (granularity : AggregationGranularity)
    (comparisons : List ComparisonResult) :
    (∃ buckets, aggregatedStatistics granularity comparisons = some buckets ∧
      Partition granularity comparisons buckets) ↔ Regular comparisons granularity := by
  cases granularity with
  | weekly => exact partition_weekly comparisons
  | monthly => exact partition_monthly comparisons
  | _ => exact iff_of_true (partition_daily (by decide) (by decide) comparisons) trivial

/-- A comparison on a day of May 2026, so many hours after midnight. -/
def inMay (day : Nat) (h : 1 ≤ day ∧ day ≤ 28) (hour : Nat) : ComparisonResult where
  comparedAt :=
    { date := ⟨2026, 5, day, by decide, by decide, h.1, Nat.le_trans h.2 (by decide)⟩
      micros := hour % 24 * 3600000000
      micros_lt := by unfold microsPerDay; omega }
  observedDevices := none
  missing := some 1
  unexpected := some 0
  modified := some 0
  totalFindings := some 1

/-- Monday at ten o'clock and Tuesday at eleven are in buckets of their own. -/
theorem partition_fails :
    (¬∃ buckets, aggregatedStatistics .weekly [inMay 4 (by decide) 10, inMay 5 (by decide) 11] =
        some buckets ∧
      Partition .weekly [inMay 4 (by decide) 10, inMay 5 (by decide) 11] buckets) ∧
    ¬∃ buckets, aggregatedStatistics .monthly [inMay 4 (by decide) 10, inMay 5 (by decide) 11] =
        some buckets ∧
      Partition .monthly [inMay 4 (by decide) 10, inMay 5 (by decide) 11] buckets := by
  rw [partition_weekly, partition_monthly]
  constructor
  · intro hregular
    have hsame := hregular.2.1 (inMay 4 (by decide) 10) (by simp) (inMay 5 (by decide) 11) (by simp)
      (by decide)
    exact absurd hsame.1 (by decide)
  · intro hregular
    have hsame := hregular.2.1 (inMay 4 (by decide) 10) (by simp) (inMay 5 (by decide) 11) (by simp)
      ⟨rfl, rfl⟩
    exact absurd hsame (by decide)

end Dashboard
end NetOps
