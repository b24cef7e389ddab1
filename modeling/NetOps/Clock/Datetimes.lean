import NetOps.Clock.Calendar

/-!
# Clock.Datetimes

`datetime` values: a date, a time of day and perhaps a fixed offset from UTC. Those with an offset
are compared by the instant, those without one by what the clock shows; a value of each kind cannot
be compared.
-/

namespace NetOps
namespace Clock

def microsPerDay : Nat := 86400000000

/-- What calendar and clock show. -/
structure Wall where
  date : Date
  micros : Nat
  micros_lt : micros < microsPerDay
  deriving DecidableEq

namespace Wall

/-- The microseconds since the day before the first. -/
def total (w : Wall) : Nat := w.date.ordinal * microsPerDay + w.micros

theorem total_mk (date : Date) (micros : Nat) (h : micros < microsPerDay) :
    (Wall.mk date micros h).total = date.ordinal * microsPerDay + micros := rfl

theorem total_injective {w w' : Wall} (h : w.total = w'.total) : w = w' := by
  have hw := w.micros_lt
  have hw' := w'.micros_lt
  unfold total microsPerDay at *
  have hdate : w.date = w'.date := Date.ordinal_injective (by omega)
  have hmicros : w.micros = w'.micros := by
    rw [hdate] at h
    omega
  cases w
  cases w'
  subst hdate hmicros
  rfl

def midnight (date : Date) : Wall := ⟨date, 0, by decide⟩

/-- `w + timedelta(microseconds=n)`; `none` is an `OverflowError`. -/
def plus (w : Wall) (n : Nat) : Option Wall :=
  (w.date.addDays ((w.micros + n) / microsPerDay)).map fun date =>
    ⟨date, (w.micros + n) % microsPerDay, Nat.mod_lt _ (by decide)⟩

/-- The days that are borrowed when so many microseconds are taken away. -/
def borrowed (w : Wall) (n : Nat) : Nat := (n + (microsPerDay - 1) - w.micros) / microsPerDay

theorem borrowed_spec (w : Wall) (n : Nat) :
    n ≤ w.micros + w.borrowed n * microsPerDay ∧
      w.micros + w.borrowed n * microsPerDay - n < microsPerDay := by
  have hw := w.micros_lt
  unfold borrowed microsPerDay at *
  omega

/-- `w - timedelta(microseconds=n)`; `none` is an `OverflowError`. -/
def minus (w : Wall) (n : Nat) : Option Wall :=
  (w.date.subDays (w.borrowed n)).map fun date =>
    ⟨date, w.micros + w.borrowed n * microsPerDay - n, (w.borrowed_spec n).2⟩

theorem plus_eq_some {w v : Wall} {n : Nat} : w.plus n = some v ↔ v.total = w.total + n := by
  have hw := w.micros_lt
  have hv := v.micros_lt
  unfold plus
  rw [Option.map_eq_some_iff]
  constructor
  · rintro ⟨date, hdate, rfl⟩
    rw [Date.addDays_eq_some] at hdate
    unfold total microsPerDay at *
    dsimp only at *
    omega
  · intro h
    refine ⟨v.date, ?_, ?_⟩
    · rw [Date.addDays_eq_some]
      unfold total microsPerDay at *
      omega
    · apply total_injective
      unfold total microsPerDay at *
      dsimp only
      omega

theorem minus_eq_some {w v : Wall} {n : Nat} : w.minus n = some v ↔ v.total + n = w.total := by
  have hw := w.micros_lt
  have hv := v.micros_lt
  obtain ⟨hle, hlt⟩ := w.borrowed_spec n
  unfold minus
  rw [Option.map_eq_some_iff]
  constructor
  · rintro ⟨date, hdate, rfl⟩
    rw [Date.subDays_eq_some] at hdate
    rw [total_mk]
    unfold total microsPerDay at *
    omega
  · intro h
    have hdays : v.date.ordinal + w.borrowed n = w.date.ordinal := by
      unfold total microsPerDay at *
      omega
    refine ⟨v.date, Date.subDays_eq_some.2 hdays, ?_⟩
    apply total_injective
    have hmicros := congrArg (fun days => days * microsPerDay) hdays
    simp only [Nat.add_mul] at hmicros
    rw [total_mk]
    unfold total at *
    omega

end Wall

inductive CompareError where
  | typeError
  deriving DecidableEq

structure Datetime where
  wall : Wall
  /-- Microseconds east of UTC; `none` is a naive datetime. -/
  offset : Option Int := none
  deriving DecidableEq

namespace Datetime

def aware (t : Datetime) : Bool := t.offset.isSome

def instant (t : Datetime) : Int := t.wall.total - t.offset.getD 0

/-- `t > u`. -/
def gt (t u : Datetime) : Except CompareError Bool :=
  if t.aware = u.aware then .ok (u.instant < t.instant) else .error .typeError

/-- The later of two, the first if they are equal. -/
def latest (t u : Datetime) : Except CompareError Datetime :=
  (u.gt t).map fun later => if later then u else t

theorem gt_self (t : Datetime) : t.gt t = .ok false := by
  simp [gt]

theorem gt_eq_false {t u : Datetime} :
    t.gt u = .ok false ↔ t.aware = u.aware ∧ t.instant ≤ u.instant := by
  unfold gt
  split
  · rename_i hkind
    simp [hkind]
  · rename_i hkind
    simp [hkind]

theorem latest_eq_ok {t u v : Datetime} (h : t.latest u = .ok v) :
    u.aware = t.aware ∧ (v = t ∨ v = u) ∧ t.instant ≤ v.instant ∧ u.instant ≤ v.instant := by
  unfold latest gt at h
  split at h
  · rename_i hkind
    simp only [Except.map, decide_eq_true_eq, Except.ok.injEq] at h
    split at h
    · subst h
      exact ⟨hkind, .inr rfl, by omega, by omega⟩
    · subst h
      exact ⟨hkind, .inl rfl, by omega, by omega⟩
  · cases h

theorem latest_ok {t u : Datetime} (h : u.aware = t.aware) :
    t.latest u = .ok (if t.instant < u.instant then u else t) := by
  simp [latest, gt, h, Except.map]

theorem latest_error {t u : Datetime} (h : u.aware ≠ t.aware) :
    t.latest u = .error .typeError := by
  simp [latest, gt, h, Except.map]

theorem latest_assoc (t u v : Datetime) :
    (t.latest u >>= fun w => w.latest v) = u.latest v >>= fun w => t.latest w := by
  by_cases hu : u.aware = t.aware
  · by_cases hv : v.aware = u.aware
    · have hvt : v.aware = t.aware := hv.trans hu
      rw [latest_ok hu, latest_ok hv]
      simp only [bind, Except.bind]
      by_cases htu : t.instant < u.instant
      · by_cases huv : u.instant < v.instant
        · have htv : t.instant < v.instant := by omega
          simp [htu, huv, htv, latest_ok hv, latest_ok hvt]
        · simp [htu, huv, latest_ok, hu, hv]
      · by_cases huv : u.instant < v.instant
        · simp [htu, huv, latest_ok, hvt]
        · have htv : ¬t.instant < v.instant := by omega
          simp [htu, huv, htv, latest_ok, hu, hvt]
    · have hvt : v.aware ≠ t.aware := fun h => hv (h.trans hu.symm)
      rw [latest_ok hu, latest_error hv]
      simp only [bind, Except.bind]
      split
      · exact latest_error hv
      · exact latest_error hvt
  · rw [latest_error hu]
    by_cases hv : v.aware = u.aware
    · rw [latest_ok hv]
      simp only [bind, Except.bind]
      split
      · exact (latest_error fun h => hu (hv.symm.trans h)).symm
      · exact (latest_error hu).symm
    · rw [latest_error hv]
      rfl

end Datetime
end Clock
end NetOps
