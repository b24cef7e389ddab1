import NetOps.Conc.Frame
import NetOps.Scheduler.Service

/-!
# Scheduler.Ticks

Sequences of dispatches, at times that do not decrease.

* `tick_clean`: a dispatch in which no call raises and all schedules can be compared submits every
  schedule that is due, once, and moves each to its next run.
* `ticks_punctual`: in a run in which no call raises, all schedules can be compared, no one-time
  schedule that was submitted is found due again, and no due interval is negative, every tick does
  what a scheduler should (`TickPunctual`): one-time schedules are submitted at most once,
  submissions of a recurring one are a period apart, a second tick at one time submits nothing, and
  no due schedule is left out.
-/

namespace NetOps
namespace Scheduler

open Conc Conc.Raises History
open Discovery (UUID)

variable {M : Type} {kind : RepositoryKind} {g g₁ g' : World M} {now : Instant}

/-! ## One dispatch -/

/-- A call raised since `g`. -/
def SomeRaised (g g' : World M) : Prop :=
  g.refused.length < g'.refused.length ∨ g.failed < g'.failed

/-- The row after its dispatch, as it is read back. -/
def Schedule.moved (kind : RepositoryKind) (now : Instant) (row : Schedule M) : Schedule M :=
  (row.dispatched now).kept kind

/-- The row after the dispatch of the schedules `done`. -/
def advance (kind : RepositoryKind) (now : Instant) (done : List (Schedule M)) (row : Schedule M) :
    Schedule M :=
  if row.due now ∧ row.id ∈ done.map (·.id) then row.moved kind now else row

/-- The schedules `done` were dispatched since `g`, and nothing else was. -/
structure Dispatched (kind : RepositoryKind) (now : Instant) (g : World M)
    (done : List (Schedule M)) (g' : World M) : Prop where
  submitted : g'.submitted =
    g.submitted ++ (done.filter fun row => row.due now).map fun row => (row.id, now)
  refused : g'.refused = g.refused
  failed : g'.failed = g.failed
  table : ∀ id, g'.table.get id = (g.table.get id).map (advance kind now done)

theorem someRaised_fail (hfailed : g₁.failed = g.failed) : SomeRaised g g₁.fail := by
  right
  rw [World.fail, ← hfailed]
  exact Nat.lt_succ_self _

theorem advance_nil (row : Schedule M) : advance kind now [] row = row := by
  simp [advance]

/-- The row after the dispatch of the row that is there. -/
theorem savedRow_dispatched {table : ScheduleTable M} {row : Schedule M}
    (hrow : table.get row.id = some row) :
    savedRow kind table (row.dispatched now) = row.moved kind now := by
  cases kind with
  | inMemory => rfl
  | sqlAlchemy zone =>
    have hlisted : table.get (row.dispatched now).id = some row := hrow
    unfold savedRow
    dsimp only
    rw [hlisted]
    rfl

@[simp] theorem moved_id (row : Schedule M) : (row.moved kind now).id = row.id := by
  cases kind <;> rfl

/-- A schedule that was not yet reached is as it was listed. -/
theorem Dispatched.get_listed {done : List (Schedule M)} (h : Dispatched kind now g done g')
    {row : Schedule M} (hrow : g.table.get row.id = some row) (hnew : row.id ∉ done.map (·.id)) :
    g'.table.get row.id = some row := by
  rw [h.table, hrow, Option.map_some, advance, if_neg fun hand => hnew hand.2]

/-- A schedule that is not due is passed over. -/
theorem Dispatched.skip {done : List (Schedule M)} {row : Schedule M}
    (h : Dispatched kind now g done g') (hrow : g.table.get row.id = some row)
    (hdue : ¬ row.due now = true) : Dispatched kind now g (done ++ [row]) g' where
  submitted := by
    rw [h.submitted]
    simp [hdue]
  refused := h.refused
  failed := h.failed
  table id := by
    rw [h.table]
    cases hget : g.table.get id with
    | none => rfl
    | some other =>
      have hkey : other.id = id := g.table.keyed _ _ hget
      simp only [Option.map_some, Option.some.injEq, advance, List.map_append, List.map_cons,
        List.map_nil, List.mem_append, List.mem_singleton]
      by_cases hid : other.id = row.id
      · rw [← hkey, hid, hrow, Option.some.injEq] at hget
        subst hget
        simp [hdue]
      · simp [hid]

/-- A schedule that is due is submitted, and moved to its next run. -/
theorem Dispatched.one {done : List (Schedule M)} {row : Schedule M}
    (h : Dispatched kind now g done g₁) (hrow : g.table.get row.id = some row)
    (hdue : row.due now = true)
    (hsubmitted : g'.submitted = g₁.submitted ++ [(row.id, now)])
    (hrefused : g'.refused = g₁.refused) (hfailed : g'.failed = g₁.failed)
    (htable : g'.table = g₁.table.set (row.moved kind now)) :
    Dispatched kind now g (done ++ [row]) g' where
  submitted := by
    rw [hsubmitted, h.submitted]
    simp [hdue]
  refused := hrefused.trans h.refused
  failed := hfailed.trans h.failed
  table id := by
    rw [htable, Tbl.get_set, moved_id]
    by_cases hid : id = row.id
    · subst hid
      rw [if_pos rfl, hrow]
      simp [advance, hdue]
    · rw [if_neg hid, h.table]
      cases hget : g.table.get id with
      | none => rfl
      | some other =>
        have hkey : other.id = id := g.table.keyed _ _ hget
        have hne : other.id ≠ row.id := by rwa [hkey]
        simp [advance, hne]

theorem sat_recordDispatch {done : List (Schedule M)} {row : Schedule M}
    (h : Dispatched kind now g done g₁) (hrow : g.table.get row.id = some row)
    (hnew : row.id ∉ done.map (·.id)) (hdue : row.due now = true) :
    Sat (aloneOn kind) (recordDispatch now row)
      { g₁ with submitted := g₁.submitted ++ [(row.id, now)] }
      (fun _ => Dispatched kind now g (done ++ [row])) (fun _ => SomeRaised g) := by
  refine sat_bind (sat_freshId fun id _ => ?_)
  refine sat_bind (sat_append ?_ (fun _ => someRaised_fail h.failed)
    fun _ => someRaised_fail h.failed)
  have hsaved : savedRow kind g₁.table (row.dispatched now) = row.moved kind now :=
    savedRow_dispatched (h.get_listed hrow hnew)
  refine sat_bind (sat_save (sat_pure ?_) (fun _ => someRaised_fail h.failed)
    fun _ => someRaised_fail h.failed)
  refine h.one hrow hdue rfl rfl rfl ?_
  show g₁.table.set (savedRow kind g₁.table (row.dispatched now)) = _
  rw [hsaved]

theorem sat_dispatchOne {done : List (Schedule M)} {row : Schedule M}
    (h : Dispatched kind now g done g₁) (hrow : g.table.get row.id = some row)
    (hnew : row.id ∉ done.map (·.id)) (hdue : row.due now = true) :
    Sat (aloneOn kind) (dispatchOne true now row) g₁
      (fun _ => Dispatched kind now g (done ++ [row])) (fun _ => SomeRaised g) := by
  refine sat_bind (sat_submit (sat_recordDispatch h hrow hnew hdue) fun _ => .inl ?_)
  simp [h.refused]

/-- The listed schedules have different ids. -/
theorem Lists.nodup {schedules : List (Schedule M)} (h : Lists kind g.table schedules) :
    (schedules.map (·.id)).Nodup := by
  have hrows : (g.table.rows.map (·.id)).Nodup := Tbl.nodup_map_key
  cases kind with
  | inMemory => rwa [show schedules = g.table.rows from h]
  | sqlAlchemy zone => exact ((List.Perm.map _ h).nodup_iff).2 hrows

/-- A stored schedule cannot be compared with the time. -/
def SomeIncomparable (now : Instant) (table : ScheduleTable M) : Prop :=
  ∃ id row, table.get id = some row ∧ ¬ row.Comparable now

/-- A dispatch submits every schedule that is due, and moves each to its next run, or raises. -/
theorem sat_dispatchAt :
    Sat (aloneOn kind) (dispatchAt true now) g
      (fun _ g' => ∃ schedules, Lists kind g.table schedules ∧ Dispatched kind now g schedules g')
      (fun _ g' => SomeRaised g g' ∨ SomeIncomparable now g.table) := by
  refine sat_bind (sat_list (fun schedules hlists => ?_) fun _ => .inl (someRaised_fail rfl))
  have hstart : Dispatched kind now g [] g := by
    refine ⟨by simp, rfl, rfl, fun id => ?_⟩
    cases g.table.get id <;> simp [advance_nil]
  refine (sat_foldlM_list (I := fun done _ => Dispatched kind now g done)
    (fun done row rest results g₁ hl h => ?_) hstart).mono
      (fun _ _ h => ⟨schedules, hlists, h⟩) fun _ _ h => h
  have hrow : g.table.get row.id = some row := hlists.mem.1 (by simp [hl])
  have hnew : row.id ∉ done.map (·.id) := by
    have hnodup := hlists.nodup
    rw [hl, List.map_append, List.map_cons] at hnodup
    exact fun hmem => (List.nodup_append.1 hnodup).2.2 _ hmem _ List.mem_cons_self rfl
  split
  · rename_i e hraised
    exact sat_throw (.inr ⟨row.id, row, hrow, not_comparable_of_isDue hraised⟩)
  · rename_i hdue
    exact sat_bind ((sat_dispatchOne h hrow hnew (due_of_isDue hdue)).mono
      (fun _ _ hq => sat_pure hq) fun _ _ he => .inl he)
  · rename_i hdue
    exact sat_pure (h.skip hrow (by rw [due_of_isDue hdue]; exact Bool.false_ne_true))

/-! ## A run of dispatches -/

/-- The world, and when the last dispatch was. -/
abbrev TickState (M : Type) := World M × Option Instant

/-- A dispatch, not before the last one. -/
def TickStep (kind : RepositoryKind) (s : TickState M) (now : Instant) (s' : TickState M) : Prop :=
  (∀ last, s.2 = some last → last ≤ now) ∧ s'.2 = some now ∧
    ∃ r, (ExceptT.run (dispatchDueJobs true (some now))).Runs (World.Answers kind) s.1 r s'.1

/-- When a schedule was submitted. -/
def timesOf (id : UUID) (log : List (UUID × Instant)) : List Instant :=
  (log.filter fun entry => entry.1 = id).map Prod.snd

/-- How long a recurring schedule waits for its next run. -/
def Schedule.period (row : Schedule M) : Int :=
  match row.scheduleType with
  | .oneTime => 0
  | .daily => days 1
  | .weekly => days 7
  | .monthly => days 30
  | .interval => seconds (intervalOf row.intervalSeconds)

/-- What a scheduler should do at a time. -/
structure TickPunctual (s : TickState M) (now : Instant) (s' : TickState M) : Prop where
  oneTime : ∀ id row, s'.1.table.get id = some row → row.scheduleType = .oneTime →
    (timesOf id s'.1.submitted).length ≤ 1
  recurring : ∀ id row, s'.1.table.get id = some row → row.scheduleType ≠ .oneTime →
    (timesOf id s'.1.submitted).Pairwise fun t t' : Instant => t + row.period ≤ t'
  repeated : s.2 = some now → s'.1.submitted = s.1.submitted
  complete : ∀ id row, s.1.table.get id = some row → row.due now = true →
    (id, now) ∈ s'.1.submitted.drop s.1.submitted.length ∨
      (id, now) ∈ s'.1.refused.drop s.1.refused.length

/-- No call raises, every stored schedule can be compared with the time, no one-time schedule that
was submitted is due, and no interval of a schedule that is due is negative. -/
structure TickCondition (s : TickState M) (now : Instant) (s' : TickState M) : Prop where
  refused : s'.1.refused = s.1.refused
  failed : s'.1.failed = s.1.failed
  comparable : ∀ id row, s.1.table.get id = some row → row.Comparable now
  fresh : ∀ id row, s.1.table.get id = some row → row.due now = true →
    row.scheduleType = .oneTime → timesOf id s.1.submitted = []
  positive : ∀ id row, s.1.table.get id = some row → row.due now = true →
    row.scheduleType = .interval → 0 < intervalOf row.intervalSeconds

/-- What holds between dispatches: the submissions so far are as they should be, no recurring
schedule that was submitted runs again within its period, and what is still due at the time of the
last dispatch are one-time schedules that were submitted. A repository that gives every datetime a
time zone may give one to the next run. -/
structure TickInv (s : TickState M) : Prop where
  clock : ∀ entry ∈ s.1.submitted, ∃ last, s.2 = some last ∧ entry.2 ≤ last
  oneTime : ∀ id row, s.1.table.get id = some row → row.scheduleType = .oneTime →
    (timesOf id s.1.submitted).length ≤ 1
  recurring : ∀ id row, s.1.table.get id = some row → row.scheduleType ≠ .oneTime →
    (timesOf id s.1.submitted).Pairwise fun t t' : Instant => t + row.period ≤ t'
  next : ∀ id row, s.1.table.get id = some row → row.scheduleType ≠ .oneTime →
    ∀ t ∈ timesOf id s.1.submitted, ∃ next, row.nextRunAt = some next ∧
      (next.aware = t.aware → t + row.period ≤ next)
  settled : ∀ last, s.2 = some last → ∀ id row, s.1.table.get id = some row →
    row.due last = true → row.scheduleType = .oneTime ∧ timesOf id s.1.submitted ≠ []

theorem Schedule.due_next {row : Schedule M} (h : row.due now = true) :
    ∃ next, row.nextRunAt = some next ∧ next ≤ now := by
  unfold Schedule.due at h
  split at h
  · cases h
  · rename_i next hnext
    exact ⟨next, hnext, by simpa using (Bool.and_eq_true_iff.1 h).2⟩

theorem nextRunAt_moved {row : Schedule M} (h : row.scheduleType ≠ .oneTime) :
    (row.moved kind now).nextRunAt = some (kind.stored (now + row.period)) := by
  have hkept : (row.moved kind now).nextRunAt =
      (row.dispatched now).nextRunAt.map kind.stored := by
    cases kind with
    | inMemory =>
      cases hnext : (row.dispatched now).nextRunAt <;>
        · unfold Schedule.moved Schedule.kept
          rw [hnext]
          rfl
    | sqlAlchemy zone => rfl
  rw [hkept]
  unfold Schedule.dispatched computeNextRunFromExisting Schedule.period
  cases htype : row.scheduleType with
  | oneTime => exact absurd htype h
  | interval => rfl
  | daily => rfl
  | weekly => rfl
  | monthly => rfl

theorem period_pos {row : Schedule M} (h : row.scheduleType ≠ .oneTime)
    (hinterval : row.scheduleType = .interval → 0 < intervalOf row.intervalSeconds) :
    0 < row.period := by
  unfold Schedule.period
  cases htype : row.scheduleType with
  | oneTime => exact absurd htype h
  | interval =>
    have hpos := hinterval htype
    dsimp only [seconds]
    omega
  | daily => simp [days, seconds]
  | weekly => simp [days, seconds]
  | monthly => simp [days, seconds]

theorem timesOf_append (id : UUID) (log log' : List (UUID × Instant)) :
    timesOf id (log ++ log') = timesOf id log ++ timesOf id log' := by
  simp [timesOf]

/-- Of schedules with different ids, one is found under its id. -/
theorem timesOf_due {schedules : List (Schedule M)} {row : Schedule M}
    (hnodup : (schedules.map (·.id)).Nodup) (hmem : row ∈ schedules) :
    timesOf row.id ((schedules.filter fun row => row.due now).map fun row => (row.id, now)) =
      if row.due now = true then [now] else [] := by
  induction schedules with
  | nil => cases hmem
  | cons other rest ih =>
    rw [List.map_cons, List.nodup_cons] at hnodup
    rcases List.mem_cons.1 hmem with rfl | hrest
    · have hnone : timesOf row.id
          ((rest.filter fun row => row.due now).map fun row => (row.id, now)) = [] := by
        simp only [timesOf, List.map_eq_nil_iff, List.filter_eq_nil_iff, List.mem_map,
          List.mem_filter]
        rintro _ ⟨other, ⟨hother, _⟩, rfl⟩
        simp only [decide_eq_true_eq]
        exact fun heq => hnodup.1 (heq ▸ List.mem_map_of_mem hother)
      by_cases hdue : row.due now = true
      · rw [List.filter_cons_of_pos hdue, List.map_cons, ← List.singleton_append, timesOf_append,
          hnone, if_pos hdue]
        simp [timesOf]
      · rw [List.filter_cons_of_neg hdue, hnone, if_neg hdue]
    · have hne : other.id ≠ row.id := fun heq => hnodup.1 (heq ▸ List.mem_map_of_mem hrest)
      rw [← ih hnodup.2 hrest]
      by_cases hdue : other.due now = true
      · rw [List.filter_cons_of_pos hdue, List.map_cons, ← List.singleton_append, timesOf_append]
        simp [timesOf, hne]
      · rw [List.filter_cons_of_neg hdue]

/-- A dispatch in which no call raises: every stored schedule that is due is submitted at its time,
once, and moved to its next run; the others are left. -/
structure Cleanly (kind : RepositoryKind) (now : Instant) (g g' : World M) : Prop where
  times : ∀ id row, g.table.get id = some row → timesOf id g'.submitted =
    timesOf id g.submitted ++ if row.due now = true then [now] else []
  table : ∀ id, g'.table.get id =
    (g.table.get id).map fun row => if row.due now = true then row.moved kind now else row
  log : ∀ entry ∈ g'.submitted, entry ∈ g.submitted ∨ entry.2 = now
  submitted : ∀ id row, g.table.get id = some row → row.due now = true →
    (id, now) ∈ g'.submitted.drop g.submitted.length
  quiet : (∀ id row, g.table.get id = some row → row.due now = false) →
    g'.submitted = g.submitted

theorem Dispatched.cleanly {schedules : List (Schedule M)} (h : Dispatched kind now g schedules g')
    (hlists : Lists kind g.table schedules) : Cleanly kind now g g' := by
  have hmem : ∀ id row, g.table.get id = some row → row.id = id ∧ row ∈ schedules := by
    intro id row hrow
    have hkey : row.id = id := g.table.keyed _ _ hrow
    exact ⟨hkey, hlists.mem.2 (by rw [hkey]; exact hrow)⟩
  refine ⟨fun id row hrow => ?_, fun id => ?_, fun entry hentry => ?_, fun id row hrow hdue => ?_,
    fun hquiet => ?_⟩
  · obtain ⟨rfl, hin⟩ := hmem id row hrow
    rw [h.submitted, timesOf_append, timesOf_due hlists.nodup hin]
  · rw [h.table]
    cases hrow : g.table.get id with
    | none => rfl
    | some row =>
      have hin : row.id ∈ schedules.map (·.id) := List.mem_map_of_mem (hmem id row hrow).2
      simp [advance, hin]
  · rw [h.submitted, List.mem_append, List.mem_map] at hentry
    rcases hentry with hold | ⟨row, _, rfl⟩
    · exact .inl hold
    · exact .inr rfl
  · obtain ⟨rfl, hin⟩ := hmem id row hrow
    rw [h.submitted, List.drop_left]
    exact List.mem_map.2 ⟨row, List.mem_filter.2 ⟨hin, by simpa using hdue⟩, rfl⟩
  · have hnone : (schedules.filter fun row => row.due now) = [] := by
      refine List.filter_eq_nil_iff.2 fun row hin => ?_
      rw [hquiet row.id row (hlists.mem.1 hin)]
      exact Bool.false_ne_true
    rw [h.submitted, hnone]
    exact List.append_nil _

variable {s s' : TickState M}

theorem tick_clean (hstep : TickStep kind s now s') (hcond : TickCondition s now s') :
    Cleanly kind now s.1 s'.1 := by
  obtain ⟨_, _, r, hrun⟩ := hstep
  have hpost := Prog.Sat.runs sat_dispatchAt hrun
  cases r with
  | ok results =>
    obtain ⟨schedules, hlists, h⟩ := hpost
    exact h.cleanly hlists
  | error e =>
    rcases hpost with (hraised | hraised) | ⟨id, row, hrow, hincomparable⟩
    · rw [hcond.refused] at hraised
      exact absurd hraised (Nat.lt_irrefl _)
    · rw [hcond.failed] at hraised
      exact absurd hraised (Nat.lt_irrefl _)
    · exact absurd (hcond.comparable id row hrow) hincomparable

/-- The row after a clean dispatch. -/
theorem Cleanly.row (h : Cleanly kind now g g') {id : UUID} {row' : Schedule M}
    (hrow' : g'.table.get id = some row') : ∃ row, g.table.get id = some row ∧
      row' = if row.due now = true then row.moved kind now else row := by
  rw [h.table] at hrow'
  obtain ⟨row, hrow, heq⟩ := Option.map_eq_some_iff.1 hrow'
  exact ⟨row, hrow, heq.symm⟩

theorem scheduleType_advanced (row : Schedule M) :
    (if row.due now = true then row.moved kind now else row).scheduleType = row.scheduleType := by
  cases kind <;> split <;> rfl

theorem period_advanced (row : Schedule M) :
    (if row.due now = true then row.moved kind now else row).period = row.period := by
  cases kind <;> split <;> rfl

/-- What was submitted was submitted before now. -/
theorem TickInv.until_now (hinv : TickInv s) (hstep : TickStep kind s now s') {id : UUID} :
    ∀ t ∈ timesOf id s.1.submitted, t ≤ now := by
  intro t ht
  obtain ⟨entry, hentry, rfl⟩ := List.mem_map.1 ht
  obtain ⟨last, hlast, hle⟩ := hinv.clock entry (List.mem_filter.1 hentry).1
  exact Instant.le_trans hle (hstep.1 last hlast)

/-- Submissions of a schedule that is due now are a period away from those before. -/
theorem TickInv.before (hinv : TickInv s) (hstep : TickStep kind s now s') {id : UUID}
    {row : Schedule M} (hrow : s.1.table.get id = some row) (htype : row.scheduleType ≠ .oneTime)
    (hdue : row.due now = true) : ∀ t ∈ timesOf id s.1.submitted, t + row.period ≤ now := by
  intro t ht
  obtain ⟨next, hnext, hle⟩ := hinv.next id row hrow htype t ht
  obtain ⟨next', hnext', hnow⟩ := Schedule.due_next hdue
  rw [hnext, Option.some.injEq] at hnext'
  subst hnext'
  exact Instant.le_trans (hle (hnow.1.trans (hinv.until_now hstep t ht).1.symm)) hnow

theorem TickInv.recurring_step (hinv : TickInv s) (hstep : TickStep kind s now s')
    (hclean : Cleanly kind now s.1 s'.1) {id : UUID} {row : Schedule M}
    (hrow : s.1.table.get id = some row) (htype : row.scheduleType ≠ .oneTime) :
    (timesOf id s'.1.submitted).Pairwise fun t t' : Instant => t + row.period ≤ t' := by
  rw [hclean.times id row hrow, List.pairwise_append]
  refine ⟨hinv.recurring id row hrow htype, ?_, ?_⟩
  · split
    · exact List.pairwise_singleton _ _
    · exact .nil
  · intro t ht t' ht'
    split at ht'
    · rename_i hdue
      rw [List.mem_singleton.1 ht']
      exact hinv.before hstep hrow htype hdue t ht
    · cases ht'

theorem TickInv.oneTime_step (hinv : TickInv s) (hclean : Cleanly kind now s.1 s'.1)
    (hcond : TickCondition s now s') {id : UUID} {row : Schedule M}
    (hrow : s.1.table.get id = some row) (htype : row.scheduleType = .oneTime) :
    (timesOf id s'.1.submitted).length ≤ 1 := by
  rw [hclean.times id row hrow]
  split
  · rename_i hdue
    simp [hcond.fresh id row hrow hdue htype]
  · simpa using hinv.oneTime id row hrow htype

/-- After a dispatch, a recurring schedule does not run again within its period. -/
theorem TickInv.next_step (hinv : TickInv s) (hstep : TickStep kind s now s')
    (hcond : TickCondition s now s') (hclean : Cleanly kind now s.1 s'.1) {id : UUID}
    {row : Schedule M} (hrow : s.1.table.get id = some row) (htype : row.scheduleType ≠ .oneTime)
    (hdue : row.due now = true) {t : Instant} (ht : t ∈ timesOf id s'.1.submitted)
    (haware : (kind.stored (now + row.period)).aware = t.aware) :
    t + row.period ≤ kind.stored (now + row.period) := by
  have hpos := Int.le_of_lt (period_pos htype (hcond.positive id row hrow hdue))
  rw [hclean.times id row hrow, if_pos hdue, List.mem_append, List.mem_singleton] at ht
  rcases ht with hold | rfl
  · have hbefore := hinv.before hstep hrow htype hdue t hold
    rw [stored_of_same (haware.trans hbefore.1)]
    exact Instant.le_trans hbefore (Instant.le_add hpos)
  · rw [stored_of_same haware]
    exact ⟨rfl, Int.le_refl _⟩

theorem tick_inv (hinv : TickInv s) (hstep : TickStep kind s now s')
    (hcond : TickCondition s now s') : TickInv s' := by
  have hclean := tick_clean hstep hcond
  refine ⟨fun entry hentry => ⟨now, hstep.2.1, ?_⟩, fun id row' hrow' htype => ?_,
    fun id row' hrow' htype => ?_, fun id row' hrow' htype t ht => ?_,
    fun last hlast id row' hrow' hdue' => ?_⟩
  · rcases hclean.log entry hentry with hold | hnow
    · obtain ⟨last, hlast, hle⟩ := hinv.clock entry hold
      exact Instant.le_trans hle (hstep.1 last hlast)
    · rw [hnow]
      exact ⟨rfl, Int.le_refl _⟩
  · obtain ⟨row, hrow, rfl⟩ := hclean.row hrow'
    rw [scheduleType_advanced] at htype
    exact hinv.oneTime_step hclean hcond hrow htype
  · obtain ⟨row, hrow, rfl⟩ := hclean.row hrow'
    rw [scheduleType_advanced] at htype
    rw [period_advanced]
    exact hinv.recurring_step hstep hclean hrow htype
  · obtain ⟨row, hrow, rfl⟩ := hclean.row hrow'
    rw [scheduleType_advanced] at htype
    rw [period_advanced]
    by_cases hdue : row.due now = true
    · rw [if_pos hdue]
      exact ⟨_, nextRunAt_moved htype, hinv.next_step hstep hcond hclean hrow htype hdue ht⟩
    · rw [hclean.times id row hrow, if_neg hdue, List.append_nil] at ht
      rw [if_neg hdue]
      exact hinv.next id row hrow htype t ht
  · rw [hstep.2.1, Option.some.injEq] at hlast
    subst hlast
    obtain ⟨row, hrow, rfl⟩ := hclean.row hrow'
    rw [scheduleType_advanced, hclean.times id row hrow]
    by_cases hdue : row.due now = true
    · rw [if_pos hdue] at hdue' ⊢
      refine ⟨?_, by simp⟩
      by_contra htype
      obtain ⟨next, hnext, hle⟩ := Schedule.due_next hdue'
      rw [nextRunAt_moved htype, Option.some.injEq] at hnext
      subst hnext
      have hpos := period_pos htype (hcond.positive id row hrow hdue)
      rw [stored_of_same hle.1] at hle
      exact absurd hle.2 (Int.not_le.2 (Int.lt_add_of_pos_right now.time hpos))
    · rw [if_neg hdue] at hdue'
      exact absurd hdue' hdue

theorem tick_punctual (hinv : TickInv s) (hstep : TickStep kind s now s')
    (hcond : TickCondition s now s') : TickPunctual s now s' := by
  have hclean := tick_clean hstep hcond
  have hinv' := tick_inv hinv hstep hcond
  refine ⟨hinv'.oneTime, hinv'.recurring, fun hagain => hclean.quiet fun id row hrow => ?_,
    fun id row hrow hdue => .inl (hclean.submitted id row hrow hdue)⟩
  -- whatever is still due at the time of the last dispatch was submitted by it
  cases hdue : row.due now with
  | false => rfl
  | true =>
    obtain ⟨htype, hsubmitted⟩ := hinv.settled now hagain id row hrow hdue
    exact absurd (hcond.fresh id row hrow hdue htype) hsubmitted

def dailySync : Schedule Unit where
  id := 7
  name := "sync"
  kind := .discovery
  scheduleType := .daily
  enabled := true
  intervalSeconds := none
  startAt := some 0
  nextRunAt := some 5
  lastRunAt := none
  createdAt := 0
  updatedAt := 0
  state := .active
  metadata := ()

/-- Due once, at 5. -/
def onceSync : Schedule Unit := { dailySync with scheduleType := .oneTime }

def only (row : Schedule Unit) : World Unit := { table := Tbl.empty.set row }

def logged (row : Schedule Unit) (now : Instant) : ScheduleExecution where
  id := 9
  scheduleId := row.id
  executedAt := now
  status := "dispatched"
  detail := some row.kind.value

/-- The world after a dispatch of the schedule. -/
def afterDispatch (g : World Unit) (row : Schedule Unit) (now : Instant) : World Unit :=
  { g with
    table := g.table.set (row.dispatched now)
    submitted := g.submitted ++ [(row.id, now)]
    executions := g.executions ++ [logged row now] }

/-- A dispatch of the only schedule, which is due. -/
theorem runs_dispatch {g : World Unit} {row : Schedule Unit} {now : Instant}
    (honly : g.table.rows = [row]) (hdue : row.due now = true) (hnew : g.table.get 9 = none) :
    ∃ r, (ExceptT.run (dispatchDueJobs true (some now))).Runs (World.Answers .inMemory) g r
      (afterDispatch g row now) := by
  refine ⟨.ok [⟨row.id, true, "dispatched", some row.kind.value⟩], .ok [row], g,
    ⟨honly.symm, rfl⟩, ?_⟩
  show (ExceptT.run (dispatchAll true now [row])).Runs _ _ _ _
  have hcomparable : row.isDue now = .ok true := isDue_of_due hdue
  rw [dispatchAll, List.foldlM_cons, hcomparable]
  exact ⟨.ok (), _, rfl, 9, _, ⟨hnew, rfl⟩, .ok (), _, rfl, .ok (row.dispatched now), _,
    ⟨rfl, rfl⟩, rfl, rfl⟩

theorem tick_daily : TickStep .inMemory (only dailySync, none) 5
    (afterDispatch (only dailySync) dailySync 5, some 5) := by
  refine ⟨fun _ h => ?_, rfl, runs_dispatch rfl rfl rfl⟩
  cases h

theorem tick_once : TickStep .inMemory (only onceSync, none) 5
    (afterDispatch (only onceSync) onceSync 5, some 5) := by
  refine ⟨fun _ h => ?_, rfl, runs_dispatch rfl rfl rfl⟩
  cases h

theorem tick_once_again : TickStep .inMemory (afterDispatch (only onceSync) onceSync 5, some 5) 6
    (afterDispatch (afterDispatch (only onceSync) onceSync 5) (onceSync.dispatched 5) 6,
      some 6) := by
  refine ⟨fun last h => ?_, rfl, runs_dispatch rfl rfl rfl⟩
  obtain rfl : (5 : Instant) = last := Option.some.inj h
  decide

end Scheduler
end NetOps
