import NetOps.Conc.Store
import NetOps.Discovery.Records

/-!
# Scheduler.Schedules

Schedules (`scheduler/models.py`), the requests that create and change them
(`schemas/scheduler.py`) and the two repositories that keep them (`scheduler/repository.py`): a
dictionary, and a table of PostgreSQL whose rows keep the time they were created at.

A request may give a datetime without a time zone, and comparing it with one that has one raises.
-/

namespace NetOps
namespace Scheduler

open Conc
open Discovery (UUID)

/-! ## Records -/

/-- A datetime in microseconds: of UTC, or of the local time if it has no time zone. -/
structure Instant where
  time : Int
  aware : Bool := true
  deriving DecidableEq

namespace Instant

instance (n : Nat) : OfNat Instant n := ⟨{ time := n }⟩

instance : HAdd Instant Int Instant := ⟨fun t d => { t with time := t.time + d }⟩

/-- A datetime is not after another that it can be compared with. -/
instance : LE Instant := ⟨fun t t' => t.aware = t'.aware ∧ t.time ≤ t'.time⟩

instance (t t' : Instant) : Decidable (t ≤ t') := inferInstanceAs (Decidable (_ ∧ _))

@[simp] theorem aware_add (t : Instant) (d : Int) : (t + d).aware = t.aware := rfl

@[simp] theorem time_add (t : Instant) (d : Int) : (t + d).time = t.time + d := rfl

theorem le_trans {t t' t'' : Instant} (h : t ≤ t') (h' : t' ≤ t'') : t ≤ t'' :=
  ⟨h.1.trans h'.1, Int.le_trans h.2 h'.2⟩

theorem le_add {t : Instant} {d : Int} (h : 0 ≤ d) : t ≤ t + d :=
  ⟨rfl, Int.le_add_of_nonneg_right h⟩

end Instant

/-- `timedelta(seconds=n)`. -/
def seconds (n : Int) : Int := n * 1000000

/-- `timedelta(days=n)`. -/
def days (n : Int) : Int := seconds (n * 86400)

inductive ScheduleState where
  | active
  | paused
  | disabled
  deriving DecidableEq

inductive ScheduleKind where
  | discovery
  | reporting
  deriving DecidableEq

def ScheduleKind.value : ScheduleKind → String
  | .discovery => "discovery"
  | .reporting => "reporting"

/-- `ScheduleKind(value)`. -/
def ScheduleKind.ofValue : String → Option ScheduleKind
  | "discovery" => some .discovery
  | "reporting" => some .reporting
  | _ => none

inductive ScheduleType where
  | interval
  | oneTime
  | daily
  | weekly
  | monthly
  deriving DecidableEq

/-- `ScheduleType(value)`. -/
def ScheduleType.ofValue : String → Option ScheduleType
  | "interval" => some .interval
  | "one_time" => some .oneTime
  | "daily" => some .daily
  | "weekly" => some .weekly
  | "monthly" => some .monthly
  | _ => none

structure Schedule (M : Type) where
  id : UUID
  name : String
  kind : ScheduleKind
  scheduleType : ScheduleType
  enabled : Bool
  intervalSeconds : Option Int
  startAt : Option Instant
  nextRunAt : Option Instant
  lastRunAt : Option Instant
  createdAt : Instant
  updatedAt : Instant
  state : ScheduleState
  metadata : M

structure ScheduleExecution where
  id : UUID
  scheduleId : UUID
  executedAt : Instant
  status : String
  detail : Option String

structure ExecutionResult where
  scheduleId : UUID
  executed : Bool
  status : String
  detail : Option String

/-- The parts of a `JobRequest` that differ between schedules. -/
structure JobRequest (M : Type) where
  metadata : M
  priority : Int := 0

structure ScheduleCreateRequest (M : Type) where
  name : String
  kind : String := "discovery"
  scheduleType : String := "interval"
  enabled : Bool := true
  intervalSeconds : Option Int := none
  startAt : Option Instant := none
  metadata : M

structure ScheduleUpdateRequest where
  name : Option String := none
  enabled : Option Bool := none

/-! ## Next runs -/

variable {M : Type}

/-- `interval_seconds or 60`. -/
def intervalOf : Option Int → Int
  | some n => if n = 0 then 60 else n
  | none => 60

/-- `_compute_next_run`. -/
def computeNextRun (payload : ScheduleCreateRequest M) (startAt : Instant) : Instant :=
  if payload.scheduleType = "one_time" then payload.startAt.getD startAt
  else if payload.scheduleType = "daily" then payload.startAt.getD startAt + days 1
  else if payload.scheduleType = "weekly" then payload.startAt.getD startAt + days 7
  else if payload.scheduleType = "monthly" then payload.startAt.getD startAt + days 30
  else startAt + seconds (intervalOf payload.intervalSeconds)

/-- `_compute_next_run_from_existing`. -/
def computeNextRunFromExisting (schedule : Schedule M) (current : Instant) : Instant :=
  match schedule.scheduleType with
  | .oneTime => schedule.nextRunAt.getD current
  | .daily => current + days 1
  | .weekly => current + days 7
  | .monthly => current + days 30
  | .interval => current + seconds (intervalOf schedule.intervalSeconds)

/-! ## Repositories -/

abbrev ScheduleTable (M : Type) := Tbl (Schedule M) (·.id)

/-- The implementations of `SchedulerRepository`; `zone` is how the database reads a datetime
without a time zone. -/
inductive RepositoryKind where
  | inMemory
  | sqlAlchemy (zone : Int → Int)

/-- What is read of a datetime that was stored: a column gives it back with a time zone. -/
def RepositoryKind.stored : RepositoryKind → Instant → Instant
  | .inMemory, t => t
  | .sqlAlchemy zone, t => if t.aware then t else { time := zone t.time }

/-- The schedule as it is read back, but for the time it was created at. -/
def Schedule.kept (kind : RepositoryKind) (schedule : Schedule M) : Schedule M :=
  match kind with
  | .inMemory => schedule
  | .sqlAlchemy zone => { schedule with
    startAt := schedule.startAt.map (RepositoryKind.sqlAlchemy zone).stored
    nextRunAt := schedule.nextRunAt.map (RepositoryKind.sqlAlchemy zone).stored
    lastRunAt := schedule.lastRunAt.map (RepositoryKind.sqlAlchemy zone).stored
    updatedAt := (RepositoryKind.sqlAlchemy zone).stored schedule.updatedAt }

/-- The row after `save_schedule`: the SQL repository does not write `created_at` to a row that is
there. -/
def savedRow (kind : RepositoryKind) (table : ScheduleTable M) (schedule : Schedule M) :
    Schedule M :=
  match kind with
  | .inMemory => schedule
  | .sqlAlchemy zone => { schedule.kept (.sqlAlchemy zone) with
    createdAt := match table.get schedule.id with
      | some row => row.createdAt
      | none => (RepositoryKind.sqlAlchemy zone).stored schedule.createdAt }

/-- What `list_schedules` can return: the rows, in the order they came, or from SQL in any. -/
def Lists (kind : RepositoryKind) (table : ScheduleTable M) (schedules : List (Schedule M)) :
    Prop :=
  match kind with
  | .inMemory => schedules = table.rows
  | .sqlAlchemy _ => schedules.Perm table.rows

def ScheduleTable.erase (table : ScheduleTable M) (id : UUID) : ScheduleTable M :=
  table.filter fun schedule => schedule.id ≠ id

variable {kind : RepositoryKind} {table : ScheduleTable M} {schedule : Schedule M}

@[simp] theorem savedRow_id : (savedRow kind table schedule).id = schedule.id := by
  cases kind <;> rfl

@[simp] theorem savedRow_name : (savedRow kind table schedule).name = schedule.name := by
  cases kind <;> rfl

@[simp] theorem savedRow_enabled : (savedRow kind table schedule).enabled = schedule.enabled := by
  cases kind <;> rfl

@[simp] theorem savedRow_state : (savedRow kind table schedule).state = schedule.state := by
  cases kind <;> rfl

@[simp] theorem savedRow_scheduleType :
    (savedRow kind table schedule).scheduleType = schedule.scheduleType := by
  cases kind <;> rfl

@[simp] theorem savedRow_intervalSeconds :
    (savedRow kind table schedule).intervalSeconds = schedule.intervalSeconds := by
  cases kind <;> rfl

theorem stored_of_aware {t : Instant} (h : t.aware = true) : kind.stored t = t := by
  cases kind with
  | inMemory => rfl
  | sqlAlchemy zone => exact if_pos h

/-- A datetime that is read back as it can be compared with is read back as it was. -/
theorem stored_of_same {t : Instant} (h : (kind.stored t).aware = t.aware) : kind.stored t = t := by
  cases haware : t.aware with
  | true => exact stored_of_aware haware
  | false =>
    cases kind with
    | inMemory => rfl
    | sqlAlchemy zone =>
      rw [RepositoryKind.stored, haware, if_neg Bool.false_ne_true] at h
      cases h

theorem Lists.mem {schedules : List (Schedule M)} (h : Lists kind table schedules) :
    schedule ∈ schedules ↔ table.get schedule.id = some schedule := by
  rw [← Tbl.mem_rows]
  cases kind with
  | inMemory => rw [show schedules = table.rows from h]
  | sqlAlchemy zone => exact List.Perm.mem_iff h

theorem ScheduleTable.get_erase (id k : UUID) :
    (table.erase id).get k = if k = id then none else table.get k := by
  rw [ScheduleTable.erase, Tbl.get_filter]
  cases hget : table.get k with
  | none => simp
  | some row =>
    have hkey : row.id = k := table.keyed k row hget
    by_cases hk : k = id
    · simp [hkey, hk]
    · simp [hkey, hk]

end Scheduler
end NetOps
