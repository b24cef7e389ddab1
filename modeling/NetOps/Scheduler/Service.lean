import NetOps.Conc.Tasks
import NetOps.Scheduler.Schedules

/-!
# Scheduler.Service

`SchedulerService` (`scheduler/service.py`), as programs over the calls it awaits: those of its
repository, of the job manager and of the clock. Any call of the repository or of the job manager
may raise, with or without its effect on the table.

The world remembers, beside the table, which schedules were submitted when, which submissions
raised, and how many other calls did.
-/

namespace NetOps
namespace Scheduler

open Conc
open Discovery (UUID)

variable {M : Type}

/-! ## Calls -/

inductive Raised where
  | keyError (id : UUID)
  | valueError (text : String)
  | typeError (text : String)
  | call (message : String)

/-- What the service awaits. A submission is made for a schedule at the time of a dispatch, of which
the job manager is told the request only. -/
inductive Stmt (M : Type) where
  | save (schedule : Schedule M)
  | get (id : UUID)
  | list
  | delete (id : UUID)
  | submit (of : UUID) (at_ : Instant) (request : JobRequest M)
  | append (execution : ScheduleExecution)
  | now
  | uuid

abbrev Stmt.Resp : Stmt M → Type
  | .save _ => Except Raised (Schedule M)
  | .get _ => Except Raised (Option (Schedule M))
  | .list => Except Raised (List (Schedule M))
  | .delete _ => Except Raised Bool
  | .submit _ _ _ => Except Raised Unit
  | .append _ => Except Raised Unit
  | .now => Instant
  | .uuid => UUID

abbrev lang (M : Type) : Lang := ⟨Stmt M, Stmt.Resp⟩

abbrev Service (M α : Type) := Raises (lang M) Raised α

def save (schedule : Schedule M) : Service M (Schedule M) :=
  ExceptT.mk (Prog.issue (L := lang M) (.save schedule))

def get (id : UUID) : Service M (Option (Schedule M)) :=
  ExceptT.mk (Prog.issue (L := lang M) (.get id))

def list : Service M (List (Schedule M)) := ExceptT.mk (Prog.issue (L := lang M) .list)

def delete (id : UUID) : Service M Bool := ExceptT.mk (Prog.issue (L := lang M) (.delete id))

def submit (of : UUID) (at_ : Instant) (request : JobRequest M) : Service M Unit :=
  ExceptT.mk (Prog.issue (L := lang M) (.submit of at_ request))

def append (execution : ScheduleExecution) : Service M Unit :=
  ExceptT.mk (Prog.issue (L := lang M) (.append execution))

def clock : Service M Instant := ExceptT.lift (Prog.issue (L := lang M) .now)

def freshId : Service M UUID := ExceptT.lift (Prog.issue (L := lang M) .uuid)

/-! ## Operations -/

def registerSchedule (payload : ScheduleCreateRequest M) : Service M (Schedule M) := do
  let now ← clock
  match ScheduleKind.ofValue payload.kind, ScheduleType.ofValue payload.scheduleType with
  | none, _ => throw (.valueError payload.kind)
  | _, none => throw (.valueError payload.scheduleType)
  | some kind, some scheduleType =>
    let id ← freshId
    let createdAt ← clock
    let updatedAt ← clock
    save {
      id := id
      name := payload.name
      kind := kind
      scheduleType := scheduleType
      enabled := payload.enabled
      intervalSeconds := payload.intervalSeconds
      startAt := some (payload.startAt.getD now)
      nextRunAt := some (computeNextRun payload (payload.startAt.getD now))
      lastRunAt := none
      createdAt := createdAt
      updatedAt := updatedAt
      state := if payload.enabled then .active else .disabled
      metadata := payload.metadata }

/-- `repository.get_schedule`, which the operations on a stored schedule begin with. -/
def existing (id : UUID) : Service M (Schedule M) := do
  match ← get id with
  | none => throw (.keyError id)
  | some schedule => return schedule

/-- `payload.name or existing.name`. -/
def nameOr (name : Option String) (old : String) : String :=
  match name with
  | none => old
  | some name => if name = "" then old else name

/-- The schedule that `update_schedule` saves. -/
def ScheduleUpdateRequest.applied (payload : ScheduleUpdateRequest) (now : Instant)
    (schedule : Schedule M) : Schedule M :=
  { schedule with
    name := nameOr payload.name schedule.name
    enabled := payload.enabled.getD schedule.enabled
    updatedAt := now
    state := if payload.enabled = some false then .disabled else .active }

def updateSchedule (id : UUID) (payload : ScheduleUpdateRequest) : Service M (Schedule M) := do
  let schedule ← existing id
  let now ← clock
  save (payload.applied now schedule)

def deleteSchedule (id : UUID) : Service M Bool := delete id

/-- The schedule that `pause_schedule` saves. -/
def Schedule.paused (now : Instant) (schedule : Schedule M) : Schedule M :=
  { schedule with enabled := false, updatedAt := now, state := .paused }

def pauseSchedule (id : UUID) : Service M (Schedule M) := do
  let schedule ← existing id
  let now ← clock
  save (schedule.paused now)

/-- The schedule that `resume_schedule` saves; `current` is the time its next run is from. -/
def Schedule.resumed (current now : Instant) (schedule : Schedule M) : Schedule M :=
  { schedule with
    enabled := true
    nextRunAt := some (computeNextRunFromExisting schedule current)
    updatedAt := now
    state := .active }

def resumeSchedule (id : UUID) : Service M (Schedule M) := do
  let schedule ← existing id
  let current ← clock
  let now ← clock
  save (schedule.resumed current now)

/-- The schedule that a dispatch saves after a submission. -/
def Schedule.dispatched (current : Instant) (schedule : Schedule M) : Schedule M :=
  { schedule with
    nextRunAt := some (computeNextRunFromExisting schedule current)
    lastRunAt := some current
    updatedAt := current }

/-- `next_run_at <= current`. -/
def Instant.notAfter (t current : Instant) : Except Raised Bool :=
  if t.aware = current.aware then .ok (t.time ≤ current.time)
  else .error (.typeError "can't compare offset-naive and offset-aware datetimes")

/-- What the loop of `dispatch_due_jobs` asks of a schedule. -/
def Schedule.isDue (current : Instant) (schedule : Schedule M) : Except Raised Bool :=
  match schedule.nextRunAt with
  | none => .ok false
  | some next => if schedule.enabled then next.notAfter current else .ok false

/-- The schedule is enabled and its time has come. -/
def Schedule.due (current : Instant) (schedule : Schedule M) : Bool :=
  match schedule.nextRunAt with
  | none => false
  | some next => schedule.enabled && next ≤ current

/-- The schedule is enabled, and its next run is at a datetime that can be compared. -/
def Schedule.Comparable (current : Instant) (schedule : Schedule M) : Prop :=
  schedule.enabled = true → ∀ next, schedule.nextRunAt = some next → next.aware = current.aware

/-- What the loop of `dispatch_due_jobs` writes after a submission. -/
def recordDispatch (current : Instant) (schedule : Schedule M) : Service M ExecutionResult := do
  let id ← freshId
  append {
    id := id
    scheduleId := schedule.id
    executedAt := current
    status := "dispatched"
    detail := some schedule.kind.value }
  let _ ← save (schedule.dispatched current)
  return {
    scheduleId := schedule.id
    executed := true
    status := "dispatched"
    detail := some schedule.kind.value }

/-- The body of the loop, for a schedule that is due. -/
def dispatchOne (hasManager : Bool) (current : Instant) (schedule : Schedule M) :
    Service M ExecutionResult := do
  if hasManager then submit schedule.id current { metadata := schedule.metadata }
  recordDispatch current schedule

/-- The loop of `dispatch_due_jobs`. -/
def dispatchAll (hasManager : Bool) (current : Instant) (schedules : List (Schedule M)) :
    Service M (List ExecutionResult) :=
  schedules.foldlM (fun results schedule =>
    match schedule.isDue current with
    | .error e => throw e
    | .ok true => do
      let result ← dispatchOne hasManager current schedule
      return results ++ [result]
    | .ok false => return results) []

/-- `dispatch_due_jobs` at a time. -/
def dispatchAt (hasManager : Bool) (current : Instant) : Service M (List ExecutionResult) := do
  let schedules ← list
  dispatchAll hasManager current schedules

/-- `dispatch_due_jobs`; `hasManager` says whether the service was given a job manager. -/
def dispatchDueJobs (hasManager : Bool) (now : Option Instant) :
    Service M (List ExecutionResult) := do
  let current ← match now with
    | some now => pure now
    | none => clock
  dispatchAt hasManager current

/-- A schedule that can be compared is asked whether it is due. -/
theorem isDue_of_comparable {current : Instant} {schedule : Schedule M}
    (h : schedule.Comparable current) : schedule.isDue current = .ok (schedule.due current) := by
  unfold Schedule.isDue Schedule.due
  cases hnext : schedule.nextRunAt with
  | none => rfl
  | some next =>
    cases henabled : schedule.enabled with
    | false => rfl
    | true =>
      have haware := h henabled next hnext
      dsimp only
      rw [if_pos rfl, Instant.notAfter, if_pos haware, Bool.true_and]
      exact congrArg Except.ok (decide_eq_decide.2 (and_iff_right haware).symm)

theorem due_of_isDue {current : Instant} {schedule : Schedule M} {due : Bool}
    (h : schedule.isDue current = .ok due) : schedule.due current = due := by
  rw [isDue_of_comparable, Except.ok.injEq] at h
  · exact h
  · intro henabled next hnext
    unfold Schedule.isDue at h
    rw [hnext] at h
    dsimp only at h
    rw [if_pos henabled, Instant.notAfter] at h
    by_contra hne
    rw [if_neg hne] at h
    cases h

theorem isDue_of_due {current : Instant} {schedule : Schedule M}
    (h : schedule.due current = true) : schedule.isDue current = .ok true := by
  rw [isDue_of_comparable, h]
  intro _ next hnext
  unfold Schedule.due at h
  rw [hnext] at h
  exact (of_decide_eq_true (Bool.and_eq_true_iff.1 h).2).1

theorem not_comparable_of_isDue {current : Instant} {schedule : Schedule M} {e : Raised}
    (h : schedule.isDue current = .error e) : ¬ schedule.Comparable current := by
  intro hcomparable
  rw [isDue_of_comparable hcomparable] at h
  cases h

/-! ## The world -/

structure World (M : Type) where
  table : ScheduleTable M
  executions : List ScheduleExecution := []
  submitted : List (UUID × Instant) := []
  refused : List (UUID × Instant) := []
  failed : Nat := 0

namespace World

def put (g : World M) (schedule : Schedule M) : World M :=
  { g with table := g.table.set schedule }

/-- `delete_schedule`; in SQL the executions of the schedule go with it. -/
def drop (kind : RepositoryKind) (g : World M) (id : UUID) : World M :=
  { g with
    table := g.table.erase id
    executions := match kind with
      | .inMemory => g.executions
      | .sqlAlchemy _ => g.executions.filter fun execution => execution.scheduleId ≠ id }

def fail (g : World M) : World M := { g with failed := g.failed + 1 }

/-- How a call is answered. -/
def Answers (kind : RepositoryKind) (g : World M) :
    (s : Stmt M) → s.Resp → World M → Prop
  | .save schedule, .ok row, g' => row = savedRow kind g.table schedule ∧ g' = g.put row
  | .save schedule, .error _, g' => g' = g.fail ∨ g' = (g.put (savedRow kind g.table schedule)).fail
  | .get id, .ok found, g' => found = g.table.get id ∧ g' = g
  | .list, .ok schedules, g' => Lists kind g.table schedules ∧ g' = g
  | .delete id, .ok found, g' => found = (g.table.get id).isSome ∧ g' = g.drop kind id
  | .delete id, .error _, g' => g' = g.fail ∨ g' = (g.drop kind id).fail
  | .submit of at_ _, .ok _, g' => g' = { g with submitted := g.submitted ++ [(of, at_)] }
  | .submit of at_ _, .error _, g' => g' = { g with refused := g.refused ++ [(of, at_)] }
  | .append execution, .ok _, g' => g' = { g with executions := g.executions ++ [execution] }
  | .append execution, .error _, g' =>
    g' = g.fail ∨ g' = { g with executions := g.executions ++ [execution] }.fail
  | .get _, .error _, g' | .list, .error _, g' => g' = g.fail
  | .now, now, g' => now.aware = true ∧ g' = g
  | .uuid, id, g' => g.table.get id = none ∧ g' = g

end World

/-! ## The calls, alone -/

open Conc.Raises

variable {kind : RepositoryKind} {g : World M}

/-- Nothing interrupts an operation. -/
abbrev aloneOn (kind : RepositoryKind) : Prog.Contract (lang M) (World M) :=
  Prog.alone (World.Answers kind)

theorem sat_save {schedule : Schedule M} {Q : Schedule M → World M → Prop}
    {E : Raised → World M → Prop}
    (hok : Q (savedRow kind g.table schedule) (g.put (savedRow kind g.table schedule)))
    (hfail : ∀ e, E e g.fail) (hput : ∀ e, E e (g.put (savedRow kind g.table schedule)).fail) :
    Sat (aloneOn kind) (save schedule) g Q E := by
  refine Prog.sat_stmt ?_
  rintro (e | row) g₁ hact
  · rcases hact with rfl | rfl
    · exact hfail e
    · exact hput e
  · obtain ⟨rfl, rfl⟩ := hact
    exact hok

theorem sat_clock {Q : Instant → World M → Prop} {E : Raised → World M → Prop}
    (h : ∀ now, Q now g) : Sat (aloneOn kind) clock g Q E := by
  refine Prog.sat_stmt ?_
  rintro now g₁ ⟨_, rfl⟩
  exact h now

theorem sat_freshId {Q : UUID → World M → Prop} {E : Raised → World M → Prop}
    (h : ∀ id, g.table.get id = none → Q id g) : Sat (aloneOn kind) freshId g Q E := by
  refine Prog.sat_stmt ?_
  rintro id g₁ ⟨hid, rfl⟩
  exact h id hid

theorem sat_existing {id : UUID} {Q : Schedule M → World M → Prop} {E : Raised → World M → Prop}
    (hok : ∀ schedule, g.table.get id = some schedule → Q schedule g) (hnone : ∀ e, E e g)
    (hfail : ∀ e, E e g.fail) : Sat (aloneOn kind) (existing id) g Q E := by
  refine sat_bind ?_
  refine Prog.sat_stmt ?_
  rintro (e | found) g₁ hact
  · cases hact
    exact hfail e
  · obtain ⟨rfl, rfl⟩ := hact
    dsimp only
    cases hget : g₁.table.get id with
    | none => exact hnone (.keyError id)
    | some schedule => exact hok schedule hget

theorem sat_delete {id : UUID} {Q : Bool → World M → Prop} {E : Raised → World M → Prop}
    (hok : ∀ found, Q found (g.drop kind id)) (hfail : ∀ e, E e g.fail)
    (hdrop : ∀ e, E e (g.drop kind id).fail) : Sat (aloneOn kind) (delete id) g Q E := by
  refine Prog.sat_stmt ?_
  rintro (e | found) g₁ hact
  · rcases hact with rfl | rfl
    · exact hfail e
    · exact hdrop e
  · obtain ⟨rfl, rfl⟩ := hact
    exact hok _

theorem sat_list {Q : List (Schedule M) → World M → Prop} {E : Raised → World M → Prop}
    (hok : ∀ schedules, Lists kind g.table schedules → Q schedules g) (hfail : ∀ e, E e g.fail) :
    Sat (aloneOn kind) list g Q E := by
  refine Prog.sat_stmt ?_
  rintro (e | schedules) g₁ hact
  · cases hact
    exact hfail e
  · obtain ⟨hlists, rfl⟩ := hact
    exact hok schedules hlists

theorem sat_submit {of : UUID} {current : Instant} {request : JobRequest M}
    {Q : Unit → World M → Prop} {E : Raised → World M → Prop}
    (hok : Q () { g with submitted := g.submitted ++ [(of, current)] })
    (hrefused : ∀ e, E e { g with refused := g.refused ++ [(of, current)] }) :
    Sat (aloneOn kind) (submit of current request) g Q E := by
  refine Prog.sat_stmt ?_
  rintro (e | _) g₁ rfl
  · exact hrefused e
  · exact hok

theorem sat_append {execution : ScheduleExecution} {Q : Unit → World M → Prop}
    {E : Raised → World M → Prop}
    (hok : Q () { g with executions := g.executions ++ [execution] }) (hfail : ∀ e, E e g.fail)
    (happend : ∀ e, E e { g with executions := g.executions ++ [execution] }.fail) :
    Sat (aloneOn kind) (append execution) g Q E := by
  refine Prog.sat_stmt ?_
  rintro (e | _) g₁ hact
  · rcases hact with rfl | rfl
    · exact hfail e
    · exact happend e
  · cases hact
    exact hok

end Scheduler
end NetOps
