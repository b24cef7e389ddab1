import NetOps.Conc.Tasks
import NetOps.Orchestration.Workflow

/-!
# Jobs.Manager

The job framework (`jobs/`): `JobManager.submit_job` and `cancel_job`, `JobWorker.run` and
`JobDispatcher.dispatch`, as programs over what they await. A statement is an awaited call together
with the code up to the next one, which nothing interrupts: the mark that a job gets when the engine
is done with it is part of the statement that awaits the engine.

The world remembers, beside the jobs, what each job is at (`Phase`) and which task has it.
-/

namespace NetOps
namespace Jobs

open Conc Conc.Raises
open Discovery (UUID)
open Orchestration (OrchestrationStatus)

/-! ## States -/

inductive JobStatus where
  | pending
  | queued
  | running
  | retrying
  | completed
  | failed
  | cancelled
  | timedOut
  deriving DecidableEq

def JobStatus.Ended : JobStatus → Prop
  | .completed => True
  | .failed => True
  | .cancelled => True
  | .timedOut => True
  | _ => False

/-- The state of a job, without its times. -/
structure JobState where
  status : JobStatus := .pending
  attempts : Nat := 0
  message : Option String := none

namespace JobState

def markQueued (state : JobState) : JobState := { state with status := .queued }

def markRunning (state : JobState) : JobState := { state with status := .running }

def markCompleted (message : Option String) (state : JobState) : JobState :=
  { state with status := .completed, message := message }

def markFailed (message : String) (state : JobState) : JobState :=
  { state with status := .failed, message := some message }

def markCancelled (message : Option String) (state : JobState) : JobState :=
  { state with status := .cancelled, message := message }

def markTimedOut (message : Option String) (state : JobState) : JobState :=
  { state with status := .timedOut, message := message }

def incrementAttempts (state : JobState) : JobState :=
  { state with attempts := state.attempts + 1 }

end JobState

/-- What a request adds to its context: the priority, and which token it is cancelled by. -/
structure JobRequest where
  token : Nat
  priority : Int := 0

/-- What comes of `engine.run`, within the timeout of the job if it has one. -/
inductive Outcome where
  | returned (status : OrchestrationStatus) (message : Option String)
  | timedOut (text : String)
  | cancelled
  | raised (text : String)

/-- The mark of a job that the engine is done with; `reason` is that of its token. -/
def JobState.settle (reason : Option String) (state : JobState) : Outcome → JobState
  | .timedOut text => state.markTimedOut (some text)
  | .cancelled => state.markCancelled (some (match reason with
    | none => "Job cancelled."
    | some reason => if reason = "" then "Job cancelled." else reason))
  | .raised text => state.markFailed text
  | .returned .cancelled message => state.markCancelled message
  | .returned .failed message => state.markFailed (match message with
    | none => "Job failed."
    | some message => if message = "" then "Job failed." else message)
  | .returned _ _ => state.markCompleted (some "Job completed successfully.")

theorem settle_ended (reason : Option String) (state : JobState) (outcome : Outcome) :
    (state.settle reason outcome).status.Ended := by
  cases outcome with
  | returned status message => cases status <;> exact trivial
  | _ => exact trivial

/-! ## Calls -/

/-- The events that are published of a job. -/
inductive JobEvent where
  | submitted
  | queued
  | started
  | completed
  | failed
  | cancelled
  | timedOut
  deriving DecidableEq

/-- The calls of `repository.save`. -/
inductive Place where
  | submitted
  | taken
  | dispatched
  | cancelled

/-- What a worker finds: that it should stop, an empty queue, or a job that it takes. -/
inductive Polled where
  | stopped
  | empty
  | job (job : UUID)

/-- What `dispatch` finds: that the token of the job is set, that it enters the semaphore, or that
it has to wait. -/
inductive Admission where
  | cancelled (reason : String)
  | entered
  | waits

/-- An exception. Of a save, it says whether the row was stored. -/
inductive Raised where
  | call (text : String) (stored : Bool)
  | cancelled
  | timeout (text : String)
  | engine (text : String)

def Raised.stored : Raised → Bool
  | .call _ stored => stored
  | _ => false

inductive Stmt where
  | create (request : JobRequest)
  | save (job : UUID) (place : Place)
  | publish (job : UUID) (event : JobEvent)
  | put (job : UUID)
  | poll
  | enter (job : UUID)
  | acquire (job : UUID)
  | run (job : UUID)
  | release
  | cancel (job : UUID) (reason : String)
  | cancelToken (token : Nat) (reason : String)
  | shutdown

abbrev Stmt.Resp : Stmt → Type
  | .create _ => UUID
  | .save _ _ => Except Raised Unit
  | .publish _ _ => Except Raised Unit
  | .put _ => Unit
  | .poll => Polled
  | .enter _ => Admission
  | .acquire _ => Unit
  | .run _ => Outcome
  | .release => Unit
  | .cancel _ _ => Except Raised Bool
  | .cancelToken _ _ => Unit
  | .shutdown => Unit

abbrev lang : Lang := ⟨Stmt, Stmt.Resp⟩

abbrev Framework (α : Type) := Raises lang Raised α

def create (request : JobRequest) : Framework UUID :=
  ExceptT.lift (Prog.issue (L := lang) (.create request))

def save (job : UUID) (place : Place) : Framework Unit :=
  ExceptT.mk (Prog.issue (L := lang) (.save job place))

/-- `publish_job_event`. -/
def publish (job : UUID) (event : JobEvent) : Framework Unit :=
  ExceptT.mk (Prog.issue (L := lang) (.publish job event))

/-- `JobQueue.put`, which marks the job as queued. -/
def put (job : UUID) : Framework Unit := ExceptT.lift (Prog.issue (L := lang) (.put job))

/-- The head of the loop of a worker: the stop event, and the next job of the queue. -/
def poll : Framework Polled := ExceptT.lift (Prog.issue (L := lang) .poll)

/-- The head of `dispatch`: the token, and the semaphore if it is free. -/
def enter (job : UUID) : Framework Admission := ExceptT.lift (Prog.issue (L := lang) (.enter job))

/-- The semaphore after a wait. -/
def acquire (job : UUID) : Framework Unit := ExceptT.lift (Prog.issue (L := lang) (.acquire job))

def runEngine (job : UUID) : Framework Outcome := ExceptT.lift (Prog.issue (L := lang) (.run job))

def release : Framework Unit := ExceptT.lift (Prog.issue (L := lang) .release)

/-- `repository.get`, and `job.cancel` if there is such a job. -/
def cancel (job : UUID) (reason : String) : Framework Bool :=
  ExceptT.mk (Prog.issue (L := lang) (.cancel job reason))

/-! ## Programs -/

def submitJob (request : JobRequest) : Framework UUID := do
  let job ← create request
  save job .submitted
  publish job .submitted
  put job
  return job

/-- The body of `dispatch` inside the semaphore. -/
def execute (job : UUID) : Framework Unit := do
  publish job .started
  match ← runEngine job with
  | .timedOut text =>
    publish job .timedOut
    throw (.timeout text)
  | .cancelled =>
    publish job .cancelled
    throw .cancelled
  | .raised text =>
    publish job .failed
    throw (.engine text)
  | .returned .cancelled _ => publish job .cancelled
  | .returned .failed _ => publish job .failed
  | .returned _ _ => publish job .completed

/-- The semaphore is released however its body ends. -/
def executeAdmitted (job : UUID) : Framework Unit := do
  let outcome ← tryCatch (Except.ok <$> execute job) fun e => pure (.error e)
  release
  match outcome with
  | .ok _ => return
  | .error e => throw e

def dispatch (job : UUID) : Framework Unit := do
  match ← enter job with
  | .cancelled _ =>
    publish job .cancelled
    throw .cancelled
  | .entered => executeAdmitted job
  | .waits =>
    acquire job
    executeAdmitted job

/-- A turn of the loop of `JobWorker.run`. What `dispatch` raises is logged. -/
def workerTurn : Framework Unit := do
  match ← poll with
  | .stopped => return
  | .empty => return
  | .job job =>
    publish job .queued
    save job .taken
    tryCatch (dispatch job) fun _ => pure ()
    save job .dispatched

def cancelJob (job : UUID) (reason : String) : Framework Unit := do
  if ← cancel job reason then
    save job .cancelled
    publish job .cancelled

/-- `CancellationToken.cancel`, by whoever has the token of a request. -/
def cancelToken (token : Nat) (reason : String) : Framework Unit :=
  ExceptT.lift (Prog.issue (L := lang) (.cancelToken token reason))

def shutdown : Framework Unit := ExceptT.lift (Prog.issue (L := lang) .shutdown)

end Jobs
end NetOps
