import NetOps.Conc.Tasks
import NetOps.Discovery.Records

/-!
# Orchestration.Workflow

`WorkflowEngine.execute` (`orchestration/workflow.py`), with the unit of work that it persists in
(`persistence/unit_of_work.py`), as a program over the calls it makes. Steps, progress callbacks,
the event publisher and the database may raise at any call, and the cancellation token may be found
set at any check.

* `sat_runOnce`: an attempt commits the four records of a run, or nothing; it fails after the commit
  exactly if what follows the commit is interrupted.
* `runs_atomic_iff`: so a sequence of executions is atomic if and only if no attempt is interrupted
  after its commit.
-/

namespace NetOps
namespace Orchestration

open Conc Conc.Raises History
open Discovery (UUID)

variable {N L D V : Type}

/-! ## Records -/

inductive OrchestrationStatus where
  | pending
  | running
  | retrying
  | succeeded
  | failed
  | cancelled
  deriving DecidableEq

/-- What the workflow reads of an `OrchestrationContext`. -/
structure OrchestrationContext where
  runId : UUID
  maxAttempts : Int := 1
  forceNetboxRefresh : Bool := false
  progressCallback : Bool := false
  eventPublisher : Bool := false

structure OrchestrationProgress where
  step : String
  completedSteps : Nat
  totalSteps : Nat
  message : String

/-- The events of a run, with what their payloads add to the ids. -/
inductive Event where
  | runStarted
  | runProgress (progress : OrchestrationProgress)
  | runSucceeded
  | runFailed (error : String)
  | runCancelled (error : String)

/-- What is persisted of a run. -/
inductive Record (N L D : Type) where
  | discoveryRun (id : UUID) (target : UUID)
  | netboxSnapshot (id : UUID) (snapshot : N)
  | liveSnapshot (id : UUID) (snapshot : L) (discoveryRun : UUID)
  | comparison (id : UUID) (result : D) (expected observed : UUID)

/-- The ids of the records of a run. -/
structure Persisted where
  discoveryRunId : UUID
  netboxSnapshotId : UUID
  liveSnapshotId : UUID
  comparisonRecordId : UUID

structure OrchestrationResult (N L D V : Type) where
  jobId : UUID
  runId : UUID
  status : OrchestrationStatus
  netboxInventory : Option N := none
  liveSnapshot : Option L := none
  comparisonResult : Option D := none
  evaluationDecision : Option V := none
  persisted : Option Persisted := none
  errorMessage : Option String := none

inductive Metric where
  | submitted
  | succeeded
  | failed
  | cancelled
  | retried

/-- The counters of `OrchestrationMetrics` that count runs. -/
structure OrchestrationMetrics where
  submittedRuns : Nat := 0
  succeededRuns : Nat := 0
  failedRuns : Nat := 0
  cancelledRuns : Nat := 0
  retriedRuns : Nat := 0

def OrchestrationMetrics.count (m : OrchestrationMetrics) : Metric → OrchestrationMetrics
  | .submitted => { m with submittedRuns := m.submittedRuns + 1 }
  | .succeeded => { m with succeededRuns := m.succeededRuns + 1 }
  | .failed => { m with failedRuns := m.failedRuns + 1 }
  | .cancelled => { m with cancelledRuns := m.cancelledRuns + 1 }
  | .retried => { m with retriedRuns := m.retriedRuns + 1 }

/-! ## Calls -/

/-- `OrchestrationCancelledError`, or another exception, with its text. -/
inductive Raised where
  | cancelled (text : String)
  | other (text : String)

def Raised.text : Raised → String
  | .cancelled text => text
  | .other text => text

/-- `attempt` is the start of an attempt, `check` the reason of the cancellation token. -/
inductive Stmt (N L D V : Type) where
  | attempt
  | count (metric : Metric)
  | check
  | callback (progress : OrchestrationProgress)
  | publish (event : Event)
  | synchronize (forceRefresh : Bool)
  | collect
  | compare (netbox : N) (live : L)
  | evaluate (comparison : D)
  | unitOfWork
  | uuid
  | add (record : Record N L D)
  | commit
  | rollback

abbrev Stmt.Resp : Stmt N L D V → Type
  | .attempt => Unit
  | .count _ => Unit
  | .check => Option String
  | .callback _ => Except Raised Unit
  | .publish _ => Except Raised Unit
  | .synchronize _ => Except Raised N
  | .collect => Except Raised L
  | .compare _ _ => Except Raised D
  | .evaluate _ => Except Raised V
  | .unitOfWork => Except Raised Unit
  | .uuid => UUID
  | .add _ => Except Raised Unit
  | .commit => Except Raised Unit
  | .rollback => Except Raised Unit

abbrev lang (N L D V : Type) : Lang := ⟨Stmt N L D V, Stmt.Resp⟩

abbrev Workflow (N L D V α : Type) := Raises (lang N L D V) Raised α

def startAttempt : Workflow N L D V Unit :=
  ExceptT.lift (Prog.issue (L := lang N L D V) .attempt)

def count (metric : Metric) : Workflow N L D V Unit :=
  ExceptT.lift (Prog.issue (L := lang N L D V) (.count metric))

def check : Workflow N L D V (Option String) :=
  ExceptT.lift (Prog.issue (L := lang N L D V) .check)

def callback (progress : OrchestrationProgress) : Workflow N L D V Unit :=
  ExceptT.mk (Prog.issue (L := lang N L D V) (.callback progress))

def publish (event : Event) : Workflow N L D V Unit :=
  ExceptT.mk (Prog.issue (L := lang N L D V) (.publish event))

def synchronize (forceRefresh : Bool) : Workflow N L D V N :=
  ExceptT.mk (Prog.issue (L := lang N L D V) (.synchronize forceRefresh))

def collect : Workflow N L D V L := ExceptT.mk (Prog.issue (L := lang N L D V) .collect)

def compare (netbox : N) (live : L) : Workflow N L D V D :=
  ExceptT.mk (Prog.issue (L := lang N L D V) (.compare netbox live))

def evaluate (comparison : D) : Workflow N L D V V :=
  ExceptT.mk (Prog.issue (L := lang N L D V) (.evaluate comparison))

def unitOfWork : Workflow N L D V Unit :=
  ExceptT.mk (Prog.issue (L := lang N L D V) .unitOfWork)

def uuid4 : Workflow N L D V UUID := ExceptT.lift (Prog.issue (L := lang N L D V) .uuid)

def add (record : Record N L D) : Workflow N L D V Unit :=
  ExceptT.mk (Prog.issue (L := lang N L D V) (.add record))

def commit : Workflow N L D V Unit := ExceptT.mk (Prog.issue (L := lang N L D V) .commit)

def rollback : Workflow N L D V Unit := ExceptT.mk (Prog.issue (L := lang N L D V) .rollback)

/-! ## The workflow -/

variable (context : OrchestrationContext)

/-- `_raise_if_cancelled`. -/
def raiseIfCancelled : Workflow N L D V Unit := do
  match ← check with
  | none => return
  | some reason => throw (.cancelled (if reason = "" then "Run cancelled." else reason))

/-- `_publish`. -/
def publishEvent (event : Event) : Workflow N L D V Unit := do
  if context.eventPublisher then publish event

/-- `_progress`. -/
def progress (step : String) (completedSteps : Nat) (message : String) :
    Workflow N L D V Unit := do
  let update : OrchestrationProgress :=
    { step := step, completedSteps := completedSteps, totalSteps := 6, message := message }
  if context.progressCallback then callback update
  publishEvent context (.runProgress update)

/-- `_step_async` and `_step_sync`. -/
def runStep {α : Type} (step : String) (completedSteps : Nat) (operation : Workflow N L D V α) :
    Workflow N L D V α := do
  raiseIfCancelled
  progress context step (completedSteps - 1) ("Starting " ++ step ++ ".")
  let value ← operation
  raiseIfCancelled
  progress context step completedSteps ("Completed " ++ step ++ ".")
  return value

/-- The body of `_persist`, inside the unit of work. -/
def addRecords (netbox : N) (live : L) (comparison : D) : Workflow N L D V Persisted := do
  let discoveryRunId ← uuid4
  add (.discoveryRun discoveryRunId context.runId)
  let netboxSnapshotId ← uuid4
  add (.netboxSnapshot netboxSnapshotId netbox)
  let liveSnapshotId ← uuid4
  add (.liveSnapshot liveSnapshotId live discoveryRunId)
  let comparisonRecordId ← uuid4
  add (.comparison comparisonRecordId comparison netboxSnapshotId liveSnapshotId)
  return {
    discoveryRunId := discoveryRunId
    netboxSnapshotId := netboxSnapshotId
    liveSnapshotId := liveSnapshotId
    comparisonRecordId := comparisonRecordId }

/-- `_persist`: the unit of work is rolled back if its body raises, and else committed. -/
def persist (netbox : N) (live : L) (comparison : D) : Workflow N L D V Persisted := do
  unitOfWork
  let outcome ← tryCatch (Except.ok <$> addRecords context netbox live comparison)
    fun e => pure (.error e)
  match outcome with
  | .ok persisted =>
    commit
    return persisted
  | .error e =>
    rollback
    throw e

/-- `_run_once`. -/
def runOnce (jobId : UUID) : Workflow N L D V (OrchestrationResult N L D V) := do
  let netbox ← runStep context "netbox_inventory" 1 (synchronize context.forceNetboxRefresh)
  let live ← runStep context "collector_runtime" 2 collect
  let comparison ← runStep context "comparison" 3 (compare netbox live)
  let decision ← runStep context "evaluation" 4 (evaluate comparison)
  let persisted ← runStep context "persistence" 5 (persist context netbox live comparison)
  progress context "completed" 6 "Run completed."
  return {
    jobId := jobId
    runId := context.runId
    status := .succeeded
    netboxInventory := some netbox
    liveSnapshot := some live
    comparisonResult := some comparison
    evaluationDecision := some decision
    persisted := some persisted }

/-- `OrchestrationResult.failed`. -/
def OrchestrationResult.ended (jobId : UUID) (status : OrchestrationStatus) (message : String) :
    OrchestrationResult N L D V :=
  { jobId := jobId, runId := context.runId, status := status, errorMessage := some message }

/-- The loop of `execute`, with the attempts that are left and the last error. -/
def attempts (jobId : UUID) :
    Nat → Option Raised → Workflow N L D V (OrchestrationResult N L D V)
  | 0, last =>
    return .ended context jobId .failed ((last.map Raised.text).getD "Run failed.")
  | left + 1, _ => do
    startAttempt
    match ← tryCatch (Except.ok <$> runOnce context jobId) fun e => pure (.error e) with
    | .ok result =>
      count .succeeded
      publishEvent context .runSucceeded
      return result
    | .error (.cancelled text) =>
      count .cancelled
      publishEvent context (.runCancelled text)
      return .ended context jobId .cancelled text
    | .error (.other text) =>
      if left ≠ 0 then
        count .retried
        attempts jobId left (some (.other text))
      else
        count .failed
        publishEvent context (.runFailed text)
        return .ended context jobId .failed text

def execute (jobId : UUID) : Workflow N L D V (OrchestrationResult N L D V) := do
  count .submitted
  publishEvent context .runStarted
  attempts context jobId (max 1 context.maxAttempts).toNat none

/-! ## The world -/

/-- The database and the counters; whether this attempt has committed, and how often an attempt was
interrupted after its commit. -/
structure World (N L D : Type) where
  committed : List (Record N L D) := []
  session : List (Record N L D) := []
  metrics : OrchestrationMetrics := {}
  persisted : Bool := false
  late : Nat := 0

namespace World

/-- The attempt is interrupted. -/
def interrupted (g : World N L D) : World N L D :=
  if g.persisted then { g with late := g.late + 1 } else g

/-- How a call is answered. A unit of work has a session of its own, and a commit that raises stores
nothing. -/
def Answers (g : World N L D) : (s : Stmt N L D V) → s.Resp → World N L D → Prop
  | .attempt, _, g' => g' = { g with persisted := false }
  | .count metric, _, g' => g' = { g with metrics := g.metrics.count metric }
  | .check, none, g' => g' = g
  | .check, some _, g' => g' = g.interrupted
  | .callback _, .ok _, g' => g' = g
  | .callback _, .error _, g' => g' = g.interrupted
  | .publish _, .ok _, g' => g' = g
  | .publish _, .error _, g' => g' = g.interrupted
  | .synchronize _, _, g' => g' = g
  | .collect, _, g' => g' = g
  | .compare _ _, _, g' => g' = g
  | .evaluate _, _, g' => g' = g
  | .unitOfWork, .ok _, g' => g' = { g with session := [] }
  | .unitOfWork, .error _, g' => g' = g
  | .uuid, _, g' => g' = g
  | .add record, .ok _, g' => g' = { g with session := g.session ++ [record] }
  | .add record, .error _, g' => g' = g ∨ g' = { g with session := g.session ++ [record] }
  | .commit, .ok _, g' =>
    g' = { g with committed := g.committed ++ g.session, session := [], persisted := true }
  | .commit, .error _, g' => g' = g
  | .rollback, .ok _, g' => g' = { g with session := [] }
  | .rollback, .error _, g' => g' = g

end World

/-! ## Sequences of executions -/

/-- An execution that returned. -/
structure Execution (N L D V : Type) where
  jobId : UUID
  context : OrchestrationContext
  result : OrchestrationResult N L D V

def ExecutionStep (g : World N L D) (e : Execution N L D V) (g' : World N L D) : Prop :=
  (ExceptT.run (execute (V := V) e.context e.jobId)).Runs World.Answers g (.ok e.result) g'

/-- One discovery run, one NetBox snapshot, one live snapshot and one comparison, of the run. -/
def IsRun (context : OrchestrationContext) (records : List (Record N L D)) : Prop :=
  ∃ discoveryRun netbox inventory live snapshot comparison result, records =
    [.discoveryRun discoveryRun context.runId, .netboxSnapshot netbox inventory,
      .liveSnapshot live snapshot discoveryRun, .comparison comparison result netbox live]

/-- Every run that was submitted is counted once. -/
def OrchestrationMetrics.Accounted (m : OrchestrationMetrics) : Prop :=
  m.submittedRuns = m.succeededRuns + m.failedRuns + m.cancelledRuns

/-- The run succeeded and was committed, or did not and was not. -/
structure Atomic (g : World N L D) (e : Execution N L D V) (g' : World N L D) : Prop where
  committed : (e.result.status = .succeeded ∧
      ∃ records, IsRun e.context records ∧ g'.committed = g.committed ++ records) ∨
    (e.result.status ≠ .succeeded ∧ g'.committed = g.committed)
  accounted : g'.metrics.Accounted

/-- No attempt was interrupted after its commit. -/
def Uninterrupted (g : World N L D) (_ : Execution N L D V) (g' : World N L D) : Prop :=
  g'.late = g.late

/-! ## An attempt -/

abbrev aloneOn (N L D V : Type) : Prog.Contract (lang N L D V) (World N L D) :=
  Prog.alone World.Answers

variable {context} {g g' : World N L D}

theorem World.interrupted_of_not_persisted (h : g.persisted = false) : g.interrupted = g := by
  rw [interrupted, h, if_neg Bool.false_ne_true]

theorem sat_raiseIfCancelled {Q : Unit → World N L D → Prop} {E : Raised → World N L D → Prop}
    (hok : Q () g) (hraises : ∀ e, E e g.interrupted) :
    Sat (aloneOn N L D V) raiseIfCancelled g Q E := by
  refine sat_bind (Prog.sat_stmt ?_)
  rintro (_ | reason) g₁ hact
  · obtain rfl : g₁ = g := hact
    exact sat_pure hok
  · obtain rfl : g₁ = g.interrupted := hact
    exact hraises (.cancelled _)

theorem sat_publish {event : Event} {Q : Unit → World N L D → Prop}
    {E : Raised → World N L D → Prop} (hok : Q () g) (hraises : ∀ e, E e g.interrupted) :
    Sat (aloneOn N L D V) (publish event) g Q E := by
  refine Prog.sat_stmt ?_
  rintro (e | _) g₁ hact
  · obtain rfl : g₁ = g.interrupted := hact
    exact hraises e
  · obtain rfl : g₁ = g := hact
    exact hok

theorem sat_publishEvent {event : Event} {Q : Unit → World N L D → Prop}
    {E : Raised → World N L D → Prop} (hok : Q () g) (hraises : ∀ e, E e g.interrupted) :
    Sat (aloneOn N L D V) (publishEvent context event) g Q E := by
  unfold publishEvent
  split
  · exact sat_publish hok hraises
  · exact sat_pure hok

theorem sat_progress {step message : String} {completedSteps : Nat}
    {Q : Unit → World N L D → Prop} {E : Raised → World N L D → Prop} (hok : Q () g)
    (hraises : ∀ e, E e g.interrupted) :
    Sat (aloneOn N L D V) (progress context step completedSteps message) g Q E := by
  unfold progress
  dsimp only
  split
  · refine sat_bind (Prog.sat_stmt ?_)
    rintro (e | _) g₁ hact
    · obtain rfl : g₁ = g.interrupted := hact
      exact hraises e
    · obtain rfl : g₁ = g := hact
      exact sat_publishEvent hok hraises
  · exact sat_publishEvent hok hraises

/-- A step of which nothing was committed before: its operation, interrupted or not. -/
theorem sat_runStep {α : Type} {step : String} {completedSteps : Nat}
    {operation : Workflow N L D V α} {Q : α → World N L D → Prop}
    {E : Raised → World N L D → Prop} (hbefore : ∀ e, E e g.interrupted)
    (h : Sat (aloneOn N L D V) operation g
      (fun value g₁ => Q value g₁ ∧ ∀ e, E e g₁.interrupted) E) :
    Sat (aloneOn N L D V) (runStep context step completedSteps operation) g Q E := by
  refine sat_bind (sat_raiseIfCancelled ?_ hbefore)
  refine sat_bind (sat_progress ?_ hbefore)
  refine sat_bind (h.mono (fun value g₁ hvalue => ?_) fun _ _ he => he)
  refine sat_bind (sat_raiseIfCancelled ?_ hvalue.2)
  exact sat_bind (sat_progress (sat_pure hvalue.1) hvalue.2)

/-- A step that asks once, and stores nothing. -/
theorem sat_askStep {α : Type} {s : Stmt N L D V} {k : s.Resp → Except Raised α} {step : String}
    {completedSteps : Nat} {Q : α → World N L D → Prop} {E : Raised → World N L D → Prop}
    (hpersisted : g.persisted = false)
    (hasks : ∀ r g', World.Answers (V := V) g s r g' → g' = g) (hok : ∀ value, Q value g)
    (hraises : ∀ e, E e g) :
    Sat (aloneOn N L D V) (runStep context step completedSteps
      (ExceptT.mk (Prog.stmt (L := lang N L D V) s fun r => .pure (k r)))) g Q E := by
  have hinterrupted := World.interrupted_of_not_persisted hpersisted
  refine sat_runStep (fun e => ?_) (Prog.sat_stmt fun r g₁ hact => ?_)
  · rw [hinterrupted]
    exact hraises e
  · obtain rfl : g₁ = g := hasks r g₁ hact
    generalize k r = answer
    cases answer with
    | error e => exact hraises e
    | ok value =>
      refine ⟨hok value, fun e => ?_⟩
      rw [hinterrupted]
      exact hraises e

theorem sat_add {record : Record N L D} {Q : Unit → World N L D → Prop}
    {E : Raised → World N L D → Prop} (hok : Q () { g with session := g.session ++ [record] })
    (hraises : ∀ e session, E e { g with session := session }) :
    Sat (aloneOn N L D V) (add record) g Q E := by
  refine Prog.sat_stmt ?_
  rintro (e | _) g₁ hact
  · rcases hact with rfl | rfl
    · exact hraises e g₁.session
    · exact hraises e _
  · cases hact
    exact hok

theorem sat_uuid4 {Q : UUID → World N L D → Prop} {E : Raised → World N L D → Prop}
    (h : ∀ id, Q id g) : Sat (aloneOn N L D V) uuid4 g Q E := by
  refine Prog.sat_stmt ?_
  rintro id g₁ hact
  obtain rfl : g₁ = g := hact
  exact h id

/-- The body of a unit of work adds the records of a run to the session, or raises. -/
theorem sat_addRecords {netbox : N} {live : L} {comparison : D} (hsession : g.session = []) :
    Sat (aloneOn N L D V) (addRecords context netbox live comparison) g
      (fun _ g' => ∃ records, IsRun context records ∧ g' = { g with session := records })
      (fun _ g' => ∃ session, g' = { g with session := session }) := by
  refine sat_bind (sat_uuid4 fun discoveryRunId => ?_)
  refine sat_bind (sat_add ?_ fun _ session => ⟨session, rfl⟩)
  refine sat_bind (sat_uuid4 fun netboxSnapshotId => ?_)
  refine sat_bind (sat_add ?_ fun _ session => ⟨session, rfl⟩)
  refine sat_bind (sat_uuid4 fun liveSnapshotId => ?_)
  refine sat_bind (sat_add ?_ fun _ session => ⟨session, rfl⟩)
  refine sat_bind (sat_uuid4 fun comparisonRecordId => ?_)
  refine sat_bind (sat_add ?_ fun _ session => ⟨session, rfl⟩)
  refine sat_pure ⟨_, ⟨discoveryRunId, netboxSnapshotId, netbox, liveSnapshotId, live,
    comparisonRecordId, comparison, rfl⟩, ?_⟩
  rw [hsession]
  rfl

/-- The state after the records of a run were committed. -/
def World.store (g : World N L D) (records : List (Record N L D)) : World N L D :=
  { g with committed := g.committed ++ records, session := [], persisted := true }

/-- A unit of work commits the records of a run, or nothing. -/
theorem sat_persist {netbox : N} {live : L} {comparison : D} :
    Sat (aloneOn N L D V) (persist context netbox live comparison) g
      (fun _ g' => ∃ records, IsRun context records ∧ g' = g.store records)
      (fun _ g' => ∃ session, g' = { g with session := session }) := by
  refine sat_bind (Prog.sat_stmt ?_)
  rintro (e | _) g₁ hact
  · obtain rfl : g₁ = g := hact
    exact ⟨g₁.session, rfl⟩
  cases hact
  refine sat_bind (sat_tryCatch (sat_bind ((sat_addRecords rfl).mono (fun persisted g₂ h => ?_)
    fun e g₂ h => ?_)))
  · obtain ⟨records, hrun, rfl⟩ := h
    refine sat_pure (sat_bind (Prog.sat_stmt ?_))
    rintro (e | _) g₃ hact
    · obtain rfl : g₃ = { g with session := records } := hact
      exact ⟨records, rfl⟩
    · cases hact
      exact sat_pure ⟨records, hrun, rfl⟩
  · obtain ⟨session, rfl⟩ := h
    refine sat_pure (sat_bind (Prog.sat_stmt ?_))
    rintro (e | _) g₃ hact
    · obtain rfl : g₃ = { g with session := session } := hact
      exact ⟨session, rfl⟩
    · cases hact
      exact ⟨[], rfl⟩

/-- An attempt that failed: nothing was committed, or it was interrupted after its commit. -/
def Failed (context : OrchestrationContext) (g g' : World N L D) : Prop :=
  (∃ session, g' = { g with session := session }) ∨
    ∃ records, IsRun context records ∧ g' = { g.store records with late := g.late + 1 }

theorem sat_runOnce {jobId : UUID} (hpersisted : g.persisted = false) :
    Sat (aloneOn N L D V) (runOnce context jobId) g
      (fun result g' => result.status = .succeeded ∧
        ∃ records, IsRun context records ∧ g' = g.store records)
      (fun _ => Failed context g) := by
  have hnothing : Failed context g g := .inl ⟨g.session, rfl⟩
  have hinterrupted := World.interrupted_of_not_persisted hpersisted
  refine sat_bind (sat_askStep (s := .synchronize _) (k := id) hpersisted (fun _ _ h => h)
    (fun netbox => ?_) fun _ => hnothing)
  refine sat_bind (sat_askStep (s := .collect) (k := id) hpersisted (fun _ _ h => h)
    (fun live => ?_) fun _ => hnothing)
  refine sat_bind (sat_askStep (s := .compare netbox live) (k := id) hpersisted (fun _ _ h => h)
    (fun comparison => ?_) fun _ => hnothing)
  refine sat_bind (sat_askStep (s := .evaluate comparison) (k := id) hpersisted (fun _ _ h => h)
    (fun decision => ?_) fun _ => hnothing)
  have hlate : ∀ records, IsRun context records →
      Failed context g (g.store records).interrupted :=
    fun records hrun => .inr ⟨records, hrun, rfl⟩
  refine sat_bind (sat_runStep (fun e => ?_) (sat_persist.mono (fun persisted g₁ h => ?_)
    fun _ _ h => .inl h))
  · rw [hinterrupted]
    exact hnothing
  · obtain ⟨records, hrun, rfl⟩ := h
    refine ⟨sat_bind (sat_progress ?_ fun _ => hlate records hrun), fun _ => hlate records hrun⟩
    exact sat_pure ⟨rfl, records, hrun, rfl⟩

/-! ## Executions -/

/-- What the attempts of an execution have left: the records of those that were interrupted after
their commit. -/
def Strayed (g g' : World N L D) : Prop :=
  ∃ n strays, g'.late = g.late + n ∧ strays.length = 4 * n ∧ g'.committed = g.committed ++ strays

/-- How an execution ended: after the strays, the records of a run if it succeeded. -/
structure Ended (context : OrchestrationContext) (g : World N L D) (status : OrchestrationStatus)
    (g' : World N L D) : Prop where
  committed : ∃ g₁ records, Strayed g g₁ ∧ g'.late = g₁.late ∧
    g'.committed = g₁.committed ++ records ∧
    (status = .succeeded ∧ IsRun context records ∨ status ≠ .succeeded ∧ records = [])
  submitted : g'.metrics.submittedRuns = g.metrics.submittedRuns
  settled : g'.metrics.succeededRuns + g'.metrics.failedRuns + g'.metrics.cancelledRuns =
    g.metrics.succeededRuns + g.metrics.failedRuns + g.metrics.cancelledRuns + 1

theorem IsRun.length {records : List (Record N L D)} (h : IsRun context records) :
    records.length = 4 := by
  obtain ⟨_, _, _, _, _, _, _, rfl⟩ := h
  rfl

theorem Strayed.refl : Strayed g g := ⟨0, [], rfl, rfl, (List.append_nil _).symm⟩

theorem Strayed.trans {g'' : World N L D} (h : Strayed g g') (h' : Strayed g' g'') :
    Strayed g g'' := by
  obtain ⟨n, strays, hlate, hlength, hcommitted⟩ := h
  obtain ⟨n', strays', hlate', hlength', hcommitted'⟩ := h'
  refine ⟨n + n', strays ++ strays', ?_, ?_, ?_⟩
  · omega
  · rw [List.length_append]
    omega
  · rw [hcommitted', hcommitted, List.append_assoc]

theorem Failed.strayed (h : Failed context g g') : Strayed g g' ∧ g'.metrics = g.metrics := by
  rcases h with ⟨session, rfl⟩ | ⟨records, hrun, rfl⟩
  · exact ⟨.refl, rfl⟩
  · exact ⟨⟨1, records, rfl, hrun.length, rfl⟩, rfl⟩

theorem sat_startAttempt {Q : Unit → World N L D → Prop} {E : Raised → World N L D → Prop}
    (h : Q () { g with persisted := false }) :
    Sat (aloneOn N L D V) startAttempt g Q E := by
  refine Prog.sat_stmt ?_
  rintro _ g₁ rfl
  exact h

theorem sat_count {metric : Metric} {Q : Unit → World N L D → Prop}
    {E : Raised → World N L D → Prop}
    (h : Q () { g with metrics := g.metrics.count metric }) :
    Sat (aloneOn N L D V) (count metric) g Q E := by
  refine Prog.sat_stmt ?_
  rintro _ g₁ rfl
  exact h

theorem Ended.of_succeeded {records : List (Record N L D)} (hrun : IsRun context records) :
    Ended context g .succeeded
      { g.store records with metrics := g.metrics.count .succeeded } where
  committed := ⟨g, records, .refl, rfl, rfl, .inl ⟨rfl, hrun⟩⟩
  submitted := rfl
  settled := by
    simp only [OrchestrationMetrics.count]
    omega

theorem Ended.of_cancelled (h : Strayed g g') (hmetrics : g'.metrics = g.metrics) :
    Ended context g .cancelled { g' with metrics := g'.metrics.count .cancelled } where
  committed := ⟨g', [], h, rfl, (List.append_nil _).symm, .inr ⟨by decide, rfl⟩⟩
  submitted := by rw [hmetrics]; rfl
  settled := by
    rw [hmetrics]
    simp only [OrchestrationMetrics.count]
    omega

theorem Ended.of_failed (h : Strayed g g') (hmetrics : g'.metrics = g.metrics) :
    Ended context g .failed { g' with metrics := g'.metrics.count .failed } where
  committed := ⟨g', [], h, rfl, (List.append_nil _).symm, .inr ⟨by decide, rfl⟩⟩
  submitted := by rw [hmetrics]; rfl
  settled := by
    rw [hmetrics]
    simp only [OrchestrationMetrics.count]
    omega

/-- An execution that goes on after an attempt that failed. -/
theorem Ended.of_retried {g₁ : World N L D} {status : OrchestrationStatus} (h : Strayed g g₁)
    (hmetrics : g₁.metrics = g.metrics)
    (hended : Ended context { g₁ with metrics := g₁.metrics.count .retried } status g') :
    Ended context g status g' where
  committed := by
    obtain ⟨g₂, records, hstrayed, hrest⟩ := hended.committed
    exact ⟨g₂, records, h.trans hstrayed, hrest⟩
  submitted := by
    rw [hended.submitted, hmetrics]
    rfl
  settled := by
    rw [hended.settled, hmetrics]
    rfl

/-- An attempt ends an execution, or goes on with those that are left. -/
theorem sat_attempt {jobId : UUID} {left : Nat} (last : Option Raised) (g : World N L D)
    (hrest : left ≠ 0 → ∀ last (g : World N L D),
      Sat (aloneOn N L D V) (attempts context jobId left last) g
        (fun result => Ended context g result.status) fun _ _ => True) :
    Sat (aloneOn N L D V) (attempts context jobId (left + 1) last) g
      (fun result => Ended context g result.status) fun _ _ => True := by
  refine sat_bind (sat_startAttempt ?_)
  refine sat_bind (sat_tryCatch (sat_bind ((sat_runOnce rfl).mono (fun result g₁ h => ?_)
    fun e g₁ h => ?_)))
  · obtain ⟨hstatus, records, hrun, rfl⟩ := h
    refine sat_pure (sat_bind (sat_count (sat_bind (sat_publishEvent ?_ fun _ => trivial))))
    refine sat_pure ?_
    rw [hstatus]
    exact Ended.of_succeeded (g := g) hrun
  · obtain ⟨hstrayed, hmetrics⟩ := h.strayed
    cases e with
    | cancelled text =>
      refine sat_pure (sat_bind (sat_count (sat_bind (sat_publishEvent ?_ fun _ => trivial))))
      exact sat_pure (Ended.of_cancelled (g := g) hstrayed hmetrics)
    | other text =>
      refine sat_pure ?_
      dsimp only
      split
      · rename_i hleft
        refine sat_bind (sat_count ((hrest hleft _ _).mono (fun _ _ hended => ?_) fun _ _ h => h))
        exact Ended.of_retried (g := g) hstrayed hmetrics hended
      · refine sat_bind (sat_count (sat_bind (sat_publishEvent ?_ fun _ => trivial)))
        exact sat_pure (Ended.of_failed (g := g) hstrayed hmetrics)

/-- Attempts, of which there is at least one, end an execution. -/
theorem sat_attempts {jobId : UUID} (left : Nat) (last : Option Raised) (g : World N L D) :
    Sat (aloneOn N L D V) (attempts context jobId (left + 1) last) g
      (fun result => Ended context g result.status) fun _ _ => True := by
  induction left generalizing last g with
  | zero => exact sat_attempt last g fun h => absurd rfl h
  | succ left ih => exact sat_attempt last g fun _ => ih

/-- An execution that returns counts one submission more. -/
theorem execution_ended {e : Execution N L D V} (hstep : ExecutionStep g e g') :
    Ended e.context { g with metrics := g.metrics.count .submitted } e.result.status g' := by
  have hsat : Sat (aloneOn N L D V) (execute e.context e.jobId) g
      (fun result => Ended e.context { g with metrics := g.metrics.count .submitted } result.status)
      fun _ _ => True := by
    refine sat_bind (sat_count (sat_bind (sat_publishEvent ?_ fun _ => trivial)))
    obtain ⟨left, hleft⟩ : ∃ left, (max 1 e.context.maxAttempts).toNat = left + 1 :=
      ⟨(max 1 e.context.maxAttempts).toNat - 1, by omega⟩
    rw [hleft]
    exact sat_attempts left none _
  have hpost := Prog.Sat.runs hsat hstep
  exact hpost

/-- An execution is atomic if and only if no attempt of it was interrupted after its commit. -/
theorem execution_atomic_iff {e : Execution N L D V} (haccounted : g.metrics.Accounted)
    (hstep : ExecutionStep g e g') : Atomic g e g' ↔ Uninterrupted g e g' := by
  have hended := execution_ended hstep
  obtain ⟨g₁, records, ⟨n, strays, hlate, hlength, hstrays⟩, hsame, hcommitted, hstatus⟩ :=
    hended.committed
  rw [hstrays, List.append_assoc] at hcommitted
  have hlate' : g'.late = g.late + n := hsame.trans hlate
  have hcount : g'.metrics.Accounted := by
    have hsubmitted := hended.submitted
    have hsettled := hended.settled
    unfold OrchestrationMetrics.Accounted at haccounted ⊢
    simp only [OrchestrationMetrics.count] at hsubmitted hsettled
    omega
  constructor
  · rintro ⟨hatomic, _⟩
    -- what is committed has the length of the strays and of the records
    have hnone : strays.length = 0 := by
      rcases hatomic with ⟨hsucceeded, new, hnew, heq⟩ | ⟨hnot, heq⟩
      · rcases hstatus with ⟨_, hrun⟩ | ⟨hne, _⟩
        · have hlengths := congrArg List.length (hcommitted.symm.trans heq)
          simp only [List.length_append, hnew.length, hrun.length] at hlengths
          omega
        · exact absurd hsucceeded hne
      · have hlengths := congrArg List.length (hcommitted.symm.trans heq)
        simp only [List.length_append] at hlengths
        omega
    unfold Uninterrupted
    omega
  · intro huninterrupted
    unfold Uninterrupted at huninterrupted
    have hnil : strays = [] := List.eq_nil_of_length_eq_zero (by omega)
    rw [hnil, List.nil_append] at hcommitted
    refine ⟨?_, hcount⟩
    rcases hstatus with ⟨hsucceeded, hrun⟩ | ⟨hne, rfl⟩
    · exact .inl ⟨hsucceeded, records, hrun, hcommitted⟩
    · rw [List.append_nil] at hcommitted
      exact .inr ⟨hne, hcommitted⟩

/-- Over any database, with counters at zero, a sequence of executions that return is atomic if and
only if no attempt of them was interrupted after its commit. -/
theorem runs_atomic_iff (committed : List (Record N L D))
    (executions : List (Execution N L D V × World N L D))
    (hrun : Run ExecutionStep { committed := committed } executions) :
    Throughout Atomic { committed := committed } executions ↔
      Throughout Uninterrupted { committed := committed } executions := by
  refine throughout_iff (I := fun g : World N L D => g.metrics.Accounted)
    (fun _ _ _ haccounted hstep => execution_atomic_iff haccounted hstep)
    (fun _ _ _ _ _ hatomic => hatomic.accounted) rfl hrun

/-! ## One execution -/

/-- The token is found set after a commit, or never. -/
def checked (token : Bool) (g : World Unit Unit Unit) : Option String × World Unit Unit Unit :=
  if token && g.persisted then (some "Shutdown.", g.interrupted) else (none, g)

/-- Nothing raises. -/
def respond (token : Bool) : (s : Stmt Unit Unit Unit Unit) → World Unit Unit Unit →
    s.Resp × World Unit Unit Unit
  | .attempt, g => ((), { g with persisted := false })
  | .count metric, g => ((), { g with metrics := g.metrics.count metric })
  | .check, g => checked token g
  | .callback _, g => (.ok (), g)
  | .publish _, g => (.ok (), g)
  | .synchronize _, g => (.ok (), g)
  | .collect, g => (.ok (), g)
  | .compare _ _, g => (.ok (), g)
  | .evaluate _, g => (.ok (), g)
  | .unitOfWork, g => (.ok (), { g with session := [] })
  | .uuid, g => (g.session.length, g)
  | .add record, g => (.ok (), { g with session := g.session ++ [record] })
  | .commit, g =>
    (.ok (), { g with committed := g.committed ++ g.session, session := [], persisted := true })
  | .rollback, g => (.ok (), { g with session := [] })

theorem respond_answers (token : Bool) (g : World Unit Unit Unit) (s : Stmt Unit Unit Unit Unit) :
    g.Answers s (respond token s g).1 (respond token s g).2 := by
  cases s with
  | check =>
    show g.Answers (V := Unit) .check (checked token g).1 (checked token g).2
    unfold checked
    split <;> exact rfl
  | _ => exact rfl

def oneRun : OrchestrationContext := { runId := 1 }

/-- The state after one execution over an empty database. -/
def afterOne (token : Bool) : World Unit Unit Unit :=
  (Prog.eval (respond token) (ExceptT.run (execute oneRun 2)) {}).2

def oneCancelled : OrchestrationResult Unit Unit Unit Unit :=
  .ended oneRun 2 .cancelled "Shutdown."

def oneSucceeded : OrchestrationResult Unit Unit Unit Unit where
  jobId := 2
  runId := 1
  status := .succeeded
  netboxInventory := some ()
  liveSnapshot := some ()
  comparisonResult := some ()
  evaluationDecision := some ()
  persisted := some ⟨0, 1, 2, 3⟩

theorem execute_one : ExecutionStep {} ⟨2, oneRun, oneSucceeded⟩ (afterOne false) := by
  have hruns := Prog.runs_eval (p := ExceptT.run (execute oneRun 2)) (g := {})
    (respond_answers false)
  exact hruns

theorem execute_stopped :
    ExecutionStep {} ⟨2, oneRun, oneCancelled⟩ (afterOne true) := by
  have hruns := Prog.runs_eval (p := ExceptT.run (execute oneRun 2)) (g := {})
    (respond_answers true)
  exact hruns

theorem one_atomic :
    Throughout Atomic {} [(⟨2, oneRun, oneSucceeded⟩, afterOne false)] :=
  (runs_atomic_iff [] [(⟨2, oneRun, oneSucceeded⟩, afterOne false)] ⟨execute_one, trivial⟩).2
    ⟨rfl, trivial⟩

/-- Cancelled after its commit, a run is persisted. -/
theorem cancelled_persists : ¬ ∀ executions :
    List (Execution Unit Unit Unit Unit × World Unit Unit Unit),
    Run ExecutionStep {} executions → Throughout Atomic {} executions := by
  intro h
  have hatomic := (h [(⟨2, oneRun, oneCancelled⟩, afterOne true)]
    ⟨execute_stopped, trivial⟩).1
  rcases hatomic.committed with ⟨hsucceeded, _⟩ | ⟨_, hcommitted⟩
  · cases hsucceeded
  · cases hcommitted

end Orchestration
end NetOps
