import NetOps.Discovery.Records

/-!
# Discovery.Jobs

`DiscoveryJobRepository` (`persistence/discovery_repositories.py`): the operations on one job.
The operations that end a whole scope are in `Discovery.Trees`.

Every `UPDATE` is a `JobUpdate` of its own, so that what a statement changes can be said without
the function around it. The ORM refreshes a loaded job when an `UPDATE` matches it; where the code
reads the job again afterwards, the model reads `u.values job`.
-/

namespace NetOps
namespace Discovery

open Conc

/-- `UPDATE discovery_jobs SET values WHERE filter RETURNING id`. -/
structure JobUpdate where
  site : Site
  filter : DiscoveryJobRecord → Bool
  values : DiscoveryJobRecord → DiscoveryJobRecord

namespace JobUpdate

def statement (u : JobUpdate) : Statement := .update u.site .jobs u.filter u.values

def execute (u : JobUpdate) : M (List UUID) := update u.site .jobs u.filter u.values

end JobUpdate

/-- The columns every terminating `UPDATE` sets beside the state. -/
def DiscoveryJobRecord.release (r : DiscoveryJobRecord) (now : DateTime) : DiscoveryJobRecord :=
  { r with
    completedAt := some now
    executionOwner := none
    leaseExpiresAt := none
    lastHeartbeatAt := none }

namespace DiscoveryJobRepository

/-! ## Reads -/

def get (tenantId : String) (jobId : UUID) : M (Option DiscoveryJobRecord) := do
  let rows ← select .jobs fun r => r.id == jobId && r.tenantId == tenantId
  pure rows.head?

/-- `get` where the code goes on without a check for `None`. -/
def getExisting (tenantId : String) (jobId : UUID) : M DiscoveryJobRecord := do
  match ← get tenantId jobId with
  | some job => pure job
  | none => throw (.raised "'NoneType' object has no attribute 'id'")

def listQueuedRoots (limit : Nat) : M (List (String × UUID)) := do
  let rows ← select .jobs fun r =>
    r.state == .queued && r.parentJobId.isNone && r.id != protectedDiscoveryJobId &&
      r.executionOwner.isNone && r.leaseExpiresAt.isNone && r.lastHeartbeatAt.isNone
  let ordered := rows.mergeSort fun a b => decide (a.requestedAt ≤ b.requestedAt)
  pure ((ordered.take limit).map fun r => (r.tenantId, r.id))

def ownedRunningJob (tenantId : String) (jobId executionOwner : UUID) :
    M (Option DiscoveryJobRecord) := do
  let rows ← select .jobs fun r =>
    r.id == jobId && r.tenantId == tenantId && r.state == .running &&
      r.executionOwner == some executionOwner
  pure rows.head?

/-- Two reads, of the request column and of the state column. -/
def cancellationRequested (tenantId : String) (jobId : UUID) : M Bool := do
  let rows ← select .jobs fun r => r.id == jobId && r.tenantId == tenantId
  if (rows.head?.bind (·.cancellationRequestedAt)).isSome then
    pure true
  else
    let rows ← select .jobs fun r => r.id == jobId && r.tenantId == tenantId
    pure (rows.head?.map (·.state) == some .cancelled)

def recoverExpiredOwnedJobs (staleBefore : DateTime) : M (List (String × UUID)) := do
  let rows ← select .jobs fun r =>
    r.state == .running && r.parentJobId.isNone && r.id != protectedDiscoveryJobId &&
      r.executionOwner.isSome && r.lastHeartbeatAt.isSome &&
      r.leaseExpiresAt.any (· < staleBefore)
  pure (rows.map fun r => (r.tenantId, r.id))

/-! ## create -/

structure JobRequest where
  tenantId : String
  targetId : UUID
  runId : UUID
  parentJobId : Option UUID := none
  requestedCapabilities : PyDict := []
  timeoutSeconds : Option DateTime := none
  correlationId : Option String := none

def JobRequest.record (a : JobRequest) (id : UUID) (now : DateTime) : DiscoveryJobRecord where
  id := id
  tenantId := a.tenantId
  targetId := a.targetId
  runId := a.runId
  parentJobId := a.parentJobId
  requestedAt := now
  requestedCapabilities := a.requestedCapabilities
  timeoutSeconds := a.timeoutSeconds
  correlationId := a.correlationId

def create (a : JobRequest) : M DiscoveryJobRecord := do
  let target ← sessionGet .targets a.targetId
  let run ← sessionGet .runs a.runId
  raiseIf (!target.any (·.tenantId == a.tenantId))
    (.resourceNotFound "Discovery target was not found.")
  raiseIf (!run.any fun r => r.tenantId.isNone || r.tenantId == some a.tenantId)
    (.resourceNotFound "Discovery run was not found.")
  let active ← select .jobs fun r =>
    r.tenantId == a.tenantId && r.targetId == a.targetId && !r.state.isTerminal
  raiseIf (!active.isEmpty)
    (.duplicateActive "A discovery execution is already active for this target.")
  let record := a.record (← uuid4) (← utcNow)
  tryCatch (insert .jobs record) fun
    | .db .integrity => do
      rollback
      throw (.duplicateActive "A discovery execution is already active for this target.")
    | e => throw e
  pure record

/-! ## claim -/

def claimUpdate (tenantId : String) (jobId owner : UUID) (leaseSeconds now : DateTime) :
    JobUpdate where
  site := .claim
  filter r := r.id == jobId && r.tenantId == tenantId && r.state == .queued &&
    r.executionOwner.isNone && r.leaseExpiresAt.isNone && r.lastHeartbeatAt.isNone
  values r := { r with
    state := .running
    startedAt := some now
    attempts := r.attempts + 1
    executionOwner := some owner
    leaseExpiresAt := some (now + leaseSeconds)
    lastHeartbeatAt := some now }

def claim (tenantId : String) (jobId : UUID) (executionOwner : Option UUID)
    (leaseSeconds : DateTime) : M DiscoveryJobRecord := do
  raiseIf (jobId = protectedDiscoveryJobId)
    (.invalidTransition "Protected discovery job cannot be claimed.")
  raiseIf (leaseSeconds ≤ 0) (.invalidTransition "A positive lease is required.")
  let owner ← ownerOrNew executionOwner
  let some _ ← get tenantId jobId
    | throw (.resourceNotFound "Discovery job was not found.")
  let ids ← (claimUpdate tenantId jobId owner leaseSeconds (← utcNow)).execute
  if ids.isEmpty then
    rollback
    throw (.invalidTransition "Only queued discovery jobs can be claimed.")
  else do
    flush
    getExisting tenantId jobId

/-! ## renew_lease -/

def renewLeaseUpdate (tenantId : String) (jobId executionOwner : UUID)
    (leaseSeconds now : DateTime) : JobUpdate where
  site := .renewLease
  filter r := r.tenantId == tenantId && r.executionOwner == some executionOwner &&
    r.state == .running && (r.id == jobId || r.parentJobId == some jobId)
  values r := { r with
    leaseExpiresAt := some (now + leaseSeconds)
    lastHeartbeatAt := some now }

def renewLease (tenantId : String) (jobId executionOwner : UUID) (leaseSeconds : DateTime) :
    M Bool := do
  let now ← utcNow
  let ids ← (renewLeaseUpdate tenantId jobId executionOwner leaseSeconds now).execute
  if ids.isEmpty then
    rollback
    pure false
  else do
    flush
    pure true

/-! ## transition -/

/-- The arguments of `transition`. -/
structure Transition where
  tenantId : String
  jobId : UUID
  targetState : DiscoveryJobStatus
  failureCode : Option DiscoveryFailureCode := none
  failureMessage : Option String := none
  requireNoCancellation : Bool := false
  expectedExecutionOwner : Option UUID := none

def transitionUpdate (a : Transition) (state : DiscoveryJobStatus) (now : DateTime) :
    JobUpdate where
  site := .transition a.targetState a.requireNoCancellation
  filter r := r.id == a.jobId && r.tenantId == a.tenantId && r.state == state &&
    (!a.requireNoCancellation || r.cancellationRequestedAt.isNone) &&
    (a.expectedExecutionOwner.isNone || r.executionOwner == a.expectedExecutionOwner)
  values r :=
    let r := { r with
      state := a.targetState
      failureCode := a.failureCode <|> r.failureCode
      failureMessage := a.failureMessage <|> r.failureMessage }
    if a.targetState.isTerminal then r.release now else r

def transition (a : Transition) : M DiscoveryJobRecord := do
  let some job ← get a.tenantId a.jobId
    | throw (.resourceNotFound "Discovery job was not found.")
  match transitionJob job.state a.targetState with
  | .error message => throw (.invalidTransition message)
  | .ok _ =>
    let ids ← (transitionUpdate a job.state (← utcNow)).execute
    if ids.isEmpty then
      rollback
      throw (.invalidTransition
        "Discovery job changed state before transition could be applied.")
    else do
      flush
      getExisting a.tenantId a.jobId

/-! ## finalise_cancellation -/

def cancellationMessage (job : DiscoveryJobRecord) : String :=
  match job.cancellationReason with
  | some reason => if reason = "" then "Cancelled by operator." else reason
  | none => "Cancelled by operator."

def finaliseCancellation (tenantId : String) (jobId : UUID)
    (expectedExecutionOwner : Option UUID) : M DiscoveryJobRecord := do
  let some job ← get tenantId jobId
    | throw (.resourceNotFound "Discovery job was not found.")
  if job.state = .cancelled then
    pure job
  else if job.cancellationRequestedAt.isNone then
    throw (.invalidTransition "Cancellation was not requested.")
  else
    transition {
      tenantId := tenantId
      jobId := jobId
      targetState := .cancelled
      failureCode := some .cancelled
      failureMessage := some (cancellationMessage job)
      expectedExecutionOwner := expectedExecutionOwner }

/-! ## record_selection -/

def recordSelectionUpdate (tenantId : String) (jobId : UUID)
    (selectedTransport selectedPlatform : Option String) : JobUpdate where
  site := .recordSelection
  filter r := r.id == jobId && r.tenantId == tenantId
  values r := { r with
    selectedTransport := selectedTransport
    selectedPlatform := selectedPlatform }

def recordSelection (tenantId : String) (jobId : UUID)
    (selectedTransport selectedPlatform : Option String) : M DiscoveryJobRecord := do
  let some job ← get tenantId jobId
    | throw (.resourceNotFound "Discovery job was not found.")
  raiseIf (job.state ≠ .running)
    (.invalidTransition "Selection metadata requires a running discovery job.")
  let _ ← (recordSelectionUpdate tenantId jobId selectedTransport selectedPlatform).execute
  flush
  getExisting tenantId jobId

/-! ## mark_failed_after_rollback -/

def markFailedAfterRollback (tenantId : String) (jobId : UUID)
    (failureCode : DiscoveryFailureCode) (failureMessage : String)
    (expectedExecutionOwner : Option UUID) : M DiscoveryJobRecord := do
  rollback
  transition {
    tenantId := tenantId
    jobId := jobId
    targetState := .failed
    failureCode := some failureCode
    failureMessage := some failureMessage
    requireNoCancellation := true
    expectedExecutionOwner := expectedExecutionOwner }

end DiscoveryJobRepository
end Discovery
end NetOps
