import NetOps.Discovery.Fanout

/-!
# Discovery.Worker

The durable worker (`DiscoveryJobWorker` and `execute_discovery_job`, `discovery/worker.py`): what
one poll recovers and claims, and what becomes of a claimed root job. Heartbeat, job and children
are tasks of their own; each part below is the program of one.

A session that the code opens and closes is a transaction of the task that starts from nothing:
`rollback` stands for the close.
-/

namespace NetOps
namespace Discovery

open DiscoveryJobRepository DiscoveryFanoutService DiscoveryExecutionService Text

/-! ## execute_discovery_job -/

structure OwnedJob where
  tenantId : String
  jobId : UUID
  executionOwner : UUID
  leaseSeconds : DateTime := discoveryJobLeaseSeconds
  alreadyClaimed : Bool := true
  leaseCallback : Bool := true

/-- `any(result.state == "succeeded" for result in results)`, of the results in memory. -/
def anySucceeded : List DiscoveryDeviceResultRecord → M Bool
  | [] => pure false
  | result :: results => do
    let current ← sessionGet .results result.id
    if current.any (fun r => r.state == .job .succeeded) = true then pure true
    else anySucceeded results

/-- The scope job after its fan-out. -/
def finishScope (a : OwnedJob) (results : List DiscoveryDeviceResultRecord) : M Unit := do
  let requested ← cancellationRequested a.tenantId a.jobId
  if requested = true then do
    let _ ← finaliseCancellation a.tenantId a.jobId (some a.executionOwner)
    commit
  else do
    let succeeded ← anySucceeded results
    let _ ← transition {
      tenantId := a.tenantId
      jobId := a.jobId
      targetState := if succeeded = true then .succeeded else .failed
      requireNoCancellation := true
      expectedExecutionOwner := some a.executionOwner }
    commit

def runScope (a : OwnedJob) : M Unit := do
  doIf (a.alreadyClaimed = false) do
    let _ ← claim a.tenantId a.jobId (some a.executionOwner) a.leaseSeconds
    commit
  let results ← executeScope {
    tenantId := a.tenantId
    parentJobId := a.jobId
    executionOwner := some a.executionOwner
    leaseSeconds := a.leaseSeconds
    leaseCallback := a.leaseCallback }
  finishScope a results

/-- `except InvalidDiscoveryTransitionError` of a scope job. -/
def scopeConflict (a : OwnedJob) (message : String) : M (Option DiscoveryJobRecord) := do
  rollback
  let current ← get a.tenantId a.jobId
  if current.any (fun j => j.state == .cancelled) = true then pure current
  else do
    let requested ← cancellationRequested a.tenantId a.jobId
    raiseIf (requested = false) (.invalidTransition message)
    let _ ← finaliseCancellation a.tenantId a.jobId (some a.executionOwner)
    commit
    get a.tenantId a.jobId

def executeScopeJob (a : OwnedJob) : M (Option DiscoveryJobRecord) := do
  match ← catching (runScope a) with
  | .ok _ => get a.tenantId a.jobId
  | .error (.invalidTransition message) => scopeConflict a message
  | .error e => throw e

/-- `DiscoveryTargetRepository.get`. -/
def findTargetById (tenantId : String) (targetId : UUID) : M (Option DiscoveryTargetRecord) := do
  let rows ← select .targets fun t => t.id == targetId && t.tenantId == tenantId
  pure rows.head?

/-- The target is a scope that fans out. -/
def isScope (target : Option DiscoveryTargetRecord) : Bool :=
  target.any fun t => t.scopeType.fansOut

/-- `execute_discovery_job` inside its session. -/
def executeOwned (rt : Runtime) (a : OwnedJob) : M (Option DiscoveryJobRecord) := do
  match ← get a.tenantId a.jobId with
  | none => pure none
  | some job =>
    if job.state = .cancelled then pure (some job)
    else do
      let target ← findTargetById a.tenantId job.targetId
      if isScope target = true then executeScopeJob a
      else do
        let outcome ← execute rt {
          tenantId := a.tenantId
          jobId := a.jobId
          executionOwner := some a.executionOwner
          leaseSeconds := a.leaseSeconds
          alreadyClaimed := a.alreadyClaimed
          leaseCallback := a.leaseCallback }
        pure (some outcome.job)

/-- Run `m` in a session of its own: the session is closed however `m` ends. -/
def inSession {α : Type} (m : M α) : M α := do
  let r ← catching m
  rollback
  unwrap r

def executeDiscoveryJob (rt : Runtime) (a : OwnedJob) : M (Option DiscoveryJobRecord) :=
  inSession (executeOwned rt a)

namespace DiscoveryJobWorker

/-- Run `m` in a session of its own; what it raises is logged and dropped. -/
def quietly (m : M Unit) : M Unit := do
  let _ ← catching m
  rollback

/-! ## The end of a job whose execution raised -/

/-- `str(exc).strip() or "Discovery execution failed."`, cut to 1000 characters. -/
def errorMessage (e : Exn) : String :=
  take 1000 (orElse (strip e.text) "Discovery execution failed.")

/-- The transition of `_fail_owned_job`. It does not ask for a missing cancellation request. -/
def failTransition (tenantId : String) (jobId owner : UUID) (e : Exn) : Transition where
  tenantId := tenantId
  jobId := jobId
  targetState := .failed
  failureCode := some .discoveryFailed
  failureMessage := some (errorMessage e)
  expectedExecutionOwner := some owner

def failOwned (tenantId : String) (jobId owner : UUID) (e : Exn) : M Unit := do
  match ← get tenantId jobId with
  | none => pure ()
  | some current =>
    if current.state ≠ .running ∨ current.executionOwner ≠ some owner then pure ()
    else do
      let _ ← transition (failTransition tenantId jobId owner e)
      let target ← findTargetById tenantId current.targetId
      if isScope target = true then do
        let _ ← reconcileParentJob tenantId jobId true defaultMaxTargets
        pure ()
      else commit

/-- `_fail_owned_job`. -/
def failOwnedJob (tenantId : String) (jobId owner : UUID) (e : Exn) : M Unit :=
  quietly (failOwned tenantId jobId owner e)

/-- `_abandon_if_owned`. -/
def abandonIfOwned (tenantId : String) (jobId owner : UUID) : M Unit :=
  quietly do
    let _ ← abandonOwnedJob tenantId jobId owner heartbeatLostMessage
    commit

/-! ## _run_owned_job -/

/-- What follows the execution of an owned job. -/
def afterExecution {α : Type} (tenantId : String) (jobId owner : UUID) : Except Exn α → M Unit
  | .ok _ => pure ()
  | .error e => do
    let lost ← ask (.ext .leaseLost)
    doIf (lost = false) (failOwnedJob tenantId jobId owner e)

def runOwnedJob (rt : Runtime) (tenantId : String) (jobId owner : UUID) (leaseSeconds : DateTime) :
    M Unit := do
  let r ← catching (executeDiscoveryJob rt {
    tenantId := tenantId
    jobId := jobId
    executionOwner := owner
    leaseSeconds := leaseSeconds })
  afterExecution tenantId jobId owner r
  let lost ← ask (.ext .leaseLost)
  doIf (lost = true) (abandonIfOwned tenantId jobId owner)

/-! ## _heartbeat -/

/-- One renewal; `false` when the lease is lost. -/
def renewOnce (tenantId : String) (jobId owner : UUID) (leaseSeconds : DateTime) : M Bool :=
  inSession do
    let renewed ← renewLease tenantId jobId owner leaseSeconds
    commit
    pure renewed

/-- `_heartbeat`, for as many beats as the job takes. -/
def heartbeat (tenantId : String) (jobId owner : UUID) (leaseSeconds : DateTime) : Nat → M Unit
  | 0 => pure ()
  | beats + 1 => do
    match ← catching (renewOnce tenantId jobId owner leaseSeconds) with
    | .ok true => heartbeat tenantId jobId owner leaseSeconds beats
    | _ => abandonIfOwned tenantId jobId owner

/-! ## Polling -/

/-- The recovery of one expired job. -/
def recoverOne (tenantId : String) (jobId : UUID) : M Unit :=
  doIf (jobId ≠ protectedDiscoveryJobId) (quietly do
    let now ← utcNow
    let _ ← recoverExpiredOwnedJob tenantId jobId now
    commit)

/-- `recover_expired_jobs`. -/
def recoverExpiredJobs : M Unit := do
  let expired ← inSession do
    let now ← utcNow
    recoverExpiredOwnedJobs now
  expired.forM fun e => recoverOne e.1 e.2

/-- The claim of one candidate, under a new owner. -/
def claimOne (tenantId : String) (jobId : UUID) (leaseSeconds : DateTime) :
    M (Option (String × UUID × UUID)) :=
  if jobId = protectedDiscoveryJobId then pure none
  else do
    let owner ← uuid4
    let r ← catching do
      let _ ← claim tenantId jobId (some owner) leaseSeconds
      commit
    rollback
    pure (match r with
      | .ok _ => some (tenantId, jobId, owner)
      | .error _ => none)

def claimAll (leaseSeconds : DateTime) : List (String × UUID) → M (List (String × UUID × UUID))
  | [] => pure []
  | (tenantId, jobId) :: candidates => do
    let claimed ← claimOne tenantId jobId leaseSeconds
    let rest ← claimAll leaseSeconds candidates
    pure (claimed.toList ++ rest)

/-- `claim_queued_jobs`. -/
def claimQueuedJobs (claimLimit : Nat) (leaseSeconds : DateTime) :
    M (List (String × UUID × UUID)) := do
  let candidates ← inSession (listQueuedRoots claimLimit)
  claimAll leaseSeconds candidates

end DiscoveryJobWorker
end Discovery
end NetOps
