import NetOps.Discovery.Execution

/-!
# Discovery.Fanout

The fan-out of a scope job (`DiscoveryFanoutService.execute`, `discovery/fanout.py`). The children
run as coroutines of their own over the session of the scope job: `runChild` is the program of
one, and `Ext.gather` is the point at which the scope job waits for all of them.
-/

namespace NetOps
namespace Discovery
namespace DiscoveryFanoutService

open DiscoveryJobRepository DiscoveryExecutionService

/-- What the fan-out of one scope job works with. -/
structure ScopeArgs where
  tenantId : String
  parentJobId : UUID
  executionOwner : Option UUID := none
  leaseSeconds : DateTime := discoveryJobLeaseSeconds
  leaseCallback : Bool := false
  maxTargets : Nat := defaultMaxTargets

/-! ## Children -/

/-- The end of a cancelled child's result. -/
def cancelledResult (state : DiscoveryJobStatus) (reason : String) (now : DateTime)
    (r : DiscoveryDeviceResultRecord) : DiscoveryDeviceResultRecord :=
  { r with
    state := .job state
    failureCode := some .cancelled
    failureMessage := some reason
    resultState := some .cancelled
    completedAt := some now }

/-- Ask for the cancellation of the child; `none` when it has ended otherwise. -/
def requestChildCancellation (parent child : DiscoveryJobRecord) (requestedBy : UUID) :
    M (Option DiscoveryJobStatus) :=
  tryCatch (do
    let (childJob, _) ← requestCancellation parent.tenantId child.id requestedBy
      (cancellationMessage parent)
    pure (some childJob.state)) fun
    | .cancellationConflict _ => pure none
    | e => throw e

/-- The state of a cancelled child; a scope that nobody is known to have cancelled leaves the
child's job alone. -/
def cancelledState (parent child : DiscoveryJobRecord) : M (Option DiscoveryJobStatus) :=
  match parent.cancellationRequestedBy with
  | some requestedBy => requestChildCancellation parent child requestedBy
  | none => pure (some .cancelled)

/-- The scope's job as the session holds it. -/
def loadedParent (parentJobId : UUID) : M DiscoveryJobRecord := do
  match ← sessionGet .jobs parentJobId with
  | some parent => pure parent
  | none => throw (.raised "Instance has been deleted")

/-- `_cancel_child`. -/
def cancelChild (parentJobId : UUID) (child : DiscoveryJobRecord)
    (result : DiscoveryDeviceResultRecord) : M Unit := do
  let parent ← loadedParent parentJobId
  match ← cancelledState parent child with
  | none => pure ()
  | some state => do
    let now ← utcNow
    let _ ← setResult result (cancelledResult state (cancellationMessage parent) now)
    commit

/-- The classification of a result that the execution left open. -/
def openResultState (job : DiscoveryJobRecord) : DiscoveryResultState :=
  if job.state = .succeeded then .discovered
  else match job.failureCode with
    | some .authenticationFailed => .authenticationFailed
    | some .transportUnavailable => .unverified
    | some .connectionRefused | some .unsupportedCapability | some .unsupportedCredential
    | some .unsupportedPlatform => .reachableNoManagement
    | some .connectionFailed | some .connectionTimeout | some .hostUnreachable
    | some .discoveryTimeout => .unreachable
    | _ => .reachableNoManagement

/-- What an executed child sets on its result. -/
def executedResult (job : DiscoveryJobRecord) (now : DateTime) (r : DiscoveryDeviceResultRecord) :
    DiscoveryDeviceResultRecord :=
  { r with
    state := .job job.state
    selectedTransport := job.selectedTransport
    failureCode := job.failureCode
    failureMessage := job.failureMessage
    completedAt := some now
    resultState := r.resultState <|> some (openResultState job) }

/-- `session.refresh(result)`. -/
def refreshResult (result : DiscoveryDeviceResultRecord) : M DiscoveryDeviceResultRecord := do
  let rows ← select .results fun r => r.id == result.id
  match rows.head? with
  | some r => pure r
  | none => throw (.raised "Could not refresh instance")

/-- The child under the semaphore. -/
def executeChild (rt : Runtime) (a : ScopeArgs) (owner : UUID)
    (child : DiscoveryJobRecord) (result : DiscoveryDeviceResultRecord) : M Unit := do
  let now ← utcNow
  let result ← setResult result fun r => { r with state := .discovering, startedAt := some now }
  commit
  let outcome ← execute rt {
    tenantId := a.tenantId
    jobId := child.id
    parentJobId := some a.parentJobId
    executionOwner := some owner
    leaseSeconds := a.leaseSeconds
    leaseCallback := a.leaseCallback }
  let result ← refreshResult result
  let now ← utcNow
  let _ ← setResult result (executedResult outcome.job now)
  commit

/-- `run_child`. It looks for a cancellation of the scope before and after it has a place. -/
def runChild (rt : Runtime) (a : ScopeArgs) (owner : UUID) (child : DiscoveryJobRecord)
    (result : DiscoveryDeviceResultRecord) : M Unit := do
  let requested ← cancellationRequested a.tenantId a.parentJobId
  if requested = true then cancelChild a.parentJobId child result
  else do
    let requested ← cancellationRequested a.tenantId a.parentJobId
    if requested = true then cancelChild a.parentJobId child result
    else executeChild rt a owner child result

/-! ## execute -/

/-- `_persist_expected_addresses`: an expansion that is recorded already is kept. -/
def persistExpectedAddresses (parent : DiscoveryJobRecord) (addresses : List String) : M Unit := do
  match ← sessionGet .runs parent.runId with
  | none => pure ()
  | some run =>
    doIf (run.metadataJson.expectedAddresses.isNone = true)
      (setRun parent.runId fun r =>
        { r with metadataJson := { run.metadataJson with expectedAddresses := some addresses } })
    flush

/-- The scope of a parent job: the job, its target and whether a cancellation was requested. -/
def loadScope (a : ScopeArgs) : M (DiscoveryJobRecord × DiscoveryTargetRecord) := do
  match ← sessionGet .jobs a.parentJobId with
  | none => throw (.valueError "Discovery parent job was not found.")
  | some parent =>
    if parent.tenantId ≠ a.tenantId then
      throw (.valueError "Discovery parent job was not found.")
    else
      match ← sessionGet .targets parent.targetId with
      | none => throw (.valueError "Discovery scope target was not found.")
      | some target => pure (parent, target)

/-- Create a child for every address. -/
def createChildren (tenantId : String) (parent : DiscoveryJobRecord)
    (scope : DiscoveryTargetRecord) (addresses : List String) :
    M (List (DiscoveryJobRecord × DiscoveryDeviceResultRecord)) :=
  match addresses with
  | [] => pure []
  | address :: addresses => do
    let child ← createChild tenantId parent scope address
    let children ← createChildren tenantId parent scope addresses
    pure (child :: children)

/-- `execute` of the fan-out. -/
def executeScope (a : ScopeArgs) : M (List DiscoveryDeviceResultRecord) := do
  let (parent, target) ← loadScope a
  let requested ← cancellationRequested a.tenantId a.parentJobId
  if requested = true then reconcileParentJob a.tenantId a.parentJobId false a.maxTargets
  else do
    let addresses ← unwrap (target.scope.expand a.maxTargets)
    persistExpectedAddresses parent addresses
    commit
    let children ← createChildren a.tenantId parent target addresses
    commit
    let joined ← ask (.ext (.gather a.parentJobId (children.map fun c => (c.1.id, c.2.id))))
    unwrap joined
    let requested ← cancellationRequested a.tenantId a.parentJobId
    let _ ← reconcileParentJob a.tenantId a.parentJobId (!requested) a.maxTargets
    pure (children.map (·.2))

end DiscoveryFanoutService
end Discovery
end NetOps
