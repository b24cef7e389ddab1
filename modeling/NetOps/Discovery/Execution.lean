import NetOps.Discovery.MultiTransport
import NetOps.Discovery.Trees

/-!
# Discovery.Execution

`DiscoveryExecutionService` (`discovery/execution.py`): the execution of one discovery job, over
a single transport or over the fallback chain of a policy.

An attribute changed on a loaded record waits for the next flush (`change`). A record added to the
session is inserted where the code adds it: its id is new, so nobody meets it before the commit.
-/

namespace NetOps
namespace Discovery

open Text DiscoveryJobRepository

/-- `DiscoveryExecutionOutcome`. -/
structure DiscoveryExecutionOutcome where
  job : DiscoveryJobRecord
  executed : Bool
  evidenceCount : Nat := 0

namespace DiscoveryExecutionService

/-! ## Messages and codes -/

/-- `_failure_code`. -/
def failureCode (e : Exn) : DiscoveryFailureCode :=
  match e with
  | .executionFailure code _ => code
  | .credentialResolution _ | .secretProvider _ => .credentialResolutionFailed
  | .transportUnavailable _ => .transportUnavailable
  | .timeout _ => .discoveryTimeout
  | e =>
    if e.isPersistenceError then .evidencePersistenceFailed
    else
      let message := lower e.text
      if hasAny ["authentication", "unauthorized", "credential"] message then
        .authenticationFailed
      else if hasPart "timeout" message || hasPart "timed out" message then .connectionTimeout
      else if hasPart "refused" message then .connectionRefused
      else if hasPart "transport" message || hasPart "connection" message then
        .transportUnavailable
      else .discoveryFailed

/-- `_safe_failure_message`. -/
def safeFailureMessage (redact : String → String) (e : Exn) : String :=
  let message := strip e.text
  if message = "" then "Discovery execution failed."
  else orElse (take 1000 (redact message)) "Discovery execution failed."

/-- `_payload_string`, with a metadata entry as the fallback. -/
def payloadString (payload : PyDict) (key : String) (fallback : PyVal) : Option String :=
  match (payload.get? key).getD fallback with
  | .none => none
  | value => some value.text

/-- `str(metadata.get("transport_name", "unknown"))`. -/
def transportNameOf (metadata : PyDict) : String :=
  ((metadata.get? "transport_name").getD (.str "unknown")).text

/-! ## The cancellation check -/

/-- Whose cancellation a check looks at. `leaseCallback`: a `lease_lost` callback was given. -/
structure Watch where
  tenantId : String
  jobId : UUID
  parentJobId : Option UUID
  leaseCallback : Bool

def leaseIsLost (given : Bool) : M Bool := if given then ask (.ext .leaseLost) else pure false

/-- The request on the parent, passed on to the job. -/
def passCancellationOn (tenantId : String) (jobId : UUID) (parent : Option DiscoveryJobRecord) :
    M Unit :=
  match parent with
  | none => pure ()
  | some parent =>
    match parent.cancellationRequestedBy with
    | none => pure ()
    | some requestedBy => do
      let _ ← requestCancellation tenantId jobId requestedBy (cancellationMessage parent)
      pure ()

/-- `_raise_if_cancelled`. -/
def raiseIfCancelled (w : Watch) : M Unit := do
  let lost ← leaseIsLost w.leaseCallback
  raiseIf (lost = true) .leaseLost
  let requested ← cancellationRequested w.tenantId w.jobId
  raiseIf (requested = true) .cancellationRequested
  match w.parentJobId with
  | none => pure ()
  | some parentJobId => do
    let requested ← cancellationRequested w.tenantId parentJobId
    doIf (requested = true) do
      let parent ← get w.tenantId parentJobId
      passCancellationOn w.tenantId w.jobId parent
      throw .cancellationRequested

/-! ## Targets and collectors -/

/-- `_resolve_target`. -/
def resolveTarget (job : DiscoveryJobRecord) (tenantId : String) :
    M DiscoveryTargetRecordView := do
  match ← sessionGet .targets job.targetId with
  | none => throw (.executionFailure .targetNotFound "Discovery target was not found.")
  | some target =>
    if target.tenantId ≠ tenantId then
      throw (.executionFailure .targetNotFound "Discovery target was not found.")
    else pure target.view

/-- `collector.build_context`: the target's metadata under the job's own entries. -/
def buildContext (job : DiscoveryJobRecord) (target : DiscoveryTarget) : CollectorContext where
  target := target
  runId := job.runId
  jobId := job.id
  metadata := (target.metadata.set "job_id" (.str (uuidText job.id))).set "cancellation_check"
    (.other true (some "<function>") none)

def collectorTarget (target : DiscoveryTargetRecordView) : DiscoveryTarget where
  identifier := target.identifier
  address := target.address
  tenantId := target.tenantId
  metadata := target.metadata

/-- `_resolve_collector`. -/
def resolveCollector (registry : CollectorRegistry) (job : DiscoveryJobRecord)
    (target : DiscoveryTargetRecordView) : Except Exn (Collector × CollectorContext) := do
  let capabilities ← requestedCapabilities job
  let context := buildContext job (collectorTarget target)
  match requestedCollector job with
  | some name =>
    match registry.get name with
    | some collector => .ok (collector, context)
    | none => .error (.executionFailure .unsupportedPlatform
        "No supported collector was found for the target.")
  | none =>
    match (registry.select capabilities).head? with
    | some collector => .ok (collector, context)
    | none => .error (.executionFailure .unsupportedCapability
        "No collector supports the requested capabilities.")

/-! ## Device results -/

def findDeviceResult (tenantId : String) (jobId : UUID) :
    M (Option DiscoveryDeviceResultRecord) := do
  let rows ← select .results fun r => r.childJobId == jobId && r.tenantId == tenantId
  pure rows.head?

/-- A new result of a job in state `state`. -/
def newDeviceResult (job : DiscoveryJobRecord) (discoveryJobId : UUID) (tenantId address : String)
    (state : DiscoveryJobStatus) (id : UUID) : DiscoveryDeviceResultRecord where
  id := id
  tenantId := tenantId
  discoveryJobId := discoveryJobId
  childJobId := job.id
  address := address
  state := .job state
  correlationId := job.correlationId

/-- The device result an attempt belongs to, created if there is none. -/
def attemptResult (job : DiscoveryJobRecord) (target : DiscoveryTargetRecordView) :
    M DiscoveryDeviceResultRecord := do
  match ← findDeviceResult target.tenantId job.id with
  | some result => pure result
  | none => do
    let now ← utcNow
    let id ← uuid4
    let result := { newDeviceResult job job.id target.tenantId target.address .running id with
      startedAt := some now }
    insert .results result
    pure result

/-- `_start_transport_attempt`. -/
def startTransportAttempt (job : DiscoveryJobRecord) (target : DiscoveryTargetRecordView) :
    M DiscoveryTransportAttemptRecord := do
  let result ← attemptResult job target
  DiscoveryTransportAttemptRepository.start target.tenantId result.id
    (transportNameOf target.metadata) 1 job.correlationId

/-- What a processed snapshot sets on the result of its job. -/
def discoveredValues (target : DiscoveryTargetRecordView) (snapshot : ProcessedSnapshot)
    (selectedTransport : Option String) (resultState : DiscoveryResultState) (now : DateTime)
    (r : DiscoveryDeviceResultRecord) : DiscoveryDeviceResultRecord :=
  { r with
    address := orElse (snapshot.managementIp.getD "") target.address
    hostname := snapshot.name
    vendor := snapshot.manufacturer
    platform := snapshot.platform
    state := .job .succeeded
    selectedTransport := selectedTransport
    failureCode := none
    failureMessage := none
    resultState := some resultState
    completedAt := some now }

/-- `_record_device_result`. -/
def recordDeviceResult (job : DiscoveryJobRecord) (target : DiscoveryTargetRecordView)
    (snapshot : ProcessedSnapshot) (selectedTransport : Option String)
    (resultState : DiscoveryResultState) : M Unit := do
  let existing ← findDeviceResult target.tenantId job.id
  let now ← utcNow
  let values := discoveredValues target snapshot selectedTransport resultState now
  match existing with
  | some result => do
    let _ ← setResult result values
    pure ()
  | none => do
    let id ← uuid4
    insert .results (values
      { newDeviceResult job job.id target.tenantId target.address .succeeded id with
        startedAt := job.startedAt })

/-- The classification of a failed job by its failure code. -/
def failureResultState : DiscoveryFailureCode → DiscoveryResultState
  | .connectionFailed | .connectionTimeout | .hostUnreachable | .discoveryTimeout => .unreachable
  | .authenticationFailed => .authenticationFailed
  | _ => .reachableNoManagement

def failedValues (target : DiscoveryTargetRecordView) (code : DiscoveryFailureCode)
    (message : Option String) (selectedTransport : Option String) (now : DateTime)
    (r : DiscoveryDeviceResultRecord) : DiscoveryDeviceResultRecord :=
  { r with
    address := target.address
    state := .job .failed
    resultState := some (failureResultState code)
    selectedTransport := selectedTransport
    failureCode := some code
    failureMessage := message
    completedAt := some now }

/-- `job.started_at or datetime.now(UTC)`. -/
def startedOr (job : DiscoveryJobRecord) : M DateTime :=
  match job.startedAt with
  | some t => pure t
  | none => utcNow

/-- `_ensure_device_result_for_failure`. -/
def ensureDeviceResultForFailure (job : DiscoveryJobRecord) (target : DiscoveryTargetRecordView)
    (code : DiscoveryFailureCode) (message : Option String) (selectedTransport : Option String) :
    M Unit := do
  let existing ← findDeviceResult target.tenantId job.id
  let now ← utcNow
  let values := failedValues target code message selectedTransport now
  match existing with
  | some result => do
    let _ ← setResult result values
    flush
  | none => do
    let startedAt ← startedOr job
    let id ← uuid4
    insert .results (values
      { newDeviceResult job job.id target.tenantId target.address .failed id with
        startedAt := some startedAt })

/-! ## Evidence and snapshots -/

/-- `_build_evidence` and `DiscoveryEvidenceRepository.create`. -/
def createEvidence (job : DiscoveryJobRecord) (target : DiscoveryTargetRecordView)
    (collector : Collector) : M Unit := do
  let observedAt ← utcNow
  let id ← uuid4
  let jobRow ← sessionGet .jobs job.id
  let targetRow ← sessionGet .targets target.id
  let runRow ← sessionGet .runs job.runId
  raiseIf (!jobRow.any (·.tenantId == target.tenantId))
    (.resourceNotFound "Discovery job was not found.")
  raiseIf (!targetRow.any (·.tenantId == target.tenantId))
    (.resourceNotFound "Discovery target was not found.")
  raiseIf (!runRow.any fun r => r.tenantId.isNone || r.tenantId == some target.tenantId)
    (.resourceNotFound "Discovery run was not found.")
  raiseIf (!jobRow.any fun j => j.targetId == target.id && j.runId == job.runId)
    (.persistence "Evidence relationships do not match the discovery job.")
  insert .evidence {
    id := id
    tenantId := target.tenantId
    jobId := job.id
    targetId := target.id
    runId := job.runId
    collector := collector.name
    observedAt := observedAt
    sequence := 0 }

/-- `process_collector_payload`. -/
def processPayload (jobId : UUID) : M ProcessedSnapshot := do
  let r ← ask (.ext (.processPayload jobId))
  unwrap r

/-- `add_live_snapshot`. -/
def addLiveSnapshot (tenantId : String) (runId : UUID) (snapshot : ProcessedSnapshot) :
    M Unit := do
  let id ← uuid4
  insert .snapshots {
    id := id
    tenantId := tenantId
    sourceLabel := snapshot.source
    discoveryRunId := some runId }

def resultCounts (resultState : DiscoveryResultState) (r : DiscoveryRunRecord) :
    DiscoveryRunRecord :=
  { r with
    totalScanned := 1
    totalDiscovered := if resultState = .discovered then 1 else 0
    totalUnreachable := if resultState = .unreachable then 1 else 0
    totalReachableNoManagement := if resultState = .reachableNoManagement then 1 else 0
    totalAuthenticationFailed := if resultState = .authenticationFailed then 1 else 0
    totalPartialDiscovery := if resultState = .partialDiscovery then 1 else 0 }

/-- `_finalize_single_device_run`. -/
def finalizeSingleDeviceRun (runId : UUID) (resultState : DiscoveryResultState) : M Unit := do
  match ← sessionGet .runs runId with
  | none => pure ()
  | some _ => do
    let now ← utcNow
    setRun runId fun r => { resultCounts resultState r with
      status := if resultState = .discovered then .succeeded else .failed
      finishedAt := some now }

/-! ## The multi-transport path -/

open MultiTransportDiscoveryOrchestrator

/-- `_record_unsupported_credential_attempt`; what it raises is dropped. -/
def recordUnsupportedCredentialAttempt (job : DiscoveryJobRecord)
    (target : DiscoveryTargetRecordView) (transportName : String) : M Unit :=
  tryCatch (do
    match ← findDeviceResult target.tenantId job.id with
    | none => pure ()
    | some result => do
      let existing ← select .attempts fun a =>
        a.deviceResultId == result.id && a.transport == transportName
      doIf (existing = []) do
        let attempt ← DiscoveryTransportAttemptRepository.start target.tenantId result.id
          transportName 0 job.correlationId
        DiscoveryTransportAttemptRepository.finish attempt .failed (some .unsupportedCredential)
          none) fun _ => pure ()

/-- The policy does not allow the transport of the entry. -/
def forbidden (policy : MultiTransportPolicy) (entry : TransportPolicyEntry) : Bool :=
  (entry.capability == .telnet && !policy.allowInsecure) ||
    (entry.capability == .http && !policy.allowInsecureHttp)

/-- The collector of one transport: the requested one, else one that supports the transport, else
any. -/
def chainCollector (registry : CollectorRegistry) (job : DiscoveryJobRecord)
    (transportName : String) : Except Exn (Option Collector) := do
  let capabilities ← match transportToCollectorCapability (lower transportName) with
    | some c => .ok [c]
    | none => requestedCapabilities job
  .ok ((requestedCollector job).bind registry.get <|> (registry.select capabilities).head? <|>
    (registry.select []).head?)

/-- What a collector is told of the target when it is to use one transport. -/
def chainTarget (target : DiscoveryTargetRecordView) (transportName : String) :
    DiscoveryTarget where
  identifier := s!"{target.identifier}:{transportName}"
  address := target.address
  tenantId := target.tenantId
  metadata := target.metadata.set "transport_name" (.str transportName)

/-- The configuration of one entry of the policy, if it can be attempted. -/
def chainConfig (registry : CollectorRegistry) (job : DiscoveryJobRecord)
    (target : DiscoveryTargetRecordView) (policy : MultiTransportPolicy) (w : Watch)
    (entry : TransportPolicyEntry) : Option TransportAttemptConfig :=
  if entry.credentialCompatible = false || forbidden policy entry then none
  else match chainCollector registry job entry.transportName with
    | .ok (some collector) => some {
        transportName := entry.transportName
        capability := entry.capability
        collector := collector
        context := buildContext job (chainTarget target entry.transportName)
        isInsecure := entry.isInsecure
        cancellationCheck := raiseIfCancelled w }
    | _ => none

/-- The configurations `_build_transport_configs` returns. -/
def buildTransportConfigs (registry : CollectorRegistry) (job : DiscoveryJobRecord)
    (target : DiscoveryTargetRecordView) (policy : MultiTransportPolicy) (w : Watch) :
    List TransportAttemptConfig :=
  policy.transports.filterMap (chainConfig registry job target policy w)

/-- The attempts `_build_transport_configs` records on the way. -/
def recordUnsupportedCredentials (job : DiscoveryJobRecord) (target : DiscoveryTargetRecordView)
    (policy : MultiTransportPolicy) : M Unit :=
  policy.transports.forM fun entry =>
    doIf (entry.credentialCompatible = false)
      (recordUnsupportedCredentialAttempt job target entry.transportName)

/-- The device result of the job, brought to the start of its execution. -/
def startDeviceResult (tenantId : String) (job : DiscoveryJobRecord)
    (target : DiscoveryTargetRecordView) (parentJobId : Option UUID) :
    M DiscoveryDeviceResultRecord := do
  let existing ← findDeviceResult tenantId job.id
  let now ← utcNow
  match existing with
  | some result => do
    let result ← setResult result fun r => { r with startedAt := some now }
    flush
    pure result
  | none => do
    let id ← uuid4
    let result := { newDeviceResult job (parentJobId.getD job.id) tenantId target.address .running
      id with startedAt := some now }
    insert .results result
    pure result

/-- What the execution of one job works with. -/
structure Work where
  tenantId : String
  job : DiscoveryJobRecord
  target : DiscoveryTargetRecordView
  watch : Watch

/-- The collector of the selected transport; the last one when none is selected. -/
def evidenceCollector (configs : List TransportAttemptConfig) (selectedTransport : Option String)
    (last : Collector) : Collector :=
  match configs.find? fun c => some c.transportName == selectedTransport with
  | some c => c.collector
  | none => last

/-- Record a discovered device: selection, evidence, snapshot, result and success. -/
def publishDiscovered (w : Work) (deviceResult : DiscoveryDeviceResultRecord)
    (collector : Collector) (mt : MultiTransportDiscoveryResult) (payload : PyDict) :
    M DiscoveryExecutionOutcome := do
  let _ ← recordSelection w.tenantId w.job.id mt.selectedTransport
    (payloadString payload "platform_family" (w.target.metadata.getD "platform_family"))
  raiseIfCancelled w.watch
  createEvidence w.job w.target collector
  commit
  raiseIfCancelled w.watch
  let snapshot ← processPayload w.job.id
  raiseIfCancelled w.watch
  addLiveSnapshot w.tenantId w.job.runId snapshot
  recordDeviceResult w.job w.target snapshot mt.selectedTransport mt.resultState
  let completed ← transition {
    tenantId := w.tenantId
    jobId := w.job.id
    targetState := .succeeded
    requireNoCancellation := true }
  finalizeSingleDeviceRun w.job.runId .discovered
  commit
  let _ ← setResult deviceResult fun r => { r with state := .job .succeeded }
  flush
  pure { job := completed, executed := true, evidenceCount := 1 }

/-- The codes of a device that was reached but not discovered. -/
def workflowFailures : List DiscoveryFailureCode :=
  [.discoveryFailed, .collectorFailed, .parserFailed, .normalizationFailed,
    .evidencePersistenceFailed, .snapshotPersistenceFailed]

/-- `message or default`. -/
def messageOr (message : Option String) (default : String) : String :=
  orElse (message.getD "") default

/-- The code and message a chain that did not succeed ends its job with. -/
def chainFailure (mt : MultiTransportDiscoveryResult) : DiscoveryFailureCode × String :=
  let lastFailure := mt.attempts.reverse.find? fun a => !a.success && a.failureCode.isSome
  let code := (lastFailure.bind (·.failureCode)).getD .discoveryFailed
  let message := messageOr (lastFailure.bind (·.failureMessage))
    "Discovery did not complete successfully."
  match mt.resultState with
  | .unreachable =>
    (.connectionFailed, "Host was unreachable for all configured transports.")
  | .reachableNoManagement =>
    if lastFailure.isSome && workflowFailures.contains code then
      (code,
        messageOr (lastFailure.bind (·.failureMessage)) "Discovery failed on a reachable host.")
    else
      (.transportUnavailable,
        "Host is reachable but no configured management transport succeeded.")
  | .authenticationFailed =>
    (.authenticationFailed, "Authentication failed for all applicable management transports.")
  | .partialDiscovery =>
    (.discoveryFailed,
      "Partial discovery data collected but full discovery did not complete.")
  | _ => (code, message)

/-- The failure path of the chain. -/
def failChain (w : Work) (deviceResult : DiscoveryDeviceResultRecord)
    (mt : MultiTransportDiscoveryResult) : M DiscoveryExecutionOutcome := do
  let (code, message) := chainFailure mt
  let _ ← setResult deviceResult fun r => { r with
    state := .job .failed
    failureCode := some code
    failureMessage := some message
    resultState := some mt.resultState }
  let failed ← markFailedAfterRollback w.tenantId w.job.id code message none
  finalizeSingleDeviceRun w.job.runId mt.resultState
  ensureDeviceResultForFailure w.job w.target code (some message) mt.selectedTransport
  commit
  pure { job := failed, executed := true }

/-- The chain has run: publish what it discovered, or fail. A failure while publishing fails the
job; a cancellation or a lost lease is left to the caller. -/
def concludeChain (w : Work) (deviceResult : DiscoveryDeviceResultRecord)
    (configs : List TransportAttemptConfig) (last : Collector)
    (mt : MultiTransportDiscoveryResult) : M DiscoveryExecutionOutcome := do
  match mt.resultState, mt.discoveryPayload with
  | .discovered, some payload => do
    let collector := evidenceCollector configs mt.selectedTransport last
    match ← catching (publishDiscovered w deviceResult collector mt payload) with
    | .ok outcome => pure outcome
    | .error .cancellationRequested => throw .cancellationRequested
    | .error .leaseLost => throw .leaseLost
    | .error _ => failChain w deviceResult mt
  | _, _ => failChain w deviceResult mt

/-- `_execute_multi_transport`. -/
def executeMultiTransport (rt : Runtime) (w : Work) : M DiscoveryExecutionOutcome := do
  let policy ← resolveTransportPolicy w.target
  let deviceResult ← startDeviceResult w.tenantId w.job w.target w.watch.parentJobId
  recordUnsupportedCredentials w.job w.target policy
  let configs := buildTransportConfigs rt.registry w.job w.target policy w.watch
  match configs.getLast? with
  | none => do
    commit
    throw (.executionFailure .unsupportedCapability
      "No transport configurations available for the credential profile.")
  | some last => do
    let mt ← discoverWithFallback rt.redact configs deviceResult
    commit
    let deviceResult ← setResult deviceResult fun r => { r with
      resultState := some mt.resultState
      selectedTransport := mt.selectedTransport
      completedAt := some mt.completedAt }
    concludeChain w deviceResult configs last.collector mt

/-! ## The single-transport path -/

/-- The single path from the start of its attempt on. -/
def executeSingleTransport (w : Work) (owner : UUID) (collector : Collector)
    (context : CollectorContext) (attempt : DiscoveryTransportAttemptRecord) :
    M DiscoveryExecutionOutcome := do
  let check := raiseIfCancelled w.watch
  check
  callCollector context check (collector.healthCheck context)
  check
  let payload ← callCollector context check (collector.collect context)
  DiscoveryTransportAttemptRepository.finish attempt .success none none
  let transport := payloadString payload "transport" (w.target.metadata.getD "transport_name")
  let _ ← recordSelection w.tenantId w.job.id transport
    (payloadString payload "platform_family" (w.target.metadata.getD "platform_family"))
  check
  createEvidence w.job w.target collector
  commit
  check
  let snapshot ← processPayload w.job.id
  check
  addLiveSnapshot w.tenantId w.job.runId snapshot
  recordDeviceResult w.job w.target snapshot transport .discovered
  check
  let completed ← transition {
    tenantId := w.tenantId
    jobId := w.job.id
    targetState := .succeeded
    requireNoCancellation := true
    expectedExecutionOwner := some owner }
  commit
  pure { job := completed, executed := true, evidenceCount := 1 }

/-! ## execute -/

structure ExecuteArgs where
  tenantId : String
  jobId : UUID
  parentJobId : Option UUID := none
  executionOwner : Option UUID := none
  leaseSeconds : DateTime := discoveryJobLeaseSeconds
  alreadyClaimed : Bool := false
  leaseCallback : Bool := false

def ExecuteArgs.watch (a : ExecuteArgs) : Watch where
  tenantId := a.tenantId
  jobId := a.jobId
  parentJobId := a.parentJobId
  leaseCallback := a.leaseCallback

/-- The job, owned before or claimed now. -/
def acquire (a : ExecuteArgs) (owner : UUID) : M DiscoveryJobRecord :=
  if a.alreadyClaimed then do
    match ← ownedRunningJob a.tenantId a.jobId owner with
    | some job => pure job
    | none => throw (.invalidTransition "Discovery job is not owned by this worker.")
  else do
    let job ← claim a.tenantId a.jobId (some owner) a.leaseSeconds
    commit
    pure job

/-- The target takes the multi-transport path: it names a credential profile or fallbacks. -/
def usesChain (target : DiscoveryTargetRecordView) : Bool :=
  !(target.metadata.getD "credential_profile_id" matches .none) ||
    (target.metadata.getD "allowed_fallback_transports").truthy

/-- Where an execution stands when its attempt has started: it is over, by the multi-transport
path, or the single path goes on. -/
inductive Begun where
  | finished (outcome : DiscoveryExecutionOutcome)
  | started (w : Work) (collector : Collector) (context : CollectorContext)
      (attempt : DiscoveryTransportAttemptRecord)

/-- `execute` from the claimed job to the start of the attempt. -/
def begin (rt : Runtime) (a : ExecuteArgs) (job : DiscoveryJobRecord) : M Begun := do
  let target ← resolveTarget job a.tenantId
  let w : Work := ⟨a.tenantId, job, target, a.watch⟩
  raiseIfCancelled a.watch
  raiseIf (target.enabled = false)
    (.executionFailure .targetDisabled "Discovery target is disabled.")
  if usesChain target then do
    let outcome ← executeMultiTransport rt w
    pure (.finished outcome)
  else do
    let (collector, context) ← unwrap (resolveCollector rt.registry job target)
    let attempt ← startTransportAttempt job target
    pure (.started w collector context attempt)

/-- `attempts.finish` of an attempt that has started. -/
def finishStarted (attempt : Option DiscoveryTransportAttemptRecord) (result : AttemptResult)
    (code : DiscoveryFailureCode) (message : Option String) : M Unit :=
  match attempt with
  | none => pure ()
  | some attempt =>
    DiscoveryTransportAttemptRepository.finish attempt result (some code) message

/-- The device result of a cancelled job. -/
def cancelDeviceResult (job : DiscoveryJobRecord) (tenantId : String) : M Unit := do
  let target ← resolveTarget job tenantId
  match ← findDeviceResult target.tenantId job.id with
  | some result => do
    let now ← utcNow
    let _ ← setResult result fun r => { r with
      state := .job .cancelled
      completedAt := some now }
    flush
  | none => do
    let startedAt ← startedOr job
    let now ← utcNow
    let id ← uuid4
    insert .results
      { newDeviceResult job job.id target.tenantId target.address .cancelled id with
        startedAt := some startedAt
        completedAt := some now
        resultState := some .unreachable }

/-- `except DiscoveryCancellationRequestedError`. It commits without a rollback. -/
def concludeCancelled (job : DiscoveryJobRecord) (tenantId : String) (owner : UUID)
    (attempt : Option DiscoveryTransportAttemptRecord) : M DiscoveryExecutionOutcome := do
  finishStarted attempt .cancelled .cancelled none
  tryCatch (cancelDeviceResult job tenantId) fun _ => pure ()
  let cancelled ← finaliseCancellation tenantId job.id (some owner)
  commit
  pure { job := cancelled, executed := true }

/-- `except DiscoveryLeaseLostError`. -/
def concludeLeaseLost (job : DiscoveryJobRecord) (tenantId : String) :
    M DiscoveryExecutionOutcome := do
  rollback
  match ← get tenantId job.id with
  | none => throw (.resourceNotFound "Discovery job was not found.")
  | some current => pure { job := current, executed := false }

/-- The failed job and its device result, in a transaction of their own. -/
def persistFailure (job : DiscoveryJobRecord) (tenantId : String) (owner : UUID)
    (target : DiscoveryTargetRecordView) (code : DiscoveryFailureCode) (message : String) :
    M DiscoveryJobRecord := do
  let failed ← markFailedAfterRollback tenantId job.id code message (some owner)
  ensureDeviceResultForFailure job target code (some message)
    (some (transportNameOf target.metadata))
  commit
  pure failed

/-- `except Exception`. A cancellation that was requested meanwhile comes first; it commits
without a rollback. -/
def concludeFailed (rt : Runtime) (job : DiscoveryJobRecord) (tenantId : String) (owner : UUID)
    (attempt : Option DiscoveryTransportAttemptRecord) (e : Exn) :
    M DiscoveryExecutionOutcome := do
  let requested ← cancellationRequested tenantId job.id
  if requested = true then do
    finishStarted attempt .cancelled .cancelled none
    let cancelled ← finaliseCancellation tenantId job.id (some owner)
    commit
    pure { job := cancelled, executed := true }
  else do
    let code := failureCode e
    let message := safeFailureMessage rt.redact e
    finishStarted attempt .failed code (some message)
    let target ← resolveTarget job tenantId
    match ← catching (persistFailure job tenantId owner target code message) with
    | .ok failed => pure { job := failed, executed := true }
    | .error e => do
      rollback
      throw e

/-- The handlers of `execute`. -/
def conclude (rt : Runtime) (job : DiscoveryJobRecord) (tenantId : String) (owner : UUID)
    (attempt : Option DiscoveryTransportAttemptRecord) (e : Exn) :
    M DiscoveryExecutionOutcome :=
  match e with
  | .cancellationRequested => concludeCancelled job tenantId owner attempt
  | .leaseLost => concludeLeaseLost job tenantId
  | e => concludeFailed rt job tenantId owner attempt e

/-- The job could not be acquired: report the one that is there. -/
def notAcquired (a : ExecuteArgs) : M DiscoveryExecutionOutcome := do
  rollback
  match ← get a.tenantId a.jobId with
  | none => throw (.resourceNotFound "Discovery job was not found.")
  | some existing => pure { job := existing, executed := false }

/-- `execute` with the job acquired. -/
def executeJob (rt : Runtime) (a : ExecuteArgs) (owner : UUID) (job : DiscoveryJobRecord) :
    M DiscoveryExecutionOutcome := do
  match ← catching (begin rt a job) with
  | .error e => conclude rt job a.tenantId owner none e
  | .ok (.finished outcome) => pure outcome
  | .ok (.started w collector context attempt) =>
    tryCatch (executeSingleTransport w owner collector context attempt)
      (conclude rt job a.tenantId owner (some attempt))

def execute (rt : Runtime) (a : ExecuteArgs) : M DiscoveryExecutionOutcome := do
  let owner ← ownerOrNew a.executionOwner
  match ← catching (acquire a owner) with
  | .error (.invalidTransition _) => notAcquired a
  | .error e => throw e
  | .ok job => executeJob rt a owner job

end DiscoveryExecutionService
end Discovery
end NetOps
