import NetOps.Discovery.Jobs
import NetOps.Discovery.Scopes

/-!
# Discovery.Reconcile

The durable half of `DiscoveryFanoutService` (`discovery/fanout.py`): creating the child of one
address, and reconciling a scope job with its children.

The code changes attributes of loaded records and leaves them to the next flush; so does the
model (`change`). A new record is inserted where the code adds it: its id is new, and the flush
follows at once.
-/

namespace NetOps
namespace Discovery

open Conc

/-- `if c: body`. -/
def doIf (c : Prop) [Decidable c] (body : M Unit) : M Unit := if c then body else pure ()

/-- `str(uuid)`. -/
def uuidText (u : UUID) : String :=
  let h := (Net.digitsOf 16 32 u).flatMap (Nat.toDigits 16)
  let part (i n : Nat) := String.ofList ((h.drop i).take n)
  s!"{part 0 8}-{part 8 4}-{part 12 4}-{part 16 4}-{part 20 12}"

/-- `setattr(result, ...)`. -/
def setResult (result : DiscoveryDeviceResultRecord)
    (values : DiscoveryDeviceResultRecord → DiscoveryDeviceResultRecord) :
    M DiscoveryDeviceResultRecord := do
  change .results result.id values
  pure (values result)

/-- `UPDATE discovery_runs SET values WHERE id = run_id`. -/
def setRun (runId : UUID) (values : DiscoveryRunRecord → DiscoveryRunRecord) : M Unit := do
  let _ ← update .run .runs (fun r => r.id == runId) values
  pure ()

namespace DiscoveryFanoutService

/-! ## Children -/

/-- The configuration a child target takes from its scope. -/
def inheritScope (scope target : DiscoveryTargetRecord) : DiscoveryTargetRecord :=
  { target with
    vendor := scope.vendor
    hostname := scope.hostname
    platformHint := scope.platformHint
    preferredTransport := scope.preferredTransport
    enabled := scope.enabled
    credentialReference := scope.credentialReference
    credentialProfileId := scope.credentialProfileId
    credentialReferences := scope.credentialReferences
    allowedFallbackTransports := scope.allowedFallbackTransports
    allowInsecureTelnet := scope.allowInsecureTelnet
    metadataJson := scope.metadataJson }

/-- A new child target. `allow_insecure_http` is left to its column default. -/
def newChildTarget (tenantId : String) (scope : DiscoveryTargetRecord)
    (identifier address : String) (id : UUID) : DiscoveryTargetRecord :=
  inheritScope scope { scope with
    id := id
    tenantId := tenantId
    identifier := identifier
    address := address
    scopeType := .singleDevice
    scopeEnd := none
    scopeCidr := none
    allowInsecureHttp := false }

def findTarget (tenantId identifier : String) : M (Option DiscoveryTargetRecord) := do
  let rows ← select .targets fun t => t.tenantId == tenantId && t.identifier == identifier
  pure rows.head?

/-- The target of one address: found and brought up to date, or inserted under a savepoint. -/
def childTarget (tenantId : String) (scope : DiscoveryTargetRecord) (address : String) :
    M DiscoveryTargetRecord := do
  let identifier := s!"{scope.identifier}:{address}"
  match ← findTarget tenantId identifier with
  | some target =>
    change .targets target.id (inheritScope scope)
    pure (inheritScope scope target)
  | none =>
    let target := newChildTarget tenantId scope identifier address (← uuid4)
    flush
    tryCatch (do insert .targets target; pure target) fun
      | .db .integrity => do
        match ← findTarget tenantId identifier with
        | some target => pure target
        | none => throw (.db .integrity)
      | e => throw e

def newChildRun (tenantId : String) (parent : DiscoveryJobRecord) (target : DiscoveryTargetRecord)
    (address : String) (id : UUID) : DiscoveryRunRecord where
  id := id
  tenantId := some tenantId
  targetIdentifier := target.identifier
  targetAddress := some address
  metadataJson := { parentJobId := some parent.id }

def newChildResult (tenantId : String) (parent child : DiscoveryJobRecord)
    (scope : DiscoveryTargetRecord) (address : String) (id : UUID) :
    DiscoveryDeviceResultRecord where
  id := id
  tenantId := tenantId
  discoveryJobId := parent.id
  childJobId := child.id
  address := address
  hostname := scope.hostname
  vendor := scope.vendor
  platform := scope.platformHint
  state := .job .queued
  correlationId := child.correlationId

def createChild (tenantId : String) (parent : DiscoveryJobRecord) (scope : DiscoveryTargetRecord)
    (address : String) : M (DiscoveryJobRecord × DiscoveryDeviceResultRecord) := do
  let target ← childTarget tenantId scope address
  let run := newChildRun tenantId parent target address (← uuid4)
  insert .runs run
  flush
  let correlationId := uuidText (← uuid4)
  let child ← DiscoveryJobRepository.create {
    tenantId := tenantId
    targetId := target.id
    runId := run.id
    parentJobId := some parent.id
    requestedCapabilities := parent.requestedCapabilities
    timeoutSeconds := parent.timeoutSeconds
    correlationId := some correlationId }
  let result := newChildResult tenantId parent child scope address (← uuid4)
  insert .results result
  pure (child, result)

/-! ## The summary of a scope run -/

/-- `Counter(result.result_state for result in results)[state]`. -/
def countState (results : List DiscoveryDeviceResultRecord) (state : DiscoveryResultState) : Nat :=
  results.countP fun r => r.resultState == some state

def summary (expectedCount : Nat) (results : List DiscoveryDeviceResultRecord)
    (metadata : RunMetadata) (now : DateTime) (run : DiscoveryRunRecord) : DiscoveryRunRecord :=
  { run with
    totalScanned := expectedCount
    totalDiscovered := countState results .discovered
    totalUnreachable := countState results .unreachable
    totalReachableNoManagement := countState results .reachableNoManagement
    totalAuthenticationFailed := countState results .authenticationFailed
    totalPartialDiscovery := countState results .partialDiscovery
    totalUnverified := countState results .unverified
    status :=
      if countState results .discovered > 0 ∧ countState results .cancelled = 0 ∧
        countState results .interrupted = 0 then .succeeded else .failed
    finishedAt := some now
    metadataJson := { metadata with
      summaryCalculated := true
      totalCancelled := some (countState results .cancelled)
      totalInterrupted := some (countState results .interrupted) } }

def finalizeParentRun (parent : DiscoveryJobRecord) (expectedCount : Nat)
    (results : List DiscoveryDeviceResultRecord) : M Unit := do
  match ← sessionGet .runs parent.runId with
  | none => pure ()
  | some run => setRun parent.runId (summary expectedCount results run.metadataJson (← utcNow))

/-! ## reconcile_parent_job -/

/-- The addresses recorded with the run, or the expansion of the scope, which is then recorded. -/
def expectedAddresses (parent : DiscoveryJobRecord) (target : Option DiscoveryTargetRecord)
    (maxTargets : Nat) : M (List String) := do
  let run ← sessionGet .runs parent.runId
  let recorded := (run.bind (·.metadataJson.expectedAddresses)).getD []
  match target with
  | none => pure recorded
  | some target =>
    if recorded ≠ [] then pure recorded
    else do
      let addresses ← unwrap (target.scope.expand maxTargets)
      match run with
      | none => pure addresses
      | some run => do
        setRun parent.runId fun r =>
          { r with metadataJson := { run.metadataJson with expectedAddresses := some addresses } }
        pure addresses

/-- What reconciliation writes over an outcome that never came. -/
structure Outcome where
  jobState : DiscoveryJobStatus
  resultState : DiscoveryResultState
  failureCode : DiscoveryFailureCode
  failureMessage : String

def outcome (interrupted : Bool) : Outcome :=
  if interrupted then
    ⟨.failed, .interrupted, .discoveryFailed,
      "Fan-out execution was interrupted before this address completed."⟩
  else
    ⟨.cancelled, .cancelled, .cancelled,
      "Fan-out execution was cancelled before this address completed."⟩

/-- The `UPDATE` of an unfinished child. It names the child, not the state it was read in. -/
def reconciledChildUpdate (tenantId : String) (childId : UUID) (o : Outcome) (now : DateTime) :
    JobUpdate where
  site := .reconciledChild
  filter r := r.id == childId && r.tenantId == tenantId
  values r := DiscoveryJobRecord.release { r with
    state := o.jobState
    failureCode := some o.failureCode
    failureMessage := some o.failureMessage } now

/-- `result_state is None or state in {queued, running, "discovering"}`. -/
def unfinished (r : DiscoveryDeviceResultRecord) : Bool :=
  r.resultState.isNone || r.state == .job .queued || r.state == .job .running ||
    r.state == .discovering

def settle (o : Outcome) (now : DateTime) (r : DiscoveryDeviceResultRecord) :
    DiscoveryDeviceResultRecord :=
  { r with
    state := .job o.jobState
    resultState := some o.resultState
    failureCode := some o.failureCode
    failureMessage := some o.failureMessage
    completedAt := some now }

/-- The results a reconciliation found, and those it created. -/
structure Results where
  found : List DiscoveryDeviceResultRecord
  created : List DiscoveryDeviceResultRecord := []

namespace Results

def all (rs : Results) : List DiscoveryDeviceResultRecord := rs.found ++ rs.created

/-- `by_address.get(address)`: the dictionary keeps the last result of an address. -/
def byAddress (rs : Results) (address : String) : Option DiscoveryDeviceResultRecord :=
  rs.found.reverse.find? fun r => r.address == address

def replace (rs : Results) (result : DiscoveryDeviceResultRecord) : Results where
  found := rs.found.map fun r => if r.id == result.id then result else r
  created := rs.created.map fun r => if r.id == result.id then result else r

end Results

/-- End the child of a result, unless it has ended. -/
def endChild (tenantId : String) (o : Outcome) (result : DiscoveryDeviceResultRecord) :
    M Unit := do
  match ← sessionGet .jobs result.childJobId with
  | none => pure ()
  | some child =>
    doIf (child.state.isTerminal = false) do
      let _ ← (reconciledChildUpdate tenantId child.id o (← utcNow)).execute
      pure ()

/-- The result of an address, created with its child if there is none. -/
def resultOf (tenantId : String) (parent : DiscoveryJobRecord) (target : DiscoveryTargetRecord)
    (rs : Results) (address : String) : M (DiscoveryDeviceResultRecord × Results) :=
  match rs.byAddress address with
  | some result => pure (result, rs)
  | none => do
    let (_, result) ← createChild tenantId parent target address
    pure (result, { rs with created := rs.created ++ [result] })

def reconcileAddress (tenantId : String) (parent : DiscoveryJobRecord)
    (target : DiscoveryTargetRecord) (o : Outcome) (rs : Results) (address : String) :
    M Results := do
  let (result, rs) ← resultOf tenantId parent target rs address
  endChild tenantId o result
  if unfinished result then do
    let result ← setResult result (settle o (← utcNow))
    pure (rs.replace result)
  else
    pure rs

/-- `reconcile_parent_job` up to its commit; `none` where it returns early. -/
def reconcileChildren (tenantId : String) (parentJobId : UUID) (interrupted : Bool)
    (maxTargets : Nat) : M (Option (List DiscoveryDeviceResultRecord)) := do
  match ← sessionGet .jobs parentJobId with
  | none => pure none
  | some parent =>
    if parent.tenantId ≠ tenantId then pure none
    else do
      let target ← sessionGet .targets parent.targetId
      let expected ← expectedAddresses parent target maxTargets
      match target with
      | none => pure none
      | some target =>
        if expected = [] then pure none
        else do
          let found ← select .results fun r =>
            r.tenantId == tenantId && r.discoveryJobId == parentJobId
          let rs ← expected.foldlM
            (reconcileAddress tenantId parent target (outcome interrupted)) { found := found }
          flush
          finalizeParentRun parent expected.length rs.all
          pure (some rs.all)

/-- `reconcile_parent_job`; `max_targets` is 4096 wherever the caller leaves it out. -/
def reconcileParentJob (tenantId : String) (parentJobId : UUID) (interrupted : Bool)
    (maxTargets : Nat) : M (List DiscoveryDeviceResultRecord) := do
  match ← reconcileChildren tenantId parentJobId interrupted maxTargets with
  | none => pure []
  | some results => do
    commit
    pure results

end DiscoveryFanoutService
end Discovery
end NetOps
