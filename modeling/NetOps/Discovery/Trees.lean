import NetOps.Discovery.Reconcile

/-!
# Discovery.Trees

The operations of `DiscoveryJobRepository` that end a job together with the jobs below it:
cancellation requests, the resolution of stale cancellations, and the recovery and abandonment of
leased jobs.
-/

namespace NetOps
namespace Discovery

open Conc

namespace DiscoveryJobRepository

open DiscoveryFanoutService (reconcileParentJob)

/-- `max_targets` of `reconcile_parent_job` where a caller leaves it out. -/
def defaultMaxTargets : Nat := 4096

/-- Reconcile the children of a job whose target is a scope, if `c` holds too. -/
def reconcileScope (c : Prop) [Decidable c] (tenantId : String) (jobId targetId : UUID)
    (interrupted : Bool) : M Unit := do
  match ← sessionGet .targets targetId with
  | none => pure ()
  | some target =>
    doIf (target.scopeType.fansOut = true ∧ c) do
      let _ ← reconcileParentJob tenantId jobId interrupted defaultMaxTargets
      pure ()

/-! ## request_cancellation -/

def requestCancellationUpdate (job : DiscoveryJobRecord) (tenantId : String) (jobId : UUID)
    (requestedBy : UUID) (reason : String) (now : DateTime) : JobUpdate where
  site := .requestCancellation
  filter r := r.id == jobId && r.tenantId == tenantId && r.state == job.state
  values r :=
    let r := { r with
      cancellationRequestedAt := some now
      cancellationRequestedBy := some requestedBy
      cancellationReason := some reason }
    if job.state = .queued then
      DiscoveryJobRecord.release { r with
        state := .cancelled
        failureCode := some .cancelled
        failureMessage := some reason } now
    else r

def requestCancellation (tenantId : String) (jobId requestedBy : UUID) (reason : String) :
    M (DiscoveryJobRecord × Bool) := do
  let some job ← get tenantId jobId
    | throw (.resourceNotFound "Discovery job was not found.")
  if job.state.isTerminal then
    if job.state = .cancelled then pure (job, false)
    else throw (.cancellationConflict s!"Discovery job is already {job.state.value}.")
  else if job.cancellationRequestedAt.isSome then
    pure (job, false)
  else do
    let u := requestCancellationUpdate job tenantId jobId requestedBy reason (← utcNow)
    let ids ← u.execute
    if ids.isEmpty then
      rollback
      match ← get tenantId jobId with
      | some current =>
        if current.state = .cancelled then pure (current, false)
        else throw (.cancellationConflict
          "Discovery job changed state before cancellation could be applied.")
      | none => throw (.cancellationConflict
          "Discovery job changed state before cancellation could be applied.")
    else do
      flush
      -- the loaded job as the `UPDATE` has left it: a queued job is `cancelled` by now
      let job := u.values job
      reconcileScope (job.state = .queued) tenantId jobId job.targetId false
      pure (← getExisting tenantId jobId, true)

/-! ## resolve_stale_cancellation -/

/-- The job is held by a worker whose lease is still running. -/
def activelyLeased (job : DiscoveryJobRecord) (now : DateTime) : Bool :=
  job.executionOwner.isSome && job.leaseExpiresAt.any fun t => decide (now < t)

def cancelledBy (message : String) (now : DateTime) (r : DiscoveryJobRecord) :
    DiscoveryJobRecord :=
  DiscoveryJobRecord.release { r with
    state := .cancelled
    failureCode := some .cancelled
    failureMessage := some message } now

def resolveStaleUpdate (tenantId : String) (jobId : UUID) (message : String) (now : DateTime) :
    JobUpdate where
  site := .resolveStaleCancellation
  filter r := r.id == jobId && r.tenantId == tenantId && r.state == .running &&
    r.cancellationRequestedAt.isSome &&
    (r.executionOwner.isNone || r.leaseExpiresAt.all fun t => decide (t ≤ now))
  values := cancelledBy message now

def resolveStaleChildrenUpdate (tenantId : String) (childIds : List UUID) (message : String)
    (now : DateTime) : JobUpdate where
  site := .resolveStaleChildren
  filter r := childIds.contains r.id && r.tenantId == tenantId && r.state == .running
  values := cancelledBy message now

/-- What `resolve_stale_cancellation` raises when its `UPDATE` matched nothing. -/
def staleConflict (current : Option DiscoveryJobRecord) (now : DateTime) : M DiscoveryJobRecord :=
  match current with
  | some current =>
    if current.state = .cancelled then pure current
    else if activelyLeased current now then throw (.cancellationConflict
      "Cannot resolve cancellation for an actively executing job with a valid worker lease.")
    else throw (.cancellationConflict
      "Discovery job state changed before cancellation could be resolved.")
  | none => throw (.cancellationConflict
      "Discovery job state changed before cancellation could be resolved.")

/-- The running children, ended as their parent was. -/
def cancelRunningChildren (tenantId : String) (jobId : UUID) (message : String) (now : DateTime) :
    M Unit := do
  let children ← select .jobs fun r =>
    r.tenantId == tenantId && r.parentJobId == some jobId && r.state == .running
  doIf (children ≠ []) do
    let _ ← (resolveStaleChildrenUpdate tenantId (children.map (·.id)) message now).execute
    pure ()

def resolveStaleCancellation (tenantId : String) (jobId : UUID) : M DiscoveryJobRecord := do
  let some job ← get tenantId jobId
    | throw (.resourceNotFound "Discovery job was not found.")
  if job.state = .cancelled then
    pure job
  else do
    raiseIf (job.state.isTerminal = true) (.cancellationConflict
      s!"Discovery job is already in terminal state '{job.state.value}'.")
    raiseIf (job.state ≠ .running) (.cancellationConflict
      s!"Cannot force resolve job in '{job.state.value}' state; use standard cancellation.")
    raiseIf (job.cancellationRequestedAt.isNone = true) (.cancellationConflict
      "Cancellation was not requested for this discovery job.")
    let now ← utcNow
    raiseIf (activelyLeased job now = true) (.cancellationConflict
      "Cannot resolve cancellation for an actively executing job with a valid worker lease.")
    let ids ← (resolveStaleUpdate tenantId jobId (cancellationMessage job) now).execute
    if ids.isEmpty then
      rollback
      staleConflict (← get tenantId jobId) now
    else do
      cancelRunningChildren tenantId jobId (cancellationMessage job) now
      flush
      reconcileScope True tenantId jobId job.targetId false
      getExisting tenantId jobId

/-! ## Leased jobs -/

/-- How a leased tree is ended: as cancelled when a cancellation was requested, else as failed. -/
structure TreeOutcome where
  targetState : DiscoveryJobStatus
  failureCode : DiscoveryFailureCode
  message : String

def treeOutcome (cancel : Bool) (job : DiscoveryJobRecord) (failureMessage : String) :
    TreeOutcome :=
  if cancel then ⟨.cancelled, .cancelled, cancellationMessage job⟩
  else ⟨.failed, .discoveryFailed, failureMessage⟩

/-- The `UPDATE` of a queued child. It names the child, not the state it was read in. -/
def queuedChildUpdate (tenantId : String) (childId : UUID) (o : TreeOutcome) (now : DateTime) :
    JobUpdate where
  site := .queuedChild
  filter r := r.id == childId && r.tenantId == tenantId
  values r := DiscoveryJobRecord.release { r with
    state := o.targetState
    failureCode := some o.failureCode
    failureMessage := some o.message } now

def treeTransition (tenantId : String) (jobId executionOwner : UUID) (o : TreeOutcome) :
    M DiscoveryJobRecord :=
  transition {
    tenantId := tenantId
    jobId := jobId
    targetState := o.targetState
    failureCode := some o.failureCode
    failureMessage := some o.message
    expectedExecutionOwner := some executionOwner }

/-- One child of a leased tree: a queued one is ended, a running one of the same owner too. -/
def endTreeChild (tenantId : String) (executionOwner : UUID) (o : TreeOutcome)
    (child : DiscoveryJobRecord) : M Unit := do
  if child.state = .queued then do
    let _ ← (queuedChildUpdate tenantId child.id o (← utcNow)).execute
    pure ()
  else
    doIf (child.executionOwner = some executionOwner) do
      let _ ← treeTransition tenantId child.id executionOwner o
      pure ()

def reconcileOwnedTree (tenantId : String) (jobId executionOwner : UUID)
    (failureMessage : String) : M (Option DiscoveryJobRecord) := do
  match ← get tenantId jobId with
  | none => pure none
  | some job => do
    let cancel ← cancellationRequested tenantId jobId
    let o := treeOutcome cancel job failureMessage
    let children ← select .jobs fun r =>
      r.tenantId == tenantId && r.parentJobId == some jobId && !r.state.isTerminal
    children.forM (endTreeChild tenantId executionOwner o)
    let terminal ← treeTransition tenantId jobId executionOwner o
    reconcileScope True tenantId jobId job.targetId (!cancel)
    pure (some terminal)

/-- The owner of a running job whose lease ended before `staleBefore`. -/
def expiredOwner (job : DiscoveryJobRecord) (staleBefore : DateTime) : Option UUID :=
  match job.executionOwner, job.leaseExpiresAt, job.lastHeartbeatAt with
  | some owner, some lease, some _ =>
    if job.state = .running ∧ lease < staleBefore then some owner else none
  | _, _, _ => none

theorem expiredOwner_some {job : DiscoveryJobRecord} {staleBefore : DateTime} {owner : UUID}
    (h : expiredOwner job staleBefore = some owner) :
    job.state = .running ∧ job.executionOwner = some owner ∧
      job.leaseExpiresAt.any (· < staleBefore) = true := by
  unfold expiredOwner at h
  split at h
  · rename_i owner' lease _ ho hl _
    split at h
    · rename_i hc
      cases h
      exact ⟨hc.1, ho, by simp [hl, hc.2]⟩
    · cases h
  · cases h

def recoverExpiredOwnedJob (tenantId : String) (jobId : UUID) (staleBefore : DateTime) :
    M (Option DiscoveryJobRecord) := do
  if jobId = protectedDiscoveryJobId then
    pure none
  else
    match (← get tenantId jobId).bind (expiredOwner · staleBefore) with
    | none => pure none
    | some owner => reconcileOwnedTree tenantId jobId owner leaseExpiredMessage

def abandonOwnedJob (tenantId : String) (jobId executionOwner : UUID) (failureMessage : String) :
    M (Option DiscoveryJobRecord) := do
  if jobId = protectedDiscoveryJobId then
    pure none
  else
    match ← ownedRunningJob tenantId jobId executionOwner with
    | none => pure none
    | some _ => reconcileOwnedTree tenantId jobId executionOwner failureMessage

end DiscoveryJobRepository
end Discovery
end NetOps
