import NetOps.Conc.Tasks
import NetOps.Discovery.Contracts

/-!
# Integrations.NetBoxSync

The synchronisation with NetBox (`api/v1/integrations.py`): `synchronize_inventory` and
`run_netbox_sync_background`, over a pool of connections.

A session has a connection from its first statement to its commit, and may get another one after
that. The advisory lock is held per connection; the world says besides for which task each hold of
it was taken.
-/

namespace NetOps
namespace Integrations

open Conc Conc.Raises
open Discovery (UUID)

/-! ## Calls -/

inductive SyncStatus where
  | queued
  | running
  | succeeded
  | failed
  deriving DecidableEq

/-- The job counts as active. -/
def SyncStatus.Active : SyncStatus → Prop
  | .queued => True
  | .running => True
  | _ => False

inductive AuditOutcome where
  | submitted
  | success
  | failed

/-- A failure of the database: whether it is an `OperationalError`, whether the session refuses
every statement from then on until it is rolled back, whether the connection is lost, and whether
the changes of a commit were stored all the same. -/
structure DatabaseFailure where
  text : String := ""
  operational : Bool := false
  broken : Bool := false
  lost : Bool := false
  stored : Bool := false

inductive Raised where
  | integration (statusCode : Nat) (code message : String)
  | database (failure : DatabaseFailure)
  | other (text : String)

namespace Raised

def operational : Raised → Bool
  | database failure => failure.operational
  | _ => false

def broken : Raised → Bool
  | database failure => failure.broken
  | _ => false

def lost : Raised → Bool
  | database failure => failure.lost
  | _ => false

def stored : Raised → Bool
  | database failure => failure.stored
  | _ => false

end Raised

/-- The statements. A commit is one with the change before it; `unlock` says whether the connection
held the lock, which nothing reads. -/
inductive Stmt where
  | lock
  | findActive
  | createJob
  | unlock
  | audit (job : UUID) (outcome : AuditOutcome)
  | addTask (job : UUID)
  | getJob (job : UUID)
  | commitStatus (job : UUID) (status : SyncStatus)
  | synchronize
  | addSnapshot (job : UUID)
  | rollback
  | close

abbrev Stmt.Resp : Stmt → Type
  | .lock => Except Raised Unit
  | .findActive => Except Raised Bool
  | .createJob => Except Raised UUID
  | .unlock => Except Raised Bool
  | .audit _ _ => Except Raised Unit
  | .addTask _ => Unit
  | .getJob _ => Except Raised Bool
  | .commitStatus _ _ => Except Raised Unit
  | .synchronize => Except Raised Unit
  | .addSnapshot _ => Except Raised Unit
  | .rollback => Except Raised Unit
  | .close => Unit

abbrev lang : Lang := ⟨Stmt, Stmt.Resp⟩

abbrev Sync (α : Type) := Raises lang Raised α

/-- `SELECT pg_advisory_lock(42)`. -/
def lock : Sync Unit := ExceptT.mk (Prog.issue (L := lang) .lock)

/-- Whether a job is queued or running. -/
def findActive : Sync Bool := ExceptT.mk (Prog.issue (L := lang) .findActive)

/-- `create_sync_job` of a new id, and the commit. -/
def createJob : Sync UUID := ExceptT.mk (Prog.issue (L := lang) .createJob)

/-- `SELECT pg_advisory_unlock(42)`. -/
def unlock : Sync Bool := ExceptT.mk (Prog.issue (L := lang) .unlock)

/-- `record_api_activity`, in a session of its own. -/
def audit (job : UUID) (outcome : AuditOutcome) : Sync Unit :=
  ExceptT.mk (Prog.issue (L := lang) (.audit job outcome))

def addTask (job : UUID) : Sync Unit := ExceptT.lift (Prog.issue (L := lang) (.addTask job))

/-- `get_sync_job`, and whether there is one. -/
def getJob (job : UUID) : Sync Bool := ExceptT.mk (Prog.issue (L := lang) (.getJob job))

/-- The status of the job, and the commit. -/
def commitStatus (job : UUID) (status : SyncStatus) : Sync Unit :=
  ExceptT.mk (Prog.issue (L := lang) (.commitStatus job status))

/-- `inventory_service.synchronize`. -/
def synchronize : Sync Unit := ExceptT.mk (Prog.issue (L := lang) .synchronize)

/-- `add_netbox_snapshot` of what the job synchronised, and the commit. -/
def addSnapshot (job : UUID) : Sync Unit := ExceptT.mk (Prog.issue (L := lang) (.addSnapshot job))

def rollback : Sync Unit := ExceptT.mk (Prog.issue (L := lang) .rollback)

/-! ## Programs -/

def alreadyRunning : Raised := .integration 409 "NETBOX_SYNC_ALREADY_RUNNING"
  "Another NetBox synchronization is already in progress."

/-- `use_advisory_lock`. -/
def acquire : Sync Bool :=
  tryCatch (do
    lock
    return true) fun e => if e.operational then return false else throw e

def createUnlessActive : Sync UUID := do
  if ← findActive then throw alreadyRunning
  else createJob

def releaseLock (useAdvisoryLock : Bool) : Sync Unit := do
  if useAdvisoryLock then
    tryCatch (discard unlock) fun e => if e.operational then return else throw e

def synchronizeInventory : Sync UUID := do
  let useAdvisoryLock ← acquire
  let result ← tryCatch (Except.ok <$> createUnlessActive) fun e => pure (.error e)
  releaseLock useAdvisoryLock
  match result with
  | .error e => throw e
  | .ok job =>
    audit job .submitted
    addTask job
    return job

def persistSnapshot (job : UUID) : Sync Unit :=
  tryCatch (addSnapshot job) fun e => do
    rollback
    throw e

def runSync (job : UUID) : Sync Unit := do
  synchronize
  persistSnapshot job
  commitStatus job .succeeded
  audit job .success

def syncFailed (job : UUID) : Sync Unit := do
  tryCatch (commitStatus job .failed) fun _ => rollback
  audit job .failed

def runNetboxSyncBackground (job : UUID) : Sync Unit := do
  if ← getJob job then
    commitStatus job .running
    tryCatch (runSync job) fun _ => syncFailed job

/-- A program in a session, which is closed however it ends. -/
def inSession {α : Type} (m : Sync α) : Prog lang Unit :=
  (ExceptT.run m).bind fun _ => Prog.issue (L := lang) .close

/-! ## The world -/

structure World (Tid Conn : Type) where
  /-- The connection that the session of a task has. -/
  conn : Tid → Option Conn := fun _ => none
  broken : Tid → Bool := fun _ => false
  /-- The connection that the lock is held on since the task took it. -/
  took : Tid → Option Conn := fun _ => none
  serving : Tid → Bool := fun _ => false
  jobs : UUID → Option SyncStatus := fun _ => none
  snapshots : UUID → Bool := fun _ => false
  /-- The task that the job is with. -/
  holder : UUID → Option Tid := fun _ => none
  waiting : UUID → Bool := fun _ => false

namespace World

variable {Tid Conn : Type} [DecidableEq Tid] [DecidableEq Conn]

def Active (g : World Tid Conn) (job : UUID) : Prop :=
  ∃ status, g.jobs job = some status ∧ status.Active

omit [DecidableEq Tid] [DecidableEq Conn] in
/-- The session of the task has the connection, or may get it from the pool. -/
def Available (g : World Tid Conn) (i : Tid) (c : Conn) : Prop :=
  g.conn i = some c ∨ (g.conn i = none ∧ ∀ j, g.conn j ≠ some c)

def uses (g : World Tid Conn) (i : Tid) (c : Conn) : World Tid Conn :=
  { g with conn := Function.update g.conn i (some c) }

/-- A statement of the task raises. The locks of a connection that is lost are gone. -/
def fails (g : World Tid Conn) (i : Tid) (e : Raised) : World Tid Conn :=
  if e.lost then { g with
    conn := Function.update g.conn i none
    broken := Function.update g.broken i true
    took := fun j => if g.took j = g.conn i then none else g.took j }
  else { g with broken := Function.update g.broken i (g.broken i || e.broken) }

def creates (g : World Tid Conn) (i : Tid) (job : UUID) : World Tid Conn := { g with
  jobs := Function.update g.jobs job (some .queued)
  holder := Function.update g.holder job (some i) }

def stores (g : World Tid Conn) (job : UUID) (status : SyncStatus) : World Tid Conn :=
  { g with jobs := Function.update g.jobs job (some status) }

def snaps (g : World Tid Conn) (job : UUID) : World Tid Conn :=
  { g with snapshots := Function.update g.snapshots job true }

/-- The session of the task has no transaction. -/
def ends (g : World Tid Conn) (i : Tid) : World Tid Conn := { g with
  conn := Function.update g.conn i none
  broken := Function.update g.broken i false }

/-- A commit that raises stored its changes or not. -/
def FailsCommit (g : World Tid Conn) (i : Tid) (e : Raised) (stored g' : World Tid Conn) : Prop :=
  g' = g.fails i e ∨ (e.stored = true ∧ g.broken i = false ∧ g' = stored.fails i e)

/-- What the answer to a statement of a task does. The lock is given to a connection when no other
one holds it. -/
def Answers (i : Tid) (g : World Tid Conn) : (s : Stmt) → s.Resp → World Tid Conn → Prop
  | .lock, .ok _, g' => g.broken i = false ∧ ∃ c, g.Available i c ∧
      (∀ j c', g.took j = some c' → c' = c) ∧
      g' = { g.uses i c with took := Function.update g.took i (some c) }
  | .lock, .error e, g' => g' = g.fails i e
  | .findActive, .ok found, g' => g.broken i = false ∧ (found = true ↔ ∃ job, g.Active job) ∧
      ∃ c, g.Available i c ∧ g' = g.uses i c
  | .findActive, .error e, g' => g' = g.fails i e
  | .createJob, .ok job, g' => g.broken i = false ∧ g.jobs job = none ∧
      g' = (g.creates i job).ends i
  | .createJob, .error e, g' => ∃ job, g.jobs job = none ∧ g.FailsCommit i e (g.creates i job) g'
  | .unlock, .ok released, g' => g.broken i = false ∧ ∃ c, g.Available i c ∧
      ((released = false ∧ (∀ j, g.took j ≠ some c) ∧ g' = g.uses i c) ∨
        (released = true ∧ ∃ j, g.took j = some c ∧ (g.took i = some c → j = i) ∧
          g' = { g.uses i c with took := Function.update g.took j none }))
  | .unlock, .error e, g' => g' = g.fails i e
  | .audit _ _, _, g' => g' = g
  | .addTask job, _, g' => g' = { g with
      holder := Function.update g.holder job none
      waiting := Function.update g.waiting job true }
  | .getJob job, .ok found, g' => found = (g.jobs job).isSome ∧ g' = g
  | .getJob _, .error e, g' => g' = g.fails i e
  | .commitStatus job status, .ok _, g' => g.broken i = false ∧ g' = (g.stores job status).ends i
  | .commitStatus job status, .error e, g' => g.FailsCommit i e (g.stores job status) g'
  | .synchronize, _, g' => g' = g
  | .addSnapshot job, .ok _, g' => g.broken i = false ∧ g' = (g.snaps job).ends i
  | .addSnapshot job, .error e, g' => g.FailsCommit i e (g.snaps job) g'
  | .rollback, .ok _, g' => g' = g.ends i
  | .rollback, .error e, g' => g' = g.fails i e
  | .close, _, g' => g' = { g.ends i with serving := Function.update g.serving i false }

def opened (g : World Tid Conn) (i : Tid) : World Tid Conn :=
  { g.ends i with serving := Function.update g.serving i true }

end World

variable {Tid Conn : Type} [DecidableEq Tid] [DecidableEq Conn]

/-- Requests come at any time; the background task of a job starts once it was added. -/
inductive Starts (i : Tid) (g : World Tid Conn) : Prog lang Unit → World Tid Conn → Prop where
  | request (hfree : g.took i = none) : Starts i g (inSession synchronizeInventory) (g.opened i)
  | background (job : UUID) (hfree : g.took i = none) (hwaiting : g.waiting job = true) :
    Starts i g (inSession (runNetboxSyncBackground job)) { g.opened i with
      holder := Function.update g.holder job (some i)
      waiting := Function.update g.waiting job false }

abbrev SyncPool (Tid Conn : Type) := Pool lang Tid (World Tid Conn)

abbrev SyncPool.Step : SyncPool Tid Conn → Tid × Turn lang → SyncPool Tid Conn → Prop :=
  Pool.Step World.Answers Starts

/-- No request came yet. -/
def SyncPool.fresh : SyncPool Tid Conn := ⟨{}, fun _ => .pure ()⟩

/-- At most one job is queued or running, no ended request has left the lock held, and a job that is
finished has succeeded if and only if its snapshot is there. -/
structure World.Synchronised (g : World Tid Conn) : Prop where
  exclusive : ∀ job job', g.Active job → g.Active job' → job = job'
  released : ∀ i c, g.took i = some c → g.serving i = true
  truthful : ∀ job status, g.jobs job = some status → ¬ status.Active →
    (status = .succeeded ↔ g.snapshots job = true)

end Integrations
end NetOps
