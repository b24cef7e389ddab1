import NetOps.Discovery.Contracts

/-!
# Discovery.Records

The persisted records of discovery (`persistence/models.py`), as the schema of a store; the
exceptions discovery code raises; and the outside world it calls. `M` is the monad the model's
programs are written in: statements of a session, calls outside, and Python exceptions.

`_lock_target` takes a PostgreSQL advisory lock, which only forbids some interleavings of
`create` and `claim` on one target; it is left out, so runs here include runs with it.
-/

namespace NetOps
namespace Discovery

open Conc

/-! ## JSON values -/

/-- A value of a JSON column, or of a record of a parser. Of floats, dictionaries and other objects
only what `bool`, `str` and iteration give is kept (a dictionary has keys), with `none` where `str`
raises; a list keeps its items and its `str`. -/
inductive PyVal where
  | none
  | bool (b : Bool)
  | int (z : Int)
  | str (s : String)
  | list (items : List PyVal) (text : String)
  | other (truthy : Bool) (text : Option String) (keys : Option (List (Option String)))

namespace PyVal

/-- `bool(value)`. -/
def truthy : PyVal → Bool
  | none => false
  | bool b => b
  | int z => z != 0
  | str s => s != ""
  | list items _ => !items.isEmpty
  | other b _ _ => b

/-- `str(value)`, of a value that has a text. -/
def text : PyVal → String
  | none => "None"
  | bool true => "True"
  | bool false => "False"
  | int z => toString z
  | str s => s
  | list _ t => t
  | other _ t _ => t.getD ""

def ofOption : Option String → PyVal
  | some s => str s
  | Option.none => none

end PyVal

/-- A dictionary with string keys; the first entry of a key counts. -/
abbrev PyDict := List (String × PyVal)

namespace PyDict

/-- `d.get(key)`: `none` when the key is absent. -/
def get? (d : PyDict) (key : String) : Option PyVal := (d.find? fun e => e.1 == key).map (·.2)

/-- `d.get(key)` where the caller treats an absent key as `None`. -/
def getD (d : PyDict) (key : String) : PyVal := (d.get? key).getD .none

/-- `d[key] = value`. -/
def set (d : PyDict) (key : String) (value : PyVal) : PyDict := (key, value) :: d

/-- `d.setdefault(key, value)`. -/
def setDefault (d : PyDict) (key : String) (value : PyVal) : PyDict :=
  if (d.get? key).isSome then d else d.set key value

theorem get?_set (d : PyDict) (key key' : String) (value : PyVal) :
    (d.set key value).get? key' = if key' = key then some value else d.get? key' := by
  by_cases h : key = key'
  · subst h; simp [set, get?]
  · simp [set, get?, h, Ne.symm h]

end PyDict

/-! ## Records -/

structure DiscoveryTargetRecord where
  id : UUID
  tenantId : String
  identifier : String
  address : String
  scopeType : DiscoveryScopeType
  scopeEnd : Option String
  scopeCidr : Option String
  vendor : Option String
  hostname : Option String
  platformHint : Option String
  preferredTransport : Option String
  enabled : Bool
  credentialReference : String
  credentialProfileId : Option String
  credentialReferences : PyDict
  allowedFallbackTransports : List String
  allowInsecureTelnet : Bool
  allowInsecureHttp : Bool
  metadataJson : PyDict

structure CredentialProfileRecord where
  id : UUID
  tenantId : String
  name : String
  description : Option String := none
  vendor : Option String := none
  platform : Option String := none
  credentialType : Option String
  username : Option String
  transportTypes : List String
  providerReference : String
  secretStatus : String := "configured"
  enabled : Bool

inductive DiscoveryRunStatus where
  | started
  | succeeded
  | failed
  deriving DecidableEq

/-- The keys of a run's `metadata_json` that discovery reads or writes. -/
structure RunMetadata where
  parentJobId : Option UUID := none
  expectedAddresses : Option (List String) := none
  summaryCalculated : Bool := false
  totalCancelled : Option Nat := none
  totalInterrupted : Option Nat := none
  deriving DecidableEq

structure DiscoveryRunRecord where
  id : UUID
  tenantId : Option String
  targetIdentifier : String
  targetAddress : Option String
  status : DiscoveryRunStatus := .started
  finishedAt : Option DateTime := none
  metadataJson : RunMetadata := {}
  totalScanned : Nat := 0
  totalDiscovered : Nat := 0
  totalUnreachable : Nat := 0
  totalReachableNoManagement : Nat := 0
  totalAuthenticationFailed : Nat := 0
  totalPartialDiscovery : Nat := 0
  totalUnverified : Nat := 0

structure DiscoveryJobRecord where
  id : UUID
  tenantId : String
  targetId : UUID
  runId : UUID
  parentJobId : Option UUID := none
  state : DiscoveryJobStatus := .queued
  failureCode : Option DiscoveryFailureCode := none
  failureMessage : Option String := none
  requestedAt : DateTime := 0
  startedAt : Option DateTime := none
  completedAt : Option DateTime := none
  requestedCapabilities : PyDict := []
  selectedTransport : Option String := none
  selectedPlatform : Option String := none
  attempts : Nat := 0
  timeoutSeconds : Option DateTime := none
  correlationId : Option String := none
  cancellationRequestedAt : Option DateTime := none
  cancellationRequestedBy : Option UUID := none
  cancellationReason : Option String := none
  executionOwner : Option UUID := none
  leaseExpiresAt : Option DateTime := none
  lastHeartbeatAt : Option DateTime := none

/-- The `state` column of a device result: a job state, or `"discovering"`. -/
inductive ResultState where
  | job (s : DiscoveryJobStatus)
  | discovering
  deriving DecidableEq

structure DiscoveryDeviceResultRecord where
  id : UUID
  tenantId : String
  discoveryJobId : UUID
  childJobId : UUID
  address : String
  hostname : Option String := none
  vendor : Option String := none
  platform : Option String := none
  state : ResultState
  resultState : Option DiscoveryResultState := none
  selectedTransport : Option String := none
  failureCode : Option DiscoveryFailureCode := none
  failureMessage : Option String := none
  startedAt : Option DateTime := none
  completedAt : Option DateTime := none
  correlationId : Option String := none

inductive AttemptResult where
  | running
  | success
  | failed
  | cancelled
  deriving DecidableEq

structure DiscoveryTransportAttemptRecord where
  id : UUID
  tenantId : String
  deviceResultId : UUID
  transport : String
  attemptOrder : Nat
  result : AttemptResult
  failureCode : Option DiscoveryFailureCode := none
  failureMessage : Option String := none
  startedAt : DateTime
  completedAt : Option DateTime := none
  durationMs : Option Int := none
  correlationId : Option String := none

structure DiscoveryEvidenceRecord where
  id : UUID
  tenantId : String
  jobId : UUID
  targetId : UUID
  runId : UUID
  collector : String
  observedAt : DateTime
  sequence : Nat

/-- A live snapshot row (`source = "live"`). -/
structure SnapshotRecord where
  id : UUID
  tenantId : String
  sourceLabel : String
  discoveryRunId : Option UUID

/-! ## The schema -/

inductive Table where
  | targets
  | profiles
  | runs
  | jobs
  | results
  | attempts
  | evidence
  | snapshots
  deriving DecidableEq

abbrev Row : Table → Type
  | .targets => DiscoveryTargetRecord
  | .profiles => CredentialProfileRecord
  | .runs => DiscoveryRunRecord
  | .jobs => DiscoveryJobRecord
  | .results => DiscoveryDeviceResultRecord
  | .attempts => DiscoveryTransportAttemptRecord
  | .evidence => DiscoveryEvidenceRecord
  | .snapshots => SnapshotRecord

/-- The places that issue `UPDATE` statements. A state transition names its target state and
whether its `WHERE` asks for no cancellation request. -/
inductive Site where
  | claim
  | renewLease
  | transition (target : DiscoveryJobStatus) (requireNoCancellation : Bool)
  | requestCancellation
  | resolveStaleCancellation
  | resolveStaleChildren
  | queuedChild
  | reconciledChild
  | recordSelection
  | run
  deriving DecidableEq

def primaryKey : (t : Table) → Row t → UUID
  | .targets, r => r.id
  | .profiles, r => r.id
  | .runs, r => r.id
  | .jobs, r => r.id
  | .results, r => r.id
  | .attempts, r => r.id
  | .evidence, r => r.id
  | .snapshots, r => r.id

/-- The unique constraints: `uq_discovery_targets_tenant_identifier`,
`uq_discovery_jobs_active_tenant_target`, and the unique `child_job_id` of device results. -/
def uniqueClash : (t : Table) → Row t → Row t → Bool
  | .targets, r, r' => r.tenantId == r'.tenantId && r.identifier == r'.identifier
  | .jobs, r, r' => r.tenantId == r'.tenantId && r.targetId == r'.targetId &&
      !r.state.isTerminal && !r'.state.isTerminal
  | .results, r, r' => r.childJobId == r'.childJobId
  | _, _, _ => false

/-- The discovery tables. -/
abbrev schema : Schema where
  Table := Table
  Row := Row
  Site := Site
  key := primaryKey
  clash := uniqueClash

/-! ## Exceptions -/

/-- The exceptions that cross a function boundary. `transportUnavailable` is also the missing
dependency of a transport, which every handler treats alike; `raised` stands for an exception of
a class that no handler names, with its text. -/
inductive Exn where
  | resourceNotFound (message : String)
  | invalidTransition (message : String)
  | duplicateActive (message : String)
  | cancellationConflict (message : String)
  | persistence (message : String)
  | executionFailure (code : DiscoveryFailureCode) (message : String)
  | cancellationRequested
  | leaseLost
  | scopeError (message : String)
  | valueError (message : String)
  | credentialResolution (message : String)
  | secretProvider (message : String)
  | transportAuthentication (message : String)
  | transportUnavailable (message : String)
  | timeout (message : String)
  | connectionRefused (message : String)
  | db (e : DbError)
  | raised (message : String)
  deriving DecidableEq

/-- `str(exc)`. -/
def Exn.text : Exn → String
  | resourceNotFound m | invalidTransition m | duplicateActive m | cancellationConflict m
  | persistence m | executionFailure _ m | scopeError m | valueError m | credentialResolution m
  | secretProvider m | transportAuthentication m | transportUnavailable m | timeout m
  | connectionRefused m | raised m => m
  | cancellationRequested | leaseLost => ""
  | db .integrity => "integrity error"
  | db .operational => "operational error"

/-- `isinstance(exc, DiscoveryPersistenceError)`. -/
def Exn.isPersistenceError : Exn → Bool
  | resourceNotFound _ | invalidTransition _ | duplicateActive _ | cancellationConflict _
  | persistence _ => true
  | _ => false

/-! ## The outside world -/

/-- What the code reads of a normalized snapshot: its label and its first device. -/
structure ProcessedSnapshot where
  source : String
  managementIp : Option String := none
  name : Option String := none
  manufacturer : Option String := none
  platform : Option String := none

/-- `CredentialReference`. -/
structure CredentialReference where
  credentialId : String
  transport : String
  tenantId : String
  deriving DecidableEq

/-- What a collector asks of the network: a transport session, or an exchange over one. -/
inductive NetworkRequest where
  | openSession (transportName identifier address : String) (capability : TransportCapability)
      (credentialReference : Option CredentialReference)
  | exchange (text : String)
  deriving DecidableEq

/-- Calls that leave the database. `callCollector` marks that a collector's method is entered;
what the method does on the network are the `network` requests after it. -/
inductive Ext where
  | utcNow
  | uuid4
  | leaseLost
  | callCollector (jobId : UUID)
  | network (jobId : UUID) (request : NetworkRequest)
  | processPayload (jobId : UUID)
  | gather (parentJobId : UUID) (children : List (UUID × UUID))

/-- `network`, `processPayload` and `gather` may raise. -/
abbrev Ext.Answer : Ext → Type
  | .utcNow => DateTime
  | .uuid4 => UUID
  | .leaseLost => Bool
  | .callCollector _ => Unit
  | .network .. => Except Exn String
  | .processPayload _ => Except Exn ProcessedSnapshot
  | .gather .. => Except Exn Unit

abbrev world : Lang := ⟨Ext, Ext.Answer⟩

/-- The statements of a discovery program. -/
abbrev Statement := Stmt schema world

abbrev lang : Lang := Sql schema world

/-- Discovery code: statements and calls in order, and Python exceptions. -/
abbrev M (α : Type) := Raises lang Exn α

/-- Issue a statement; a database error is raised. -/
def ask (c : Statement) : M c.Ans :=
  ExceptT.mk ((Prog.issue (L := lang) c).bind fun r => .pure (match r with
    | .ok a => .ok a
    | .error e => .error (.db e)))

def select (t : Table) (p : Row t → Bool) : M (List (Row t)) := ask (.select t p)

/-- `session.get(Model, id)`. -/
def sessionGet (t : Table) (id : UUID) : M (Option (Row t)) := ask (.get t id)

def update (site : Site) (t : Table) (p : Row t → Bool) (f : Row t → Row t) : M (List UUID) :=
  ask (.update site t p f)

def insert (t : Table) (r : Row t) : M Unit := ask (.insert t r)

/-- Set attributes of a loaded record; the next flush or commit sends them. -/
def change (t : Table) (id : UUID) (f : Row t → Row t) : M Unit := ask (.change t id f)

def flush : M Unit := ask .flush

def commit : M Unit := ask .commit

def rollback : M Unit := ask .rollback

def utcNow : M DateTime := ask (.ext .utcNow)

def uuid4 : M UUID := ask (.ext .uuid4)

/-- `owner or uuid4()`. -/
def ownerOrNew : Option UUID → M UUID
  | some owner => pure owner
  | none => uuid4

def raiseIf (c : Prop) [Decidable c] (e : Exn) : M Unit := if c then throw e else pure ()

/-- Raise what an outside call raised. -/
def unwrap {α : Type} : Except Exn α → M α
  | .ok a => pure a
  | .error e => throw e

end Discovery
end NetOps
