import NetOps.Comparison.Engine
import NetOps.Discovery.TargetRequests

/-!
# Variance.Report

The report that compares what a CIDR job discovered with what NetBox expects
(`get_cidr_variance` of `api/v1/discovery.py`), as a function of the tables it reads. Rows come in
the order they were inserted where a query asks for none; a Python set of addresses is read in the
order its elements were added.
-/

namespace NetOps
namespace Variance

open Conc Discovery

/-! ## The tables -/

inductive SnapshotSource where
  | netbox
  | live
  deriving DecidableEq

/-- A snapshot row, of both sources. -/
structure SnapshotRecord where
  id : UUID
  source : SnapshotSource
  tenantId : String
  capturedAt : DateTime
  discoveryRunId : Option UUID

/-- What is read of a device's payload: the value under `status`, and the dictionary under
`role`. -/
structure DevicePayload where
  status : PyVal := .none
  role : Option PyDict := none

structure SnapshotDeviceRecord where
  id : UUID
  snapshotId : UUID
  name : String
  model : Option String
  serialNumber : Option String
  managementIp : Option String
  payload : DevicePayload := {}

/-- `startedAt` is the `started_at` column of the runs. -/
structure VarianceDb where
  targets : Tbl DiscoveryTargetRecord (·.id)
  jobs : Tbl DiscoveryJobRecord (·.id)
  runs : Tbl DiscoveryRunRecord (·.id)
  startedAt : UUID → DateTime
  results : Tbl DiscoveryDeviceResultRecord (·.id)
  snapshots : Tbl SnapshotRecord (·.id)
  devices : Tbl SnapshotDeviceRecord (·.id)

/-! ## The response -/

structure VarianceItem where
  address : String
  name : Option String := none
  expectedName : Option String := none
  observedName : Option String := none
  reason : Option String := none
  serial : Option String := none
  model : Option String := none
  role : Option String := none
  status : Option String := none

structure MatchedDeviceItem where
  address : String
  discoveredName : Option String := none
  netboxName : Option String := none
  identityMatchMethod : Option Comparison.InventoryMatcher.IdentityMethod := none
  model : Option String := none
  serial : Option String := none
  state : Option DiscoveryResultState := none
  status : Option String := none

structure UnreachableItem where
  address : String
  state : Option DiscoveryResultState := none
  failureCode : Option DiscoveryFailureCode := none
  reason : Option String := none

structure CidrVarianceCounts where
  discovered : Nat
  netbox : Nat
  matched : Nat
  variances : Nat
  netboxOnly : Nat
  discoveredOnly : Nat
  identityMismatch : Nat
  unverified : Nat
  unreachable : Nat

structure CidrVarianceData where
  netboxOnly : List VarianceItem
  discoveredOnly : List VarianceItem
  identityMismatch : List VarianceItem
  unverified : List VarianceItem
  matched : List MatchedDeviceItem
  unreachable : List UnreachableItem

structure CidrVarianceSummaryResponse where
  summary : CidrVarianceCounts
  variances : CidrVarianceData
  targetIdentifier : String
  cidr : String
  discoveryJobId : UUID
  discoveryStatus : DiscoveryJobStatus
  discoveryRunStartedAt : DateTime
  netboxSnapshotTimestamp : Option DateTime
  vendor : Option String
  platform : Option String
  unreachable : Nat

/-! ## Addresses and payloads -/

/-- `snapshot_ip`: the text before the first slash. -/
def snapshotIp (value : Option String) : Option String :=
  (truthy value).map fun text => String.ofList (text.toList.takeWhile (· ≠ '/'))

/-- The address that a management IP denotes. -/
def denoted (managementIp : Option String) : Option Net.IpAddress :=
  (snapshotIp managementIp).bind Net.ipAddress

/-- `payload_text` of the value. -/
def payloadText : PyVal → Option String
  | .str text => truthy (some text)
  | _ => none

/-- `payload_nested_text` of the inner dictionary. -/
def payloadNestedText (parent : Option PyDict) (key : String) : Option String :=
  parent.bind fun nested => payloadText (nested.getD key)

/-! ## What the report reads -/

namespace VarianceDb

/-- `DiscoveryJobRepository.get`. -/
def getJob (db : VarianceDb) (tenantId : String) (jobId : UUID) : Option DiscoveryJobRecord :=
  (db.jobs.get jobId).filter fun job => job.tenantId = tenantId

/-- `DiscoveryTargetRepository.get`. -/
def getTarget (db : VarianceDb) (tenantId : String) (targetId : UUID) :
    Option DiscoveryTargetRecord :=
  (db.targets.get targetId).filter fun target => target.tenantId = tenantId

def getRun (db : VarianceDb) (tenantId : String) (runId : UUID) : Option DiscoveryRunRecord :=
  (db.runs.get runId).filter fun run => run.tenantId = some tenantId

/-- The NetBox snapshots of the tenant that are not younger than the run, the latest first. -/
def netboxSnapshots (db : VarianceDb) (tenantId : String) (run : DiscoveryRunRecord) :
    List SnapshotRecord :=
  (db.snapshots.rows.filter fun s =>
    s.source = .netbox && s.tenantId = tenantId && s.capturedAt ≤ db.startedAt run.id).insertionSort
      fun s s' => s'.capturedAt < s.capturedAt ∨ s'.capturedAt = s.capturedAt ∧ s'.id ≤ s.id

/-- The live snapshots of the run. -/
def liveSnapshots (db : VarianceDb) (tenantId : String) (runId : UUID) : List SnapshotRecord :=
  db.snapshots.rows.filter fun s =>
    s.discoveryRunId = some runId && s.source = .live && s.tenantId = tenantId

/-- The devices of a snapshot, if there is one. -/
def devicesOf (db : VarianceDb) (snapshot : Option SnapshotRecord) : List SnapshotDeviceRecord :=
  match snapshot with
  | none => []
  | some s => db.devices.rows.filter fun d => d.snapshotId = s.id

def resultsOf (db : VarianceDb) (tenantId : String) (jobId : UUID) :
    List DiscoveryDeviceResultRecord :=
  db.results.rows.filter fun r => r.tenantId = tenantId && r.discoveryJobId = jobId

end VarianceDb

/-- `target.scope_cidr or target.address`. -/
def cidrText (target : DiscoveryTargetRecord) : String :=
  (truthy target.scopeCidr).getD target.address

/-- The comprehension over the devices of the snapshot; `none` is its `ValueError`. -/
def insideOf (cidr : Net.IpNetwork) : List SnapshotDeviceRecord →
    Option (List SnapshotDeviceRecord)
  | [] => some []
  | d :: ds =>
    match truthy d.managementIp with
    | none => insideOf cidr ds
    | some _ => do
      let address ← denoted d.managementIp
      let inside ← insideOf cidr ds
      some (if cidr.contains address then d :: inside else inside)

/-- The expected devices: none when a text is no address or no network. -/
def expectedDevices (target : DiscoveryTargetRecord) (devices : List SnapshotDeviceRecord) :
    List SnapshotDeviceRecord :=
  ((Net.ipNetwork (cidrText target)).bind fun cidr => insideOf cidr devices).getD []

/-- The state a result counts as. -/
def effectiveState (r : DiscoveryDeviceResultRecord) : Option DiscoveryResultState :=
  if r.failureCode = some .transportUnavailable ∧ r.resultState = some .reachableNoManagement then
    some .unverified
  else r.resultState

def isDiscovered (r : DiscoveryDeviceResultRecord) : Bool :=
  effectiveState r = some .discovered || effectiveState r = some .partialDiscovery

/-! ## The classification -/

/-- What is known of one address. -/
structure Sides where
  netboxByIp : Dict String SnapshotDeviceRecord
  discoveredByIp : Dict String DiscoveryDeviceResultRecord
  liveDevicesByIp : Dict String SnapshotDeviceRecord

def byIp (devices : List SnapshotDeviceRecord) : Dict String SnapshotDeviceRecord :=
  Dict.ofList (devices.filterMap fun d => (snapshotIp d.managementIp).map fun ip => (ip, d))

/-- The devices under a text that is not empty. -/
def liveByIp (devices : List SnapshotDeviceRecord) : Dict String SnapshotDeviceRecord :=
  Dict.ofList (devices.filterMap fun d =>
    (truthy (snapshotIp d.managementIp)).map fun ip => (ip, d))

namespace Sides

/-- `set(netbox_by_ip.keys()) | set(discovered_by_ip.keys())`. -/
def allIps (sides : Sides) : List String :=
  sides.netboxByIp.items.map Prod.fst ++
    (sides.discoveredByIp.items.map Prod.fst).filter fun ip => (sides.netboxByIp.get? ip).isNone

def observedName (sides : Sides) (ip : String) (observed : DiscoveryDeviceResultRecord) :
    Option String :=
  match sides.liveDevicesByIp.get? ip with
  | some live => some live.name
  | none => observed.hostname

def observedSerial (sides : Sides) (ip : String) : Option String :=
  (sides.liveDevicesByIp.get? ip).bind (·.serialNumber)

end Sides

/-- The entry of one address. -/
inductive Entry where
  | netboxOnly (item : VarianceItem)
  | discoveredOnly (item : VarianceItem)
  | matched (item : MatchedDeviceItem)
  | identityMismatch (item : VarianceItem)

variable (casefold : String → String)

open Comparison.InventoryMatcher (identityMatchMethod identitiesMatch)

/-- The body of the loop over the addresses. -/
def classify (sides : Sides) (ip : String) : Option Entry :=
  match sides.netboxByIp.get? ip, sides.discoveredByIp.get? ip with
  | some expected, none => some (.netboxOnly
    { address := ip
      name := some expected.name
      expectedName := some expected.name
      serial := expected.serialNumber
      model := expected.model
      role := payloadNestedText expected.payload.role "name"
      status := payloadText expected.payload.status })
  | none, some observed => some (.discoveredOnly
    { address := ip, observedName := sides.observedName ip observed })
  | some expected, some observed =>
    let observedName := sides.observedName ip observed
    let observedSerial := sides.observedSerial ip
    if identitiesMatch casefold (some expected.name) expected.serialNumber observedName
        observedSerial then
      some (.matched
        { address := ip
          discoveredName := observedName
          netboxName := some expected.name
          identityMatchMethod := identityMatchMethod casefold (some expected.name)
            expected.serialNumber observedName observedSerial
          model := expected.model
          serial := truthy observedSerial <|> expected.serialNumber
          state := observed.resultState
          status := payloadText expected.payload.status })
    else some (.identityMismatch
      { address := ip, expectedName := some expected.name, observedName := observedName })
  | none, none => none

namespace Entry

def asNetboxOnly : Entry → Option VarianceItem
  | .netboxOnly item => some item
  | _ => none

def asDiscoveredOnly : Entry → Option VarianceItem
  | .discoveredOnly item => some item
  | _ => none

def asMatched : Entry → Option MatchedDeviceItem
  | .matched item => some item
  | _ => none

def asIdentityMismatch : Entry → Option VarianceItem
  | .identityMismatch item => some item
  | _ => none

end Entry

def unverifiedItem (r : DiscoveryDeviceResultRecord) : VarianceItem :=
  { address := r.address
    reason := some ((truthy r.failureMessage).getD "Transport unavailable") }

def unreachableItem (r : DiscoveryDeviceResultRecord) : UnreachableItem where
  address := r.address
  state := r.resultState
  failureCode := r.failureCode
  reason := r.failureMessage

/-- The lists of the report. -/
def varianceData (sides : Sides) (results : List DiscoveryDeviceResultRecord) :
    CidrVarianceData :=
  let entries := sides.allIps.filterMap (classify casefold sides)
  { netboxOnly := entries.filterMap Entry.asNetboxOnly
    discoveredOnly := entries.filterMap Entry.asDiscoveredOnly
    identityMismatch := entries.filterMap Entry.asIdentityMismatch
    unverified := (results.filter fun r => effectiveState r = some .unverified).map unverifiedItem
    matched := entries.filterMap Entry.asMatched
    unreachable := (results.filter fun r => effectiveState r = some .unreachable).map
      unreachableItem }

def counts (sides : Sides) (expected : List SnapshotDeviceRecord) (data : CidrVarianceData) :
    CidrVarianceCounts where
  discovered := sides.discoveredByIp.items.length
  netbox := expected.length
  matched := data.matched.length
  variances := data.netboxOnly.length + data.discoveredOnly.length + data.identityMismatch.length
  netboxOnly := data.netboxOnly.length
  discoveredOnly := data.discoveredOnly.length
  identityMismatch := data.identityMismatch.length
  unverified := data.unverified.length
  unreachable := data.unreachable.length

/-- What a job's report is made of. -/
structure Scope where
  job : DiscoveryJobRecord
  target : DiscoveryTargetRecord
  run : DiscoveryRunRecord

namespace VarianceDb

/-- The job with its CIDR target and its run. -/
def scope (db : VarianceDb) (tenantId : String) (jobId : UUID) : Except RequestError Scope :=
  match db.getJob tenantId jobId with
  | none => .error (.http 404 "Discovery job was not found.")
  | some job =>
    match (db.getTarget tenantId job.targetId).filter fun t => t.scopeType = .cidrNetwork with
    | none => .error (.http 422 "Job target is not a CIDR network.")
    | some target =>
      match db.getRun tenantId job.runId with
      | none => .error (.http 404 "Discovery run not found.")
      | some run => .ok ⟨job, target, run⟩

/-- The devices of the NetBox snapshot the report is made with. -/
def netboxDevices (db : VarianceDb) (tenantId : String) (scope : Scope) :
    List SnapshotDeviceRecord :=
  db.devicesOf (db.netboxSnapshots tenantId scope.run).head?

def expected (db : VarianceDb) (tenantId : String) (scope : Scope) : List SnapshotDeviceRecord :=
  expectedDevices scope.target (db.netboxDevices tenantId scope)

def sides (db : VarianceDb) (tenantId : String) (scope : Scope) : Sides where
  netboxByIp := byIp (db.expected tenantId scope)
  discoveredByIp := Dict.byKey (·.address)
    ((db.resultsOf tenantId scope.job.id).filter isDiscovered)
  liveDevicesByIp := liveByIp (db.devicesOf (db.liveSnapshots tenantId scope.job.runId).head?)

end VarianceDb

/-- The response for a job that is found. -/
def report (db : VarianceDb) (tenantId : String) (scope : Scope) : CidrVarianceSummaryResponse :=
  let sides := db.sides tenantId scope
  let data := varianceData casefold sides (db.resultsOf tenantId scope.job.id)
  { summary := counts sides (db.expected tenantId scope) data
    variances := data
    targetIdentifier := scope.target.identifier
    cidr := cidrText scope.target
    discoveryJobId := scope.job.id
    discoveryStatus := scope.job.state
    discoveryRunStartedAt := db.startedAt scope.run.id
    netboxSnapshotTimestamp := (db.netboxSnapshots tenantId scope.run).head?.map (·.capturedAt)
    vendor := scope.target.vendor
    platform := scope.target.platformHint
    unreachable := data.unreachable.length }

/-- `get_cidr_variance`. -/
def getCidrVariance (db : VarianceDb) (tenantId : String) (jobId : UUID) :
    Except RequestError CidrVarianceSummaryResponse :=
  (db.scope tenantId jobId).map (report casefold db tenantId)

end Variance
end NetOps
