import NetOps.Discovery.Runs

/-!
# Discovery.Samples

One scope job with one child, in the records a run of the code leaves: the concrete starting
points of the runs that other modules exhibit.
-/

namespace NetOps
namespace Discovery
namespace Samples

open Conc

def tenant : String := "tenant-a"

/-- A CIDR target of one address. -/
def scopeTarget : DiscoveryTargetRecord where
  id := 1
  tenantId := tenant
  identifier := "lab"
  address := "10.0.0.1"
  scopeType := .cidrNetwork
  scopeEnd := none
  scopeCidr := some "10.0.0.1/32"
  vendor := none
  hostname := none
  platformHint := none
  preferredTransport := none
  enabled := true
  credentialReference := "lab-credentials"
  credentialProfileId := none
  credentialReferences := []
  allowedFallbackTransports := []
  allowInsecureTelnet := false
  allowInsecureHttp := false
  metadataJson := []

/-- The target of its one address. -/
def deviceTarget : DiscoveryTargetRecord :=
  DiscoveryFanoutService.newChildTarget tenant scopeTarget "lab:10.0.0.1" "10.0.0.1" 2

def scopeRun : DiscoveryRunRecord where
  id := 11
  tenantId := some tenant
  targetIdentifier := "lab"
  targetAddress := some "10.0.0.1"
  metadataJson := { expectedAddresses := some ["10.0.0.1"] }

def deviceRun : DiscoveryRunRecord where
  id := 12
  tenantId := some tenant
  targetIdentifier := "lab:10.0.0.1"
  targetAddress := some "10.0.0.1"
  metadataJson := { parentJobId := some 21 }

/-- The worker that holds the scope job. -/
def worker : UUID := 9

/-- The scope job, running, with a lease until 100. -/
def scopeJob : DiscoveryJobRecord where
  id := 21
  tenantId := tenant
  targetId := 1
  runId := 11
  state := .running
  startedAt := some 0
  attempts := 1
  executionOwner := some worker
  leaseExpiresAt := some 100
  lastHeartbeatAt := some 0

/-- Its child, queued. -/
def deviceJob : DiscoveryJobRecord where
  id := 22
  tenantId := tenant
  targetId := 2
  runId := 12
  parentJobId := some 21

def deviceResult : DiscoveryDeviceResultRecord where
  id := 31
  tenantId := tenant
  discoveryJobId := 21
  childJobId := 22
  address := "10.0.0.1"
  state := .job .queued

/-- Tables with the given jobs and results, and the targets and runs above. -/
def tables (jobs : List DiscoveryJobRecord) (results : List DiscoveryDeviceResultRecord) :
    Db schema
  | .targets => Tbl.empty.overlay [scopeTarget, deviceTarget]
  | .runs => Tbl.empty.overlay [scopeRun, deviceRun]
  | .jobs => Tbl.empty.overlay jobs
  | .results => Tbl.empty.overlay results
  | .profiles | .attempts | .evidence | .snapshots => Tbl.empty

/-- A store in which no transaction is open. -/
def store {Sid : Type} (db : Db schema) : Store schema Sid where
  db := db
  log _ _ := []
  seen _ _ := []
  dirty _ := []

/-- The outside world at time `now`: every call succeeds. -/
def world (now : DateTime) (fresh : UUID) : (x : Ext) → Ext.Answer x
  | .utcNow => now
  | .uuid4 => fresh
  | .leaseLost => false
  | .callCollector _ => ()
  | .network _ _ => .ok ""
  | .processPayload _ => .ok { source := "lab" }
  | .gather _ _ => .ok ()

end Samples
end Discovery
end NetOps
