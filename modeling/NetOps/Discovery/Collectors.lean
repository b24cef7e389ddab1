import NetOps.Discovery.Jobs
import NetOps.Discovery.Policy

/-!
# Discovery.Collectors

Collectors (`collectors/base.py`, `collectors/registry.py`, `collectors/context.py`) as the
execution service meets them: a name, the capabilities they advertise, and methods that talk to
the network. What a method does between two `await`s is its own; a `Conversation` shows only what
leaves it: requests to the network, and the calls of the cancellation check it was given.
-/

namespace NetOps
namespace Discovery

/-! ## Capabilities -/

inductive CollectorCapability where
  | ssh
  | telnet
  | snmp
  | http
  | https
  | cdp
  | lldp
  | configBackup
  | interfaces
  | vlans
  | macTable
  | arpTable
  | power
  | poe
  deriving DecidableEq

namespace CollectorCapability

def value : CollectorCapability → String
  | ssh => "SSH"
  | telnet => "TELNET"
  | snmp => "SNMP"
  | http => "HTTP"
  | https => "HTTPS"
  | cdp => "CDP"
  | lldp => "LLDP"
  | configBackup => "CONFIG_BACKUP"
  | interfaces => "INTERFACES"
  | vlans => "VLANS"
  | macTable => "MAC_TABLE"
  | arpTable => "ARP_TABLE"
  | power => "POWER"
  | poe => "POE"

def all : List CollectorCapability :=
  [ssh, telnet, snmp, http, https, cdp, lldp, configBackup, interfaces, vlans, macTable, arpTable,
    power, poe]

def ofValue (text : String) : Option CollectorCapability := all.find? fun c => c.value == text

end CollectorCapability

/-- `TRANSPORT_TO_COLLECTOR_CAPABILITY.get`. -/
def transportToCollectorCapability (transportName : String) : Option CollectorCapability :=
  match transportName with
  | "ssh" => some .ssh
  | "telnet" => some .telnet
  | "snmp" => some .snmp
  | "http" => some .http
  | "https" => some .https
  | _ => none

/-- The texts of the items of a value the code iterates over. -/
def PyVal.iterate : PyVal → Except Exn (List String)
  | .list items _ => .ok (items.map PyVal.text)
  | .str s => .ok (s.toList.map String.singleton)
  | .other _ _ (some keys) => .ok (keys.map (·.getD ""))
  | .other _ _ Option.none => .error (.raised "'float' object is not iterable")
  | .none => .error (.raised "'NoneType' object is not iterable")
  | .bool _ => .error (.raised "'bool' object is not iterable")
  | .int _ => .error (.raised "'int' object is not iterable")

/-- The known capabilities a job asks for; other texts are ignored. -/
def requestedCapabilities (job : DiscoveryJobRecord) : Except Exn (List CollectorCapability) :=
  match job.requestedCapabilities.get? "capabilities" with
  | none => .ok []
  | some value => value.iterate.map fun texts => texts.filterMap CollectorCapability.ofValue

/-- The collector a job asks for by name: `isinstance(name, str) and name`. -/
def requestedCollector (job : DiscoveryJobRecord) : Option String :=
  match job.requestedCapabilities.getD "collector_name" with
  | .str name => if name = "" then none else some name
  | _ => none

/-! ## Contexts -/

structure DiscoveryTarget where
  identifier : String
  address : String
  tenantId : String
  metadata : PyDict

/-- `CollectorContext`. `metadata` is the target's metadata under that of the discovery context,
which holds the job's id and the cancellation check; the check is what
`Conversation.checkCancellation` calls. -/
structure CollectorContext where
  target : DiscoveryTarget
  runId : UUID
  jobId : UUID
  metadata : PyDict

/-! ## Conversations -/

/-- What a method of a collector does: it ends, or asks the network and goes on with the answer,
or calls the cancellation check and goes on with what that raised. -/
inductive Conversation (α : Type) where
  | done (r : Except Exn α)
  | network (request : NetworkRequest) (k : Except Exn String → Conversation α)
  | checkCancellation (k : Except Exn Unit → Conversation α)

namespace Conversation

variable {α β : Type}

def bind : Conversation α → (α → Conversation β) → Conversation β
  | .done (.ok a), f => f a
  | .done (.error e), _ => .done (.error e)
  | .network q k, f => .network q fun r => (k r).bind f
  | .checkCancellation k, f => .checkCancellation fun r => (k r).bind f

instance : Monad Conversation where
  pure a := .done (.ok a)
  bind := bind

/-- A request whose failure is raised. -/
def send (request : NetworkRequest) : Conversation String := .network request .done

/-- The cancellation check, raising. -/
def check : Conversation Unit := .checkCancellation .done

def raise (e : Exn) : Conversation α := .done (.error e)

/-- Every network request of the conversation, whatever the answers, satisfies `P`. -/
def Asks (P : NetworkRequest → Prop) : Conversation α → Prop
  | .done _ => True
  | .network q k => P q ∧ ∀ r, (k r).Asks P
  | .checkCancellation k => ∀ r, (k r).Asks P

theorem Asks.bind {P : NetworkRequest → Prop} {c : Conversation α} {f : α → Conversation β}
    (hc : c.Asks P) (hf : ∀ a, (f a).Asks P) : (c.bind f).Asks P := by
  induction c with
  | done r =>
    cases r with
    | ok a => exact hf a
    | error e => trivial
  | network q k ih => exact ⟨hc.1, fun r => ih r (hc.2 r)⟩
  | checkCancellation k ih => exact fun r => ih r (hc r)

end Conversation

/-- `try: ... except Exception as exc`, with what was raised as a value. -/
def catching {α : Type} (m : M α) : M (Except Exn α) :=
  tryCatch (do let a ← m; pure (.ok a)) fun e => pure (.error e)

/-- Run a method of a collector for a job; `check` is the cancellation check of its context. -/
def Conversation.run {α : Type} (jobId : UUID) (check : M Unit) : Conversation α → M α
  | .done r => unwrap r
  | .network request k => do
    let r ← ask (.ext (.network jobId request))
    (k r).run jobId check
  | .checkCancellation k => do
    let r ← catching check
    (k r).run jobId check

/-! ## Collectors -/

/-- `parser` is the name of the `parser` attribute of a collector that has one. `normalize` says
whether the payload names a device: the first device of the normalized snapshot has one of the
identity fields. -/
structure Collector where
  name : String
  capabilities : List CollectorCapability
  parser : Option String
  healthCheck : CollectorContext → Conversation Unit
  collect : CollectorContext → Conversation PyDict
  normalize : CollectorContext → PyDict → Except Exn Bool

/-- The registered collectors by name, in registration order; an alias is an entry of its own. -/
structure CollectorRegistry where
  collectors : List (String × Collector)

namespace CollectorRegistry

/-- `get`; `none` is a `KeyError`. -/
def get (registry : CollectorRegistry) (name : String) : Option Collector :=
  (registry.collectors.find? fun e => e.1 == name).map (·.2)

def select (registry : CollectorRegistry) (capabilities : List CollectorCapability) :
    List Collector :=
  (registry.collectors.map (·.2)).filter fun c => capabilities.all c.capabilities.contains

end CollectorRegistry

/-- Enter a method of a collector and run it. -/
def callCollector {α : Type} (context : CollectorContext) (check : M Unit) (c : Conversation α) :
    M α := do
  ask (.ext (.callCollector context.jobId))
  c.run context.jobId check

end Discovery
end NetOps
