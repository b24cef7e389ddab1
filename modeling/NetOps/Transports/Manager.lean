import Mathlib.Data.List.AList
import NetOps.Discovery.Records

/-!
# Transports.Manager

The transport manager (`transports/manager.py`) with what it owns: the registry, the circuit
breaker and the connection pool. `W` is the world a call is made in; what credential providers,
health checks and devices answer depends on it, and `now` is the clock of the call.

The rate limiter only waits, and timeouts and retries only say how a transport opens a session;
neither is modelled.
-/

namespace NetOps
namespace Transports

open Discovery (Exn CredentialReference DateTime PyDict TransportCapability)

variable {W : Type}

/-! ## Targets, credentials and sessions -/

structure TransportTarget where
  identifier : String
  address : String
  metadata : PyDict := []
  credentialReference : Option CredentialReference := none

inductive TransportCredentials where
  | usernamePassword (username password : String)
  | token (token scheme : String)
  | snmpV2c (community : String)
  | snmpV3 (username securityLevel : String)
      (authProtocol authSecret privacyProtocol privacySecret : Option String)
  deriving DecidableEq

structure TransportContext where
  target : TransportTarget
  capabilities : List TransportCapability := []
  credentials : Option TransportCredentials := none

/-- A session keeps what `create_session` takes from its context: every transport copies
`target.identifier` as the session's id, `target.address` as its host and the credentials. -/
structure TransportSession where
  sessionId : String
  context : TransportContext
  openedAt : Option DateTime := none

/-- A registered transport; its three operations raise what the world makes them raise. -/
structure BaseTransport (W : Type) where
  name : String
  capabilities : List TransportCapability
  healthCheck : W → TransportContext → Except Exn Unit
  createFails : W → TransportContext → Option Exn
  openFails : W → TransportSession → Option Exn

def BaseTransport.createSession (transport : BaseTransport W) (w : W)
    (context : TransportContext) : Except Exn TransportSession :=
  match transport.createFails w context with
  | some e => .error e
  | none => .ok { sessionId := context.target.identifier, context }

def BaseTransport.openSession (transport : BaseTransport W) (w : W) (now : DateTime)
    (session : TransportSession) : Except Exn TransportSession :=
  match transport.openFails w session with
  | some e => .error e
  | none => .ok { session with openedAt := some now }

/-! ## Circuit breaker -/

inductive CircuitBreakerState where
  | closed
  | opened
  | halfOpen
  deriving DecidableEq

structure CircuitBreaker where
  failureThreshold : Nat := 5
  recoveryTimeoutSeconds : DateTime := 30000000
  halfOpenSuccessThreshold : Nat := 1
  state : CircuitBreakerState := .closed
  failureCount : Nat := 0
  halfOpenSuccessCount : Nat := 0
  openedAt : Option DateTime := none

namespace CircuitBreaker

def allowRequest (b : CircuitBreaker) (now : DateTime) : Bool × CircuitBreaker :=
  match b.state, b.openedAt with
  | .closed, _ => (true, b)
  | .opened, none => (false, b)
  | .opened, some openedAt =>
    if b.recoveryTimeoutSeconds ≤ now - openedAt then
      (true, { b with state := .halfOpen, halfOpenSuccessCount := 0 })
    else (false, b)
  | .halfOpen, _ => (true, b)

def recordSuccess (b : CircuitBreaker) : CircuitBreaker :=
  if b.state = .halfOpen then
    if b.halfOpenSuccessThreshold ≤ b.halfOpenSuccessCount + 1 then
      { b with failureCount := 0, state := .closed, halfOpenSuccessCount := 0 }
    else { b with failureCount := 0, halfOpenSuccessCount := b.halfOpenSuccessCount + 1 }
  else { b with failureCount := 0 }

def recordFailure (b : CircuitBreaker) (now : DateTime) : CircuitBreaker :=
  if b.failureThreshold ≤ b.failureCount + 1 then
    { b with
      failureCount := b.failureCount + 1, halfOpenSuccessCount := 0,
      state := .opened, openedAt := some now }
  else { b with failureCount := b.failureCount + 1, halfOpenSuccessCount := 0 }

end CircuitBreaker

/-! ## Connection pool -/

structure ConnectionPool where
  maxSize : Nat := 32
  sessions : AList fun _ : String => TransportSession := ∅

namespace ConnectionPool

/-- `get_or_create(key, factory)`; `factory` creates and opens the session. -/
def getOrCreate (p : ConnectionPool) (key : String) (factory : Except Exn TransportSession) :
    Except Exn TransportSession × ConnectionPool :=
  match p.sessions.lookup key with
  | some session => (.ok session, p)
  | none =>
    if p.maxSize ≤ p.sessions.keys.length then
      (.error (.raised "Connection pool is full."), p)
    else match factory with
      | .error e => (.error e, p)
      | .ok session => (.ok session, { p with sessions := p.sessions.insert key session })

def release (p : ConnectionPool) (key : String) : ConnectionPool :=
  { p with sessions := p.sessions.erase key }

/-- What a successful call answers: the session filed under the key if there is one. Otherwise
it is the factory's, filed from now on. -/
theorem getOrCreate_ok {p p' : ConnectionPool} {key : String}
    {factory : Except Exn TransportSession} {session : TransportSession}
    (h : p.getOrCreate key factory = (.ok session, p')) :
    p.sessions.lookup key = some session ∧ p' = p ∨
      p.sessions.lookup key = none ∧ factory = .ok session ∧
        p' = { p with sessions := p.sessions.insert key session } := by
  unfold getOrCreate at h
  split at h
  · rename_i found hfound
    cases h
    exact .inl ⟨hfound, rfl⟩
  · rename_i hnone
    split at h
    · cases h
    · split at h
      · cases h
      · cases h
        exact .inr ⟨hnone, rfl, rfl⟩

theorem getOrCreate_error {p p' : ConnectionPool} {key : String}
    {factory : Except Exn TransportSession} {e : Exn}
    (h : p.getOrCreate key factory = (.error e, p')) : p.sessions.lookup key = none ∧ p' = p := by
  unfold getOrCreate at h
  split at h
  · cases h
  · rename_i hnone
    split at h
    · cases h
      exact ⟨hnone, rfl⟩
    · split at h
      · cases h
        exact ⟨hnone, rfl⟩
      · cases h

end ConnectionPool

/-! ## The manager -/

/-- `TransportManager`: which providers it has never changes, breaker and pool do. -/
structure TransportManager (W : Type) where
  registry : List (BaseTransport W) := []
  pool : ConnectionPool := {}
  credentialResolver :
    Option (W → TransportContext → Except Exn (Option TransportCredentials)) := none
  credentialProvider :
    Option (W → CredentialReference → Except Exn (Option TransportCredentials)) := none
  circuitBreaker : CircuitBreaker := {}

namespace TransportManager

/-- `register`: a later transport of a name replaces an earlier one. -/
def register (m : TransportManager W) (transport : BaseTransport W) : TransportManager W :=
  { m with registry := transport :: m.registry }

def resolve (m : TransportManager W) (name : String) : Except Exn (BaseTransport W) :=
  match m.registry.find? fun t => t.name == name with
  | some transport => .ok transport
  | none => .error (.transportUnavailable s!"Unknown transport: {name}")

def poolKey (transportName targetIdentifier : String) : String :=
  transportName ++ ":" ++ targetIdentifier

def resolveCredentials (m : TransportManager W) (w : W) (target : TransportTarget)
    (capabilities : List TransportCapability) : Except Exn (Option TransportCredentials) :=
  match m.credentialProvider, target.credentialReference, m.credentialResolver with
  | some provider, some reference, _ => provider w reference
  | _, _, none => .ok none
  | _, _, some resolver => resolver w { target, capabilities }

def buildContext (m : TransportManager W) (w : W) (target : TransportTarget)
    (capabilities : List TransportCapability) : Except Exn TransportContext :=
  (m.resolveCredentials w target capabilities).map fun credentials =>
    { target, capabilities, credentials }

/-- `capabilities or transport.capabilities`. -/
def requested (capabilities : Option (List TransportCapability)) (transport : BaseTransport W) :
    List TransportCapability :=
  match capabilities with
  | some (c :: rest) => c :: rest
  | _ => transport.capabilities

/-- The transport and the context of a call, raised before the session is asked for. -/
def prepare (m : TransportManager W) (w : W) (transportName : String) (target : TransportTarget)
    (capabilities : Option (List TransportCapability)) :
    Except Exn (BaseTransport W × TransportContext) := do
  let transport ← m.resolve transportName
  let context ← m.buildContext w target (requested capabilities transport)
  return (transport, context)

/-- The `try` block of `open_session`. -/
def pooledSession (m : TransportManager W) (w : W) (now : DateTime) (key : String)
    (transport : BaseTransport W) (context : TransportContext) :
    Except Exn TransportSession × ConnectionPool :=
  match transport.healthCheck w context with
  | .error e => (.error e, m.pool)
  | .ok () => m.pool.getOrCreate key do
      let session ← transport.createSession w context
      transport.openSession w now session

def openSession (m : TransportManager W) (w : W) (now : DateTime) (transportName : String)
    (target : TransportTarget) (capabilities : Option (List TransportCapability)) :
    Except Exn TransportSession × TransportManager W :=
  match m.circuitBreaker.allowRequest now with
  | (false, breaker) =>
    (.error (.raised "Transport circuit breaker is open."), { m with circuitBreaker := breaker })
  | (true, breaker) =>
    match m.prepare w transportName target capabilities with
    | .error e => (.error e, { m with circuitBreaker := breaker })
    | .ok (transport, context) =>
      match m.pooledSession w now (poolKey transportName target.identifier) transport context with
      | (.error e, pool) =>
        (.error e, { m with circuitBreaker := breaker.recordFailure now, pool })
      | (.ok session, pool) =>
        (.ok session, { m with circuitBreaker := breaker.recordSuccess, pool })

/-- `close_session`: `session.close` may raise, but only after the session left the pool. -/
def closeSession (m : TransportManager W) (transportName : String) (target : TransportTarget) :
    TransportManager W :=
  { m with pool := m.pool.release (poolKey transportName target.identifier) }

end TransportManager

/-! ## The application's transports -/

/-- The transports `core/application.py` registers, with their capabilities, the last one
first. -/
def applicationCapabilities : List (String × List TransportCapability) :=
  [("httpx", [.http]), ("pysnmp", [.snmp]), ("telnet", [.telnet]), ("paramiko", [.ssh]),
    ("netmiko", [.ssh])]

/-- The application's manager, whatever its transports do in the world. -/
structure ApplicationManager (W : Type) extends TransportManager W where
  registered : registry.map (fun t => (t.name, t.capabilities)) = applicationCapabilities

namespace ApplicationManager

variable (m : ApplicationManager W)

theorem find_registered (name : String) :
    (m.registry.find? fun t => t.name == name).map (fun t => (t.name, t.capabilities)) =
      applicationCapabilities.find? fun e => e.1 == name := by
  rw [← m.registered, List.find?_map]
  rfl

/-- A transport the manager resolves is one of the application's. -/
theorem resolve_ok {name : String} {transport : BaseTransport W}
    (h : m.resolve name = .ok transport) :
    transport.name = name ∧ (name, transport.capabilities) ∈ applicationCapabilities := by
  have hfind := m.find_registered name
  unfold TransportManager.resolve at h
  split at h
  · rename_i found hfound
    cases h
    have hname : transport.name = name := by simpa using List.find?_some hfound
    rw [hfound, Option.map_some] at hfind
    have hmem := List.mem_of_find?_eq_some hfind.symm
    rw [hname] at hmem
    exact ⟨hname, hmem⟩
  · cases h

/-- The application's transports are resolved by their names. -/
theorem resolve_of_find {name : String} {capabilities : List TransportCapability}
    (h : (applicationCapabilities.find? fun e => e.1 == name) = some (name, capabilities)) :
    ∃ transport, m.resolve name = .ok transport ∧ transport.name = name ∧
      transport.capabilities = capabilities := by
  have hfind := m.find_registered name
  rw [h, Option.map_eq_some_iff] at hfind
  obtain ⟨transport, hfound, heq⟩ := hfind
  cases heq
  exact ⟨transport, by simp only [TransportManager.resolve, hfound], rfl, rfl⟩

end ApplicationManager

end Transports
end NetOps
