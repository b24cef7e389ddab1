import NetOps.Discovery.Classified
import NetOps.Discovery.Policy

/-!
# Discovery.Fallback

`discover_with_fallback` (`discovery/multi_transport.py`) with everything its caller in the
execution does without: the probing of services and the order it leads to, collectors that do
whatever they like, the device information of a payload, and a result nobody records attempts for.

* `discoverWithFallback`: the loop over the transports and its result.
* `discoverWithFallback_configOf`: with probing off and the collectors of the execution, it is the
  fallback of `Discovery.MultiTransport`.
-/

namespace NetOps
namespace Discovery
namespace Fallback

open Conc
open MultiTransportDiscoveryOrchestrator (classifyException safeFailureMessage identifies
  startAttempt finishAttempt)

/-! ## Configurations and results -/

/-- `collect` returns `none` for what is no dictionary; `validatePayload` is there for a collector
with a parser. -/
structure TransportAttemptConfig where
  transportName : String
  capability : TransportCapability
  healthCheck : M Unit
  collect : M (Option PyDict)
  validatePayload : Option (PyDict → M (Option PyDict)) := none

/-- What is known of a device: a dictionary of the payload, or single fields. -/
inductive DeviceInfo where
  | nested (value : PyVal)
  | fields (d : PyDict)

structure TransportAttemptResult extends
    MultiTransportDiscoveryOrchestrator.TransportAttemptResult where
  deviceInfo : Option DeviceInfo := none

structure MultiTransportDiscoveryResult where
  address : String
  resultState : DiscoveryResultState
  selectedTransport : Option String
  attempts : List TransportAttemptResult
  discoveryPayload : Option PyDict
  deviceInfo : Option DeviceInfo
  completedAt : DateTime

/-! ## The order of the transports -/

/-- The orchestrator. `probeHost` returns the services that answered. -/
structure Orchestrator where
  probeHost : String → List TransportService → M (List TransportService)
  enableServiceProbing : Bool := false
  allowReorderTransports : Bool := false

/-- The services `_probe_services_for_host` asks for. -/
def servicesToProbe (configs : List TransportAttemptConfig) : List TransportService :=
  (configs.filterMap fun config => capabilityToService config.capability).eraseDups

/-- The service of the configuration is available. -/
def available (services : List TransportService) (config : TransportAttemptConfig) : Bool :=
  (capabilityToService config.capability).any services.contains

/-- `_reorder_transports_by_availability`. -/
def reorder (configs : List TransportAttemptConfig) (services : List TransportService) :
    List TransportAttemptConfig :=
  configs.filter (available services) ++ configs.filter fun config => !available services config

/-- The order in which the transports are attempted. -/
def effectiveConfigs (o : Orchestrator) (address : String) (configs : List TransportAttemptConfig)
    (probeServices : Option Bool) : M (List TransportAttemptConfig) :=
  if probeServices.getD o.enableServiceProbing && decide (1 < configs.length) then
    tryCatch (do
      let services ← o.probeHost address (servicesToProbe configs)
      pure (if o.allowReorderTransports then reorder configs services else configs))
      fun _ => pure configs
  else pure configs

/-! ## One attempt -/

def isDict : PyVal → Bool
  | .other _ _ (some _) => true
  | _ => false

/-- The fields of a payload that describe a device. -/
def extractedInfo (payload : PyDict) : Option DeviceInfo :=
  let extracted := ["hostname", "platform", "vendor", "model", "serial_number"].filterMap fun key =>
    match payload.get? key with
    | none | some .none => none
    | some value => some (key, value)
  if extracted = [] then none else some (.fields extracted)

def deviceInfoOf (payload : PyDict) : Option DeviceInfo :=
  if isDict (payload.getD "device_info") then some (.nested (payload.getD "device_info"))
  else if isDict (payload.getD "facts") then some (.nested (payload.getD "facts"))
  else extractedInfo payload

/-- The payload of an attempt and what it says of the device, if it is useful. -/
def usefulPayload (config : TransportAttemptConfig) :
    M (Option (PyDict × Option DeviceInfo)) := do
  config.healthCheck
  match ← config.collect with
  | none | some [] => pure none
  | some payload => do
    let normalized ← match config.validatePayload with
      | none => pure none
      | some validatePayload => validatePayload payload
    pure (match normalized with
      | some info => some (payload, some (.fields info))
      | none => if identifies payload then some (payload, deviceInfoOf payload) else none)

/-- The result of an attempt of which this became. -/
def resultOf (redact : String → String) (config : TransportAttemptConfig) (attemptOrder : Nat) :
    Except Exn (Option (PyDict × Option DeviceInfo)) → TransportAttemptResult
  | .ok (some (payload, deviceInfo)) => {
      transportName := config.transportName
      attemptOrder := attemptOrder
      payload := some payload
      deviceInfo := deviceInfo }
  | .ok none => {
      transportName := config.transportName
      attemptOrder := attemptOrder
      failureCode := some .discoveryFailed
      failureMessage := some "Collector did not return device identification data" }
  | .error e => {
      transportName := config.transportName
      attemptOrder := attemptOrder
      failureCode := some (classifyException e)
      failureMessage := safeFailureMessage redact e.text }

/-- `_execute_transport_attempt`. -/
def executeTransportAttempt (redact : String → String) (config : TransportAttemptConfig)
    (attemptOrder : Nat) : M TransportAttemptResult := do
  let outcome ← catching (usefulPayload config)
  pure (resultOf redact config attemptOrder outcome)

/-- One round of the loop: an attempt, recorded if there is a device result to record it for. -/
def attempt (redact : String → String) (deviceResult : Option DiscoveryDeviceResultRecord)
    (config : TransportAttemptConfig) (attemptOrder : Nat) : M TransportAttemptResult := do
  let record ← match deviceResult with
    | none => pure none
    | some deviceResult => startAttempt deviceResult config.transportName attemptOrder
  let r ← executeTransportAttempt redact config attemptOrder
  finishAttempt redact record r.toTransportAttemptResult
  pure r

/-! ## The loop -/

/-- The variables of the loop. -/
structure Outcome where
  attempts : List TransportAttemptResult := []
  successfulPayload : Option PyDict := none
  selectedTransport : Option String := none
  deviceInfo : Option DeviceInfo := none
  hostIsReachable : Bool := false
  anyAuthFailed : Bool := false
  anyServiceAvailable : Bool := false
  anyTransportUnavailable : Bool := false
  isFullyDiscovered : Bool := false

/-- Take in the result of one attempt. -/
def Outcome.add (o : Outcome) (r : TransportAttemptResult) : Outcome :=
  if r.success then
    { o with
      attempts := o.attempts ++ [r]
      successfulPayload := r.payload
      selectedTransport := some r.transportName
      deviceInfo := r.deviceInfo
      hostIsReachable := true
      anyServiceAvailable := true
      isFullyDiscovered := true }
  else
    let i := classifyTransportFailure r.failureCode
    { o with
      attempts := o.attempts ++ [r]
      hostIsReachable := o.hostIsReachable || i.isReachable
      anyAuthFailed := o.anyAuthFailed || i.authFailed
      anyServiceAvailable := o.anyServiceAvailable || i.serviceAvailable
      anyTransportUnavailable := o.anyTransportUnavailable || i.transportUnavailable }

def Outcome.result (o : Outcome) (address : String) (completedAt : DateTime) :
    MultiTransportDiscoveryResult where
  address := address
  resultState := .fromFailureAndSuccess o.hostIsReachable o.anyServiceAvailable o.anyAuthFailed
    false o.isFullyDiscovered o.anyTransportUnavailable
  selectedTransport := o.selectedTransport
  attempts := o.attempts
  discoveryPayload := o.successfulPayload
  deviceInfo := o.deviceInfo
  completedAt := completedAt

/-- The attempts from `attemptOrder` on, until one succeeds. -/
def attemptAll (redact : String → String) (deviceResult : Option DiscoveryDeviceResultRecord) :
    Nat → Outcome → List TransportAttemptConfig → M Outcome
  | _, o, [] => pure o
  | attemptOrder, o, config :: configs => do
    let r ← attempt redact deviceResult config attemptOrder
    if r.success then pure (o.add r)
    else attemptAll redact deviceResult (attemptOrder + 1) (o.add r) configs

/-- `discover_with_fallback`. -/
def discoverWithFallback (o : Orchestrator) (redact : String → String) (address : String)
    (configs : List TransportAttemptConfig) (deviceResult : Option DiscoveryDeviceResultRecord)
    (probeServices : Option Bool) : M MultiTransportDiscoveryResult := do
  let effective ← effectiveConfigs o address configs probeServices
  let outcome ← attemptAll redact deviceResult 1 {} effective
  let completedAt ← utcNow
  pure (outcome.result address completedAt)

/-! ## The fallback of the execution -/

/-- A transport as the execution sets it up. Of the device information only whether there is any
is followed there. -/
def configOf (config : MultiTransportDiscoveryOrchestrator.TransportAttemptConfig) :
    TransportAttemptConfig where
  transportName := config.transportName
  capability := config.capability
  healthCheck := callCollector config.context config.cancellationCheck
    (config.collector.healthCheck config.context)
  collect := some <$> callCollector config.context config.cancellationCheck
    (config.collector.collect config.context)
  validatePayload :=
    if config.collector.parser.isSome then
      some fun payload =>
        (fun valid => if valid then some [] else none) <$>
          unwrap (config.collector.normalize config.context payload)
    else none

theorem usefulPayload_configOf
    (config : MultiTransportDiscoveryOrchestrator.TransportAttemptConfig) :
    (Option.map (·.1)) <$> usefulPayload (configOf config) =
      MultiTransportDiscoveryOrchestrator.attemptPayload config := by
  unfold usefulPayload MultiTransportDiscoveryOrchestrator.attemptPayload
    MultiTransportDiscoveryOrchestrator.validates
  rw [map_bind]
  refine bind_congr fun _ => ?_
  change _ <$> (some <$> _ >>= _) = _
  rw [bind_map_left, map_bind]
  refine bind_congr fun payload => ?_
  cases payload with
  | nil => rfl
  | cons item payload =>
    rw [if_neg (List.cons_ne_nil item payload)]
    cases hparser : config.collector.parser.isSome with
    | false => simp [configOf, hparser, unwrap, identifies]
    | true =>
      simp [configOf, hparser]
      cases config.collector.normalize config.context (item :: payload) with
      | error e => rfl
      | ok valid => cases valid <;> simp [unwrap]

theorem catching_map {α β : Type} (f : α → β) (m : M α) :
    catching (f <$> m) = Except.map f <$> catching m := by
  apply ExceptT.ext
  simp only [catching, ExceptT.run_tryCatch, ExceptT.run_bind, bind_assoc, map_eq_pure_bind]
  refine bind_congr fun r => ?_
  cases r <;> rfl

theorem executeTransportAttempt_configOf (redact : String → String)
    (config : MultiTransportDiscoveryOrchestrator.TransportAttemptConfig) (n : Nat) :
    (·.toTransportAttemptResult) <$> executeTransportAttempt redact (configOf config) n =
      MultiTransportDiscoveryOrchestrator.executeTransportAttempt redact config n := by
  unfold executeTransportAttempt MultiTransportDiscoveryOrchestrator.executeTransportAttempt
  rw [← usefulPayload_configOf, catching_map, map_bind, bind_map_left]
  refine bind_congr fun outcome => ?_
  rcases outcome with e | _ | ⟨payload, info⟩ <;> rfl

/-- The result as the execution sees it. -/
def MultiTransportDiscoveryResult.seen (result : MultiTransportDiscoveryResult) :
    MultiTransportDiscoveryOrchestrator.MultiTransportDiscoveryResult where
  resultState := result.resultState
  selectedTransport := result.selectedTransport
  attempts := result.attempts.map (·.toTransportAttemptResult)
  discoveryPayload := result.discoveryPayload
  completedAt := result.completedAt

/-- Nothing has been found so far. -/
structure Outcome.Fruitless (o : Outcome) : Prop where
  payload : o.successfulPayload = none
  transport : o.selectedTransport = none
  deviceInfo : o.deviceInfo = none
  discovered : o.isFullyDiscovered = false

/-- What the execution's loop keeps of the same attempts. -/
structure Outcome.Matches (o : Outcome)
    (p : MultiTransportDiscoveryOrchestrator.Progress) : Prop where
  attempts : o.attempts.map (·.toTransportAttemptResult) = p.attempts.reverse
  transport : o.selectedTransport = p.success.map (·.transportName)
  payload : o.successfulPayload = p.success.bind (·.payload)
  reachable : o.hostIsReachable = p.hostIsReachable
  authFailed : o.anyAuthFailed = p.anyAuthFailed
  service : o.anyServiceAvailable = p.anyServiceAvailable
  unavailable : o.anyTransportUnavailable = p.anyTransportUnavailable
  discovered : o.isFullyDiscovered = p.success.isSome

theorem Outcome.Matches.seen {o : Outcome}
    {p : MultiTransportDiscoveryOrchestrator.Progress} (h : o.Matches p) (address : String)
    (now : DateTime) : (o.result address now).seen = p.result now := by
  simp only [Outcome.result, MultiTransportDiscoveryResult.seen,
    MultiTransportDiscoveryOrchestrator.Progress.result, h.attempts, h.transport, h.payload,
    h.reachable, h.authFailed, h.service, h.unavailable, h.discovered]

theorem Outcome.Matches.add {o : Outcome} {p : MultiTransportDiscoveryOrchestrator.Progress}
    (h : o.Matches p) (hnone : o.Fruitless) (r : TransportAttemptResult) :
    (o.add r).Matches (p.add r.toTransportAttemptResult) := by
  have hattempts : (o.attempts ++ [r]).map (·.toTransportAttemptResult) =
      (r.toTransportAttemptResult :: p.attempts).reverse := by
    rw [List.map_append, h.attempts, List.reverse_cons, List.map_singleton]
  unfold Outcome.add MultiTransportDiscoveryOrchestrator.Progress.add
  cases hr : r.success with
  | true =>
    simp only [if_true]
    constructor <;> simp only [hattempts, h.authFailed, h.unavailable,
      MultiTransportDiscoveryOrchestrator.Progress.success, List.head?_cons, Option.filter_some, hr,
      if_true, Option.map_some, Option.bind_some, Option.isSome_some]
  | false =>
    simp only [Bool.false_eq_true, if_false]
    constructor <;> simp only [hattempts, h.reachable, h.authFailed, h.service, h.unavailable,
      hnone.transport, hnone.payload, hnone.discovered,
      MultiTransportDiscoveryOrchestrator.Progress.success, List.head?_cons, Option.filter_some, hr,
      Bool.false_eq_true, if_false, Option.map_none, Option.bind_none, Option.isSome_none]

/-- The loop, followed by what uses the matching results in the same way. -/
theorem attemptAll_configOf {α : Type} (redact : String → String)
    (deviceResult : DiscoveryDeviceResultRecord)
    {k : Outcome → M α} {k' : MultiTransportDiscoveryOrchestrator.Progress → M α}
    (hk : ∀ o p, o.Matches p → k o = k' p)
    (configs : List MultiTransportDiscoveryOrchestrator.TransportAttemptConfig) (n : Nat)
    {o : Outcome} {p : MultiTransportDiscoveryOrchestrator.Progress} (h : o.Matches p)
    (hnone : o.Fruitless) :
    attemptAll redact (some deviceResult) n o (configs.map configOf) >>= k =
      MultiTransportDiscoveryOrchestrator.attemptAll redact deviceResult n p configs >>= k' := by
  induction configs generalizing n o p with
  | nil => exact hk o p h
  | cons config configs ih =>
    unfold MultiTransportDiscoveryOrchestrator.attemptAll
    rw [List.map_cons, attemptAll, attempt]
    simp only [bind_assoc, pure_bind]
    refine bind_congr fun record => ?_
    rw [← executeTransportAttempt_configOf, bind_map_left]
    refine bind_congr fun r => bind_congr fun _ => ?_
    have hadd := h.add hnone r
    cases hr : r.success with
    | true =>
      simp only [if_true, pure_bind]
      exact hk _ _ hadd
    | false =>
      simp only [Bool.false_eq_true, if_false]
      refine ih (n + 1) hadd ?_
      rw [Outcome.add, if_neg (by rw [hr]; exact Bool.false_ne_true)]
      exact ⟨hnone.payload, hnone.transport, hnone.deviceInfo, hnone.discovered⟩

/-- The fallback of the execution is this one, with probing off. -/
theorem discoverWithFallback_configOf (o : Orchestrator) (redact : String → String)
    (address : String)
    (configs : List MultiTransportDiscoveryOrchestrator.TransportAttemptConfig)
    (deviceResult : DiscoveryDeviceResultRecord) :
    MultiTransportDiscoveryResult.seen <$> discoverWithFallback o redact address
        (configs.map configOf) (some deviceResult) (some false) =
      MultiTransportDiscoveryOrchestrator.discoverWithFallback redact configs deviceResult := by
  have heffective : effectiveConfigs o address (configs.map configOf) (some false) =
      pure (configs.map configOf) := by
    rw [effectiveConfigs, if_neg]
    exact Bool.false_ne_true
  unfold discoverWithFallback MultiTransportDiscoveryOrchestrator.discoverWithFallback
  rw [heffective, pure_bind, map_bind]
  refine attemptAll_configOf redact deviceResult (fun outcome p h => ?_) configs 1
    ⟨rfl, rfl, rfl, rfl, rfl, rfl, rfl, rfl⟩ ⟨rfl, rfl, rfl, rfl⟩
  rw [map_bind]
  exact bind_congr fun now => by rw [map_pure, h.seen]

end Fallback
end Discovery
end NetOps
