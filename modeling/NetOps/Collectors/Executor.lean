import Mathlib.Data.Rat.Defs
import Mathlib.Algebra.Order.Ring.Unbundled.Rat
import NetOps.Dict
import NetOps.Discovery.Collectors
import NetOps.Retries

/-!
# Collectors.Executor

The executor of collector jobs (`collectors/runtime/executor.py`). Whatever it awaits is a `Call`:
how the call ends and which `job.cancel` calls are made meanwhile come from outside, and so does the
`TimeoutError` of `asyncio.wait_for`, which a call ends with when the time of its attempt is up.

* `Call.await_bind`: awaiting a call and then another is awaiting the two of them as one.
* `runOnce_run`: so an attempt ends as its calls do, one after the other.
-/

namespace NetOps
namespace Collectors
namespace Executor

open Discovery (CollectorCapability TransportCapability)
open Retries

variable {S α β : Type}

/-! ## States and metrics -/

inductive CollectorExecutionStatus where
  | pending
  | queued
  | running
  | retrying
  | succeeded
  | failed
  | cancelled
  | timedOut
  deriving DecidableEq

structure CollectorExecutionState where
  status : CollectorExecutionStatus := .pending
  attempts : Nat := 0
  errorMessage : Option String := none
  deriving DecidableEq

namespace CollectorExecutionState

def markQueued (s : CollectorExecutionState) : CollectorExecutionState :=
  { s with status := .queued }

def markRunning (s : CollectorExecutionState) : CollectorExecutionState :=
  { s with status := .running }

/-- The message of `mark_retrying` goes to the progress only. -/
def markRetrying (s : CollectorExecutionState) : CollectorExecutionState :=
  { s with status := .retrying }

def markSucceeded (s : CollectorExecutionState) : CollectorExecutionState :=
  { s with status := .succeeded }

def markFailed (s : CollectorExecutionState) (message : String) : CollectorExecutionState :=
  { s with errorMessage := some message, status := .failed }

def markCancelled (s : CollectorExecutionState) (message : Option String) :
    CollectorExecutionState :=
  { s with errorMessage := message, status := .cancelled }

def markTimedOut (s : CollectorExecutionState) (message : String) : CollectorExecutionState :=
  { s with errorMessage := some message, status := .timedOut }

def incrementAttempts (s : CollectorExecutionState) : CollectorExecutionState :=
  { s with attempts := s.attempts + 1 }

end CollectorExecutionState

structure CollectorRuntimeMetrics where
  submitted : Nat := 0
  started : Nat := 0
  succeeded : Nat := 0
  failed : Nat := 0
  cancelled : Nat := 0
  retried : Nat := 0
  timedOut : Nat := 0
  deriving DecidableEq

namespace CollectorRuntimeMetrics

def recordStarted (m : CollectorRuntimeMetrics) : CollectorRuntimeMetrics :=
  { m with started := m.started + 1 }

def recordSucceeded (m : CollectorRuntimeMetrics) : CollectorRuntimeMetrics :=
  { m with succeeded := m.succeeded + 1 }

def recordFailed (m : CollectorRuntimeMetrics) : CollectorRuntimeMetrics :=
  { m with failed := m.failed + 1 }

def recordCancelled (m : CollectorRuntimeMetrics) : CollectorRuntimeMetrics :=
  { m with cancelled := m.cancelled + 1 }

def recordRetry (m : CollectorRuntimeMetrics) : CollectorRuntimeMetrics :=
  { m with retried := m.retried + 1 }

def recordTimedOut (m : CollectorRuntimeMetrics) : CollectorRuntimeMetrics :=
  { m with timedOut := m.timedOut + 1 }

end CollectorRuntimeMetrics

/-! ## Jobs -/

structure CollectorRuntimeContext where
  requiredCapabilities : List CollectorCapability := []
  preferredCollectorName : Option String := none
  preferredTransportName : Option String := none
  maxAttempts : Int := 1
  retryDelaySeconds : ℚ := 0

structure CollectorJob where
  context : CollectorRuntimeContext
  state : CollectorExecutionState := {}
  cancellationEvent : Bool := false

namespace CollectorJob

def cancel (job : CollectorJob) (reason : Option String) : CollectorJob :=
  { job with cancellationEvent := true, state := job.state.markCancelled reason }

def isCancelled (job : CollectorJob) : Bool := job.cancellationEvent

end CollectorJob

/-! ## Errors -/

inductive CollectorExecutionError where
  | notFound (message : String)
  | transportSelection (message : String)
  | stateError (message : String)
  | cancelled (message : String)
  | timeout (message : String)
  | retryExhausted (message : String)
  | other (message : String)
  deriving DecidableEq

/-- What a call may raise. `cancelledError` is the one of `asyncio`, `exception` is any other
`Exception`, and `baseException` what no `except` clause of the executor takes. -/
inductive Raised where
  | cancelledError
  | collectorExecution (e : CollectorExecutionError)
  | timeoutError (message : String)
  | exception (message : String)
  | baseException (message : String)
  deriving DecidableEq

/-! ## Runs -/

/-- What happens to a job: a call of `cancel`, and the start of an attempt. -/
inductive Event where
  | cancelled
  | started
  deriving DecidableEq

/-- The job and the metrics while the executor runs, and what has happened to the job so far. -/
structure Run where
  job : CollectorJob
  metrics : CollectorRuntimeMetrics := {}
  log : List Event := []

namespace Run

def cancel (r : Run) (reason : Option String) : Run :=
  { r with job := r.job.cancel reason, log := r.log ++ [.cancelled] }

def cancelAll (r : Run) (reasons : List (Option String)) : Run := reasons.foldl cancel r

/-- `increment_attempts`, `mark_running` and `record_started`. -/
def start (r : Run) : Run where
  job := { r.job with state := r.job.state.incrementAttempts.markRunning }
  metrics := r.metrics.recordStarted
  log := r.log ++ [.started]

def mark (r : Run) (state : CollectorExecutionState) (metrics : CollectorRuntimeMetrics) : Run :=
  { r with job := { r.job with state }, metrics }

@[simp] theorem cancelAll_nil (r : Run) : r.cancelAll [] = r := rfl

theorem cancelAll_cons (r : Run) (reason : Option String) (reasons : List (Option String)) :
    r.cancelAll (reason :: reasons) = (r.cancel reason).cancelAll reasons := rfl

theorem cancelAll_append (r : Run) (first second : List (Option String)) :
    r.cancelAll (first ++ second) = (r.cancelAll first).cancelAll second := List.foldl_append

@[simp] theorem cancelAll_metrics (r : Run) (reasons : List (Option String)) :
    (r.cancelAll reasons).metrics = r.metrics := by
  induction reasons generalizing r with
  | nil => rfl
  | cons reason reasons ih =>
    rw [cancelAll_cons, ih]
    rfl

@[simp] theorem cancelAll_attempts (r : Run) (reasons : List (Option String)) :
    (r.cancelAll reasons).job.state.attempts = r.job.state.attempts := by
  induction reasons generalizing r with
  | nil => rfl
  | cons reason reasons ih =>
    rw [cancelAll_cons, ih]
    rfl

@[simp] theorem cancelAll_log (r : Run) (reasons : List (Option String)) :
    (r.cancelAll reasons).log = r.log ++ reasons.map fun _ => .cancelled := by
  induction reasons generalizing r with
  | nil => simp
  | cons reason reasons ih =>
    rw [cancelAll_cons, ih]
    simp [cancel]

theorem cancelAll_status (r : Run) (reasons : List (Option String)) :
    (r.cancelAll reasons).job.state.status =
      if reasons = [] then r.job.state.status else .cancelled := by
  induction reasons generalizing r with
  | nil => rfl
  | cons reason reasons ih =>
    rw [cancelAll_cons, ih]
    simp [cancel, CollectorJob.cancel, CollectorExecutionState.markCancelled]

end Run

/-! ## Calls -/

/-- A call: the reasons of the `job.cancel` calls made until it ends, and how it ends. -/
structure Call (α : Type) where
  cancels : List (Option String) := []
  ends : Except Raised α

namespace Call

/-- The second call is made if the first one returns. -/
def bind (c : Call α) (f : α → Call β) : Call β :=
  match c.ends with
  | .ok a => { cancels := c.cancels ++ (f a).cancels, ends := (f a).ends }
  | .error e => { cancels := c.cancels, ends := .error e }

instance : Monad Call where
  pure a := { ends := .ok a }
  bind := bind

end Call

/-- What the executor does with the job at hand. -/
abbrev Exec := ExceptT Raised (StateM Run)

def Call.await (c : Call α) : Exec α := fun r => (c.ends, r.cancelAll c.cancels)

theorem Call.await_pure (a : α) : (pure a : Call α).await = pure a := rfl

theorem Call.await_bind (c : Call α) (f : α → Call β) :
    (c >>= f).await = c.await >>= fun a => (f a).await := by
  funext r
  change ((c.bind f).ends, r.cancelAll (c.bind f).cancels) = _
  cases c with
  | mk cancels ends =>
    cases ends with
    | error e => rfl
    | ok a =>
      change ((f a).ends, r.cancelAll (cancels ++ (f a).cancels)) = _
      rw [Run.cancelAll_append]
      rfl

theorem Call.await_ok {c : Call α} {a : α} (h : c.ends = .ok a) (f : α → Exec β) (r : Run) :
    (c.await >>= f).run r = (f a).run (r.cancelAll c.cancels) := by
  cases c
  cases h
  rfl

theorem Call.await_error {c : Call α} {e : Raised} (h : c.ends = .error e) (f : α → Exec β)
    (r : Run) : (c.await >>= f).run r = (.error e, r.cancelAll c.cancels) := by
  cases c
  cases h
  rfl

/-- What the executor uses of a processed payload. -/
structure Processed (S : Type) where
  snapshot : S
  parserName : String

/-- What an attempt awaits, and the delay after it. -/
structure Attempt (S : Type) where
  openSession : Call Unit
  healthCheck : Call Unit
  collect : Call Unit
  process : Call (Processed S)
  save : Call Unit
  delay : Call Unit

/-! ## Collectors and transports -/

structure BaseCollector where
  name : String
  capabilities : List CollectorCapability

structure BaseTransport where
  name : String
  capabilities : List TransportCapability

structure CollectorExecutor where
  collectorRegistry : Dict String BaseCollector
  transports : Dict String BaseTransport

structure CollectorExecutionResult (S : Type) where
  collectorName : String
  status : CollectorExecutionStatus
  snapshot : S
  transportName : Option String
  parserName : String
  attempts : Nat

namespace CollectorExecutor

/-- `_resolve_collector`. -/
def resolveCollector (x : CollectorExecutor) (context : CollectorRuntimeContext) :
    Except Raised BaseCollector :=
  match context.preferredCollectorName with
  | some name =>
    match x.collectorRegistry.get? name with
    | some collector => .ok collector
    | none => .error (.collectorExecution (.notFound s!"Unknown collector: {name}"))
  | none =>
    match x.collectorRegistry.values.filter
      fun c => context.requiredCapabilities.all c.capabilities.contains with
    | collector :: _ => .ok collector
    | [] => .error (.collectorExecution
      (.notFound "No collector matched the requested capabilities."))

/-- `_collector_transport_capabilities`. -/
def collectorTransportCapabilities (collector : BaseCollector) : List TransportCapability :=
  collector.capabilities.flatMap fun capability =>
    TransportCapability.all.filter fun t => t.value == capability.value

/-- `_resolve_transport`. The manager raises `TransportUnavailableError` for an unknown name, which
is no `KeyError`. -/
def resolveTransport (x : CollectorExecutor) (collector : BaseCollector)
    (context : CollectorRuntimeContext) :
    Except Raised (Option String × List TransportCapability) :=
  let capabilities := collectorTransportCapabilities collector
  match context.preferredTransportName with
  | some name =>
    match x.transports.get? name with
    | none => .error (.exception s!"Unknown transport: {name}")
    | some transport =>
      if capabilities.all transport.capabilities.contains then
        .ok (some transport.name, transport.capabilities)
      else .error (.collectorExecution
        (.transportSelection "Preferred transport does not satisfy collector requirements."))
  | none =>
    if capabilities.isEmpty then .ok (none, [])
    else
      match x.transports.values.filter fun t => capabilities.all t.capabilities.contains with
      | transport :: _ => .ok (some transport.name, transport.capabilities)
      | [] => .error (.collectorExecution
        (.transportSelection "No transport matched the collector capability requirements."))

/-- The collector and the name of the transport that the attempts of a job use. -/
def resolve (x : CollectorExecutor) (context : CollectorRuntimeContext) :
    Except Raised (BaseCollector × Option String) := do
  let collector ← x.resolveCollector context
  let transport ← x.resolveTransport collector context
  return (collector, transport.1)

end CollectorExecutor

/-! ## Attempts -/

/-- `_run_once`. -/
def runOnce (collector : BaseCollector) (transportName : Option String) (a : Attempt S) :
    Exec (CollectorExecutionResult S) := do
  if transportName.isSome then
    a.openSession.await
  a.healthCheck.await
  a.collect.await
  let processed ← a.process.await
  a.save.await
  let r ← get
  return {
    collectorName := collector.name
    status := .succeeded
    snapshot := processed.snapshot
    transportName
    parserName := processed.parserName
    attempts := r.job.state.attempts }

/-- The calls of an attempt, one after the other. -/
def Attempt.call (a : Attempt S) (opens : Bool) : Call (Processed S) := do
  if opens then
    a.openSession
  a.healthCheck
  a.collect
  let processed ← a.process
  a.save
  return processed

def resultOf (collector : BaseCollector) (transportName : Option String) (attempts : Nat)
    (processed : Processed S) : CollectorExecutionResult S where
  collectorName := collector.name
  status := .succeeded
  snapshot := processed.snapshot
  transportName := transportName
  parserName := processed.parserName
  attempts := attempts

theorem runOnce_run (collector : BaseCollector) (transportName : Option String) (a : Attempt S)
    (r : Run) :
    (runOnce collector transportName a).run r =
      ((a.call transportName.isSome).ends.map
        (resultOf collector transportName r.job.state.attempts),
      r.cancelAll (a.call transportName.isSome).cancels) := by
  have hcall : runOnce collector transportName a =
      (a.call transportName.isSome).await >>= fun processed => do
        let r ← get
        return resultOf collector transportName r.job.state.attempts processed := by
    unfold runOnce Attempt.call
    split
    · simp only [Call.await_bind, Call.await_pure, bind_assoc, pure_bind]
      rfl
    · simp only [Call.await_bind, Call.await_pure, bind_assoc, pure_bind]
      rfl
  rw [hcall]
  cases hends : (a.call transportName.isSome).ends with
  | error e => exact Call.await_error hends _ r
  | ok processed =>
    rw [Call.await_ok hends]
    change (Except.ok (resultOf collector transportName
      (r.cancelAll (a.call transportName.isSome).cancels).job.state.attempts processed), _) = _
    rw [Run.cancelAll_attempts]
    rfl

/-- `_sleep`. -/
def sleep (delaySeconds : ℚ) (delay : Call Unit) : Exec Unit := do
  if delaySeconds > 0 then
    delay.await

/-- `max(1, context.max_attempts)`. -/
def CollectorRuntimeContext.attemptLimit (context : CollectorRuntimeContext) : Nat :=
  (max 1 context.maxAttempts).toNat

abbrev Outcome (S : Type) := Except Raised (CollectorExecutionResult S)

def cancelledMessage : String := "Collector execution cancelled."

def exhausted : Raised :=
  .collectorExecution (.retryExhausted "Collector execution retries were exhausted.")

/-- The `except` and `else` clauses; `none` is for the delay and the next attempt. -/
def handle (again : Bool) : Outcome S → Run → Option (Outcome S) × Run
  | .error .cancelledError, r =>
    let r := r.cancel (some cancelledMessage)
    (some (.error (.collectorExecution (.cancelled cancelledMessage))),
      r.mark r.job.state r.metrics.recordCancelled)
  | .error (.collectorExecution (.cancelled message)), r =>
    (some (.error (.collectorExecution (.cancelled message))),
      r.mark (r.job.state.markCancelled (some cancelledMessage)) r.metrics.recordCancelled)
  | .error (.timeoutError message), r =>
    if again then
      (none, r.mark (r.job.state.markTimedOut message).markRetrying
        r.metrics.recordTimedOut.recordRetry)
    else
      (some (.error (.collectorExecution (.timeout "Collector execution timed out."))),
        r.mark (r.job.state.markTimedOut message) r.metrics.recordTimedOut)
  | .error (.collectorExecution e), r => (some (.error (.collectorExecution e)), r)
  | .error (.exception message), r =>
    if again then (none, r.mark r.job.state.markRetrying r.metrics.recordRetry)
    else
      (some (.error exhausted), r.mark (r.job.state.markFailed message) r.metrics.recordFailed)
  | .error (.baseException message), r => (some (.error (.baseException message)), r)
  | .ok result, r => (some (.ok result), r.mark r.job.state.markSucceeded r.metrics.recordSucceeded)

/-- The body of the loop of `execute`, for attempt `i + 1`. -/
def attempt (context : CollectorRuntimeContext) (collector : BaseCollector)
    (transportName : Option String) (rounds : Nat → Attempt S) (i : Nat) (r : Run) :
    Option (Outcome S) × Run :=
  let (ended, r) := (runOnce collector transportName (rounds i)).run r.start
  match handle (i + 1 < context.attemptLimit) ended r with
  | (some outcome, r) => (some outcome, r)
  | (none, r) =>
    match (sleep context.retryDelaySeconds (rounds i).delay).run r with
    | (.ok (), r) => (none, r)
    | (.error e, r) => (some (.error e), r)

/-- `execute`, when attempt `i + 1` goes as `rounds i`. -/
def CollectorExecutor.execute (x : CollectorExecutor) (rounds : Nat → Attempt S) (r : Run) :
    Outcome S × Run :=
  if r.job.isCancelled then
    (.error (.collectorExecution (.cancelled "Collector job was cancelled.")), r)
  else
    match x.resolve r.job.context with
    | .error e => (.error e, r)
    | .ok (collector, transportName) =>
      retry (attempt r.job.context collector transportName rounds) (.error exhausted)
        r.job.context.attemptLimit 0 r

/-- An executor with one collector, which needs no transport. -/
def interfacesExecutor : CollectorExecutor where
  collectorRegistry := Dict.empty.insert "interfaces" ⟨"interfaces", [.interfaces]⟩
  transports := Dict.empty

def returningAttempt : Attempt String where
  openSession := pure ()
  healthCheck := pure ()
  collect := pure ()
  process := pure ⟨"snapshot", "interfaces-parser"⟩
  save := pure ()
  delay := pure ()

example : ((interfacesExecutor.execute (fun _ => returningAttempt)
    { job := { context := {} } }).1.map fun result =>
      (result.collectorName, result.snapshot, result.attempts)) =
    .ok ("interfaces", "snapshot", 1) := by decide

end Executor
end Collectors
end NetOps
