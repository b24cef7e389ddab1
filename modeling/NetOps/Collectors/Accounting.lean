import Mathlib.Data.Nat.Count
import NetOps.Collectors.Attempts

/-!
# Collectors.Accounting

The metrics of the executor against the states of its jobs. `success_rate` takes `succeeded`,
`failed`, `cancelled` and `timed_out` together for the number of finished jobs.

* `retried_tally`: what the retried attempts of an execution leave in the metrics.
* `balanced_iff`: an execution ends in a terminal state and counts it once, exactly when its retried
  attempts all failed with a plain exception and the attempt it ends with returned, was cancelled,
  or was the last. A retried timeout is counted as a finished job, while a job that was cancelled
  before, could not be resolved, or raised a `CollectorExecutionError` is not counted at all.
-/

namespace NetOps
namespace Collectors
namespace Executor

open Retries

variable {S : Type}

def CollectorExecutionStatus.IsTerminal (status : CollectorExecutionStatus) : Prop :=
  status = .succeeded ∨ status = .failed ∨ status = .cancelled ∨ status = .timedOut

/-- The jobs finished in a terminal state. -/
def CollectorRuntimeMetrics.finishedAs (m : CollectorRuntimeMetrics) :
    CollectorExecutionStatus → Nat
  | .succeeded => m.succeeded
  | .failed => m.failed
  | .cancelled => m.cancelled
  | .timedOut => m.timedOut
  | .pending | .queued | .running | .retrying => 0

/-- The job is in a terminal state, which is the one that was counted. -/
@[mk_iff]
structure Balanced (before after : Run) : Prop where
  terminal : after.job.state.status.IsTerminal
  counted : ∀ status : CollectorExecutionStatus, status.IsTerminal →
    after.metrics.finishedAs status =
      before.metrics.finishedAs status + if status = after.job.state.status then 1 else 0
  started : before.metrics.started < after.metrics.started →
    (after.metrics.started : Int) - after.metrics.retried =
      before.metrics.started - before.metrics.retried + 1

/-- Attempt `n + 1` ends the execution, and what comes before it was retried after an exception. -/
structure SettledAt (context : CollectorRuntimeContext) (opens : Bool) (rounds : Nat → Attempt S)
    (n : Nat) : Prop where
  lt : n < context.attemptLimit
  failed : ∀ i < n, (rounds i).ending opens = .failed ∧
    ((rounds i).slept context.retryDelaySeconds).ends = .ok ()
  ends : (rounds n).ending opens = .returned ∨ (rounds n).ending opens = .cancelled ∨
    n + 1 = context.attemptLimit ∧
      ((rounds n).ending opens = .timedOut ∨ (rounds n).ending opens = .failed)

/-- The job is not cancelled before, collector and transport are found, and an attempt settles. -/
def Settled (x : CollectorExecutor) (rounds : Nat → Attempt S) (r : Run) : Prop :=
  r.job.isCancelled = false ∧ ∃ collector transportName,
    x.resolve r.job.context = .ok (collector, transportName) ∧
      ∃ n, SettledAt r.job.context transportName.isSome rounds n

theorem SettledAt.first {context : CollectorRuntimeContext} {opens : Bool}
    {rounds : Nat → Attempt S} {n : Nat} (h : SettledAt context opens rounds n) :
    First (Retried context opens rounds) n where
  again := by
    intro i hi
    have hlt := h.lt
    obtain ⟨hfailed, hslept⟩ := h.failed i hi
    exact ⟨by omega, by rw [hfailed]; rfl, hslept⟩
  stops := by
    intro hretried
    have hretries := hretried.retries
    rcases h.ends with hends | hends | ⟨hlast, _⟩
    · rw [hends] at hretries
      cases hretries
    · rw [hends] at hretries
      cases hretries
    · have hleft := hretried.left
      omega

/-! ## The retried attempts -/

/-- The metrics after some retried attempts, of which some timed out. -/
structure Tally (before : CollectorRuntimeMetrics) (attempts timeouts : Nat)
    (m : CollectorRuntimeMetrics) : Prop where
  started : m.started = before.started + attempts
  retried : m.retried = before.retried + attempts
  succeeded : m.succeeded = before.succeeded
  failed : m.failed = before.failed
  cancelled : m.cancelled = before.cancelled
  timedOut : m.timedOut = before.timedOut + timeouts

section

variable {context : CollectorRuntimeContext} {collector : BaseCollector}
  {transportName : Option String} {rounds : Nat → Attempt S} {r : Run} {n : Nat}

def timeouts (opens : Bool) (rounds : Nat → Attempt S) (n : Nat) : Nat :=
  Nat.count (fun i => (rounds i).ending opens = .timedOut) n

theorem tally_succ {before : CollectorRuntimeMetrics} {r : Run} {i : Nat}
    (hi : Retried context transportName.isSome rounds i)
    (h : Tally before i (timeouts transportName.isSome rounds i) r.metrics) :
    Tally before (i + 1) (timeouts transportName.isSome rounds (i + 1))
      (attempt context collector transportName rounds i r).2.metrics := by
  have hretries := hi.retries
  rw [attempt_metrics, timeouts, Nat.count_succ, ← timeouts, decide_eq_true hi.left]
  obtain ⟨h₁, h₂, h₃, h₄, h₅, h₆⟩ := h
  cases hends : (rounds i).ending transportName.isSome with
  | timedOut =>
    constructor <;> simp [Ending.record, CollectorRuntimeMetrics.recordStarted,
      CollectorRuntimeMetrics.recordTimedOut, CollectorRuntimeMetrics.recordRetry, *] <;> omega
  | failed =>
    constructor <;> simp [Ending.record, CollectorRuntimeMetrics.recordStarted,
      CollectorRuntimeMetrics.recordRetry, *] <;> omega
  | returned => simp [hends, Ending.retries] at hretries
  | cancelled => simp [hends, Ending.retries] at hretries
  | unrecorded => simp [hends, Ending.retries] at hretries

theorem retried_tally
    (hn : ∀ i < n, Retried context transportName.isSome rounds i) :
    Tally r.metrics n (timeouts transportName.isSome rounds n)
      (after (attempt context collector transportName rounds) r n).metrics := by
  refine after_of_step (P := fun i (s : Run) => Tally r.metrics i
    (timeouts transportName.isSome rounds i) s.metrics) ?_ ?_ hn
  · intro i s hi h
    exact tally_succ hi h
  · exact ⟨rfl, rfl, rfl, rfl, rfl, rfl⟩

theorem timeouts_eq_zero_iff (hn : ∀ i < n, Retried context transportName.isSome rounds i) :
    timeouts transportName.isSome rounds n = 0 ↔
      ∀ i < n, (rounds i).ending transportName.isSome = .failed := by
  rw [timeouts, Nat.count_iff_forall_not]
  constructor
  · intro h i hi
    have hnot := h i hi
    have hretries := (hn i hi).retries
    cases hends : (rounds i).ending transportName.isSome <;> simp_all [Ending.retries]
  · intro h i hi
    rw [h i hi]
    decide

/-! ## The last attempt -/

theorem not_balanced_self : ¬ Balanced r r := by
  intro h
  have hcounted := h.counted _ h.terminal
  simp at hcounted

theorem counted_iff {before after : Run} :
    (∀ status : CollectorExecutionStatus, status.IsTerminal →
      after.metrics.finishedAs status =
        before.metrics.finishedAs status + if status = after.job.state.status then 1 else 0) ↔
      (after.metrics.succeeded = before.metrics.succeeded +
        if .succeeded = after.job.state.status then 1 else 0) ∧
      (after.metrics.failed = before.metrics.failed +
        if .failed = after.job.state.status then 1 else 0) ∧
      (after.metrics.cancelled = before.metrics.cancelled +
        if .cancelled = after.job.state.status then 1 else 0) ∧
      after.metrics.timedOut = before.metrics.timedOut +
        if .timedOut = after.job.state.status then 1 else 0 := by
  simp only [CollectorExecutionStatus.IsTerminal, or_imp, forall_and, forall_eq,
    CollectorRuntimeMetrics.finishedAs]

/-- An attempt that its clauses end. -/
theorem balanced_ended_iff {s after : Run} {t : Nat} {ending : Ending} {again : Bool}
    {before : CollectorExecutionStatus} (htally : Tally r.metrics n t s.metrics)
    (hbefore : before = .running ∨ before = .cancelled)
    (hmetrics : after.metrics = ending.record again s.metrics.recordStarted)
    (hstatus : after.job.state.status = ending.status again before)
    (hends : ¬ (again = true ∧ ending.retries = true)) :
    Balanced r after ↔ t = 0 ∧ ending ≠ .unrecorded := by
  obtain ⟨h₁, h₂, h₃, h₄, h₅, h₆⟩ := htally
  rw [balanced_iff, counted_iff, hmetrics, hstatus]
  cases ending with
  | returned =>
    simp [Ending.record, Ending.status, CollectorRuntimeMetrics.recordStarted,
      CollectorRuntimeMetrics.recordSucceeded, CollectorExecutionStatus.IsTerminal, *]
    omega
  | cancelled =>
    simp [Ending.record, Ending.status, CollectorRuntimeMetrics.recordStarted,
      CollectorRuntimeMetrics.recordCancelled, CollectorExecutionStatus.IsTerminal, *]
    omega
  | timedOut =>
    have hagain : again = false := by simpa [Ending.retries] using hends
    simp [Ending.record, Ending.status, CollectorRuntimeMetrics.recordStarted,
      CollectorRuntimeMetrics.recordTimedOut, CollectorExecutionStatus.IsTerminal, *]
    omega
  | failed =>
    have hagain : again = false := by simpa [Ending.retries] using hends
    simp [Ending.record, Ending.status, CollectorRuntimeMetrics.recordStarted,
      CollectorRuntimeMetrics.recordFailed, CollectorExecutionStatus.IsTerminal, *]
    omega
  | unrecorded =>
    rcases hbefore with rfl | rfl <;>
      simp [Ending.record, Ending.status, CollectorRuntimeMetrics.recordStarted,
        CollectorExecutionStatus.IsTerminal, *]

/-- The delay after an attempt is interrupted. -/
theorem not_balanced_slept {s : Run} {t : Nat} (htally : Tally r.metrics n t s.metrics)
    (hleft : n + 1 < context.attemptLimit)
    (hretries : ((rounds n).ending transportName.isSome).retries = true) :
    ¬ Balanced r (attempt context collector transportName rounds n s).2 := by
  intro h
  have hcounted := h.counted .cancelled (.inr (.inr (.inl rfl)))
  have hterminal := h.terminal
  rw [attempt_metrics] at hcounted
  rw [slept_status hleft hretries] at hterminal hcounted
  by_cases hcancels : ((rounds n).slept context.retryDelaySeconds).cancels = []
  · simp [hcancels, CollectorExecutionStatus.IsTerminal] at hterminal
  · have hcancelled := htally.cancelled
    cases hends : (rounds n).ending transportName.isSome <;>
      simp_all [Ending.retries, Ending.record, CollectorRuntimeMetrics.finishedAs,
        CollectorRuntimeMetrics.recordStarted, CollectorRuntimeMetrics.recordTimedOut,
        CollectorRuntimeMetrics.recordRetry]

end

/-! ## Executions -/

theorem execute_refused {x : CollectorExecutor} {rounds : Nat → Attempt S} {r : Run}
    (h : r.job.isCancelled = true ∨ ∃ e, x.resolve r.job.context = .error e) :
    (x.execute rounds r).2 = r := by
  unfold CollectorExecutor.execute
  split
  · rfl
  · rcases h with h | ⟨e, he⟩
    · contradiction
    · rw [he]

/-- The attempt that an execution ends with settles it, when its clauses end it. -/
theorem settledAt_iff {context : CollectorRuntimeContext} {opens : Bool}
    {rounds : Nat → Attempt S} {n : Nat} (hn : n < context.attemptLimit)
    (hfirst : First (Retried context opens rounds) n)
    (hends : ¬ (n + 1 < context.attemptLimit ∧ ((rounds n).ending opens).retries = true)) :
    (∃ m, SettledAt context opens rounds m) ↔
      (∀ i < n, (rounds i).ending opens = .failed) ∧ (rounds n).ending opens ≠ .unrecorded := by
  constructor
  · rintro ⟨m, hm⟩
    obtain rfl := hm.first.unique hfirst
    refine ⟨fun i hi => (hm.failed i hi).1, ?_⟩
    intro hunrecorded
    have hsettles := hm.ends
    simp [hunrecorded] at hsettles
  · rintro ⟨hfailed, hrecorded⟩
    refine ⟨n, hn, fun i hi => ⟨hfailed i hi, (hfirst.again i hi).slept⟩, ?_⟩
    cases hending : (rounds n).ending opens with
    | returned => exact .inl rfl
    | cancelled => exact .inr (.inl rfl)
    | timedOut =>
      have hlast : ¬ n + 1 < context.attemptLimit := by
        simpa [hending, Ending.retries] using hends
      exact .inr (.inr ⟨by omega, .inl rfl⟩)
    | failed =>
      have hlast : ¬ n + 1 < context.attemptLimit := by
        simpa [hending, Ending.retries] using hends
      exact .inr (.inr ⟨by omega, .inr rfl⟩)
    | unrecorded => exact absurd hending hrecorded

/-- An execution that is not refused. -/
theorem execute_balanced_iff_settledAt {x : CollectorExecutor} {rounds : Nat → Attempt S} {r : Run}
    {collector : BaseCollector} {transportName : Option String}
    (hopen : r.job.isCancelled = false)
    (hresolve : x.resolve r.job.context = .ok (collector, transportName)) :
    Balanced r (x.execute rounds r).2 ↔
      ∃ n, SettledAt r.job.context transportName.isSome rounds n := by
  obtain ⟨n, hn, hfirst, -, hend⟩ :=
    CollectorExecutor.execute_eq rounds hopen hresolve
  have htally : Tally r.metrics n (timeouts transportName.isSome rounds n)
      (after (attempt r.job.context collector transportName rounds) r n).metrics :=
    retried_tally hfirst.again
  rw [hend, after]
  by_cases hretries : n + 1 < r.job.context.attemptLimit ∧
      ((rounds n).ending transportName.isSome).retries = true
  · have hnot : ¬ ∃ m, SettledAt r.job.context transportName.isSome rounds m := by
      rintro ⟨m, hm⟩
      obtain rfl := hm.first.unique hfirst
      obtain ⟨hleft, hretries⟩ := hretries
      rcases hm.ends with hends | hends | ⟨hlast, _⟩
      · simp [hends, Ending.retries] at hretries
      · simp [hends, Ending.retries] at hretries
      · omega
    simp only [hnot, iff_false]
    exact not_balanced_slept htally hretries.1 hretries.2
  · have hended : (handled r.job.context collector transportName rounds n
        (after (attempt r.job.context collector transportName rounds) r n)).1 ≠ none :=
      mt handled_none.1 hretries
    obtain ⟨outcome, houtcome⟩ := Option.ne_none_iff_exists'.1 hended
    rw [attempt_of_handled houtcome, balanced_ended_iff htally ?_ handled_metrics handled_status
      (by simpa using hretries), timeouts_eq_zero_iff hfirst.again]
    · exact (settledAt_iff hn hfirst hretries).symm
    · split
      · exact .inl rfl
      · exact .inr rfl

/-- A job's execution is accounted for exactly when it settles. -/
theorem execute_balanced_iff (x : CollectorExecutor) (rounds : Nat → Attempt S) (r : Run) :
    Balanced r (x.execute rounds r).2 ↔ Settled x rounds r := by
  cases hopen : r.job.isCancelled with
  | true =>
    rw [execute_refused (.inl hopen)]
    simp [not_balanced_self, Settled, hopen]
  | false =>
    cases hresolve : x.resolve r.job.context with
    | error e =>
      rw [execute_refused (.inr ⟨e, hresolve⟩)]
      simp [not_balanced_self, Settled, hresolve]
    | ok found =>
      obtain ⟨collector, transportName⟩ := found
      rw [execute_balanced_iff_settledAt hopen hresolve]
      simp [Settled, hopen, hresolve]

def timedOutAttempt : Attempt String :=
  { returningAttempt with collect := { ends := .error (.timeoutError "") } }

/-- The first attempt of two times out, the second returns. -/
def timedOutOnce (i : Nat) : Attempt String := if i = 0 then timedOutAttempt else returningAttempt

def twoAttempts : Run where
  job := { context := { maxAttempts := 2 } }

/-- The job succeeded, and is counted as timed out as well. -/
theorem retried_timeout_is_counted :
    ¬ Balanced twoAttempts (interfacesExecutor.execute timedOutOnce twoAttempts).2 := by
  intro h
  have hstatus : (interfacesExecutor.execute timedOutOnce twoAttempts).2.job.state.status =
      .succeeded := by decide
  have htimedOut : (interfacesExecutor.execute timedOutOnce twoAttempts).2.metrics.timedOut =
      1 := by decide
  have hcounted := h.counted .timedOut (.inr (.inr (.inr rfl)))
  rw [hstatus] at hcounted
  simp only [CollectorRuntimeMetrics.finishedAs, htimedOut] at hcounted
  cases hcounted

end Executor
end Collectors
end NetOps
