import NetOps.Collectors.Executor

/-!
# Collectors.Attempts

What an attempt of the executor comes to, by how it ends: whether another one follows, and what it
leaves in the state of the job and in the metrics.

* `attempt_none`: an attempt is retried when it ends in a timeout or in a plain exception, is not
  the last, and nothing interrupts the delay after it.
* `handled_status`, `slept_status`, `attempt_metrics`: the marks and the records.
* `execute_eq`: an execution is its attempts up to the first that is not retried.
-/

namespace NetOps
namespace Collectors
namespace Executor

open Retries

variable {S α β : Type}

/-! ## What an attempt comes to -/

/-- How an attempt ends, by the clause that takes it; none records an `unrecorded` one. -/
inductive Ending where
  | returned
  | cancelled
  | timedOut
  | failed
  | unrecorded
  deriving DecidableEq

namespace Ending

def ofOutcome : Except Raised α → Ending
  | .ok _ => .returned
  | .error .cancelledError => .cancelled
  | .error (.collectorExecution (.cancelled _)) => .cancelled
  | .error (.collectorExecution _) => .unrecorded
  | .error (.timeoutError _) => .timedOut
  | .error (.exception _) => .failed
  | .error (.baseException _) => .unrecorded

theorem ofOutcome_map (f : α → β) (o : Except Raised α) : ofOutcome (o.map f) = ofOutcome o := by
  cases o with
  | ok a => rfl
  | error e =>
    cases e with
    | collectorExecution e => cases e <;> rfl
    | cancelledError => rfl
    | timeoutError message => rfl
    | exception message => rfl
    | baseException message => rfl

def retries : Ending → Bool
  | timedOut | failed => true
  | returned | cancelled | unrecorded => false

/-- The mark that the clause leaves. -/
def status (again : Bool) (before : CollectorExecutionStatus) : Ending → CollectorExecutionStatus
  | returned => .succeeded
  | cancelled => .cancelled
  | timedOut => if again then .retrying else .timedOut
  | failed => if again then .retrying else .failed
  | unrecorded => before

/-- What the clause records. -/
def record (again : Bool) (m : CollectorRuntimeMetrics) : Ending → CollectorRuntimeMetrics
  | returned => m.recordSucceeded
  | cancelled => m.recordCancelled
  | timedOut => if again then m.recordTimedOut.recordRetry else m.recordTimedOut
  | failed => if again then m.recordRetry else m.recordFailed
  | unrecorded => m

end Ending

section

variable {again : Bool} {o : Outcome S} {r : Run}

theorem handle_none :
    (handle again o r).1 = none ↔ again = true ∧ (Ending.ofOutcome o).retries = true := by
  unfold handle
  split <;> cases again <;> simp [Ending.ofOutcome, Ending.retries]

theorem handle_metrics :
    (handle again o r).2.metrics = (Ending.ofOutcome o).record again r.metrics := by
  unfold handle
  split <;> cases again <;> simp [Ending.ofOutcome, Ending.record, Run.mark, Run.cancel]

theorem handle_status :
    (handle again o r).2.job.state.status =
      (Ending.ofOutcome o).status again r.job.state.status := by
  unfold handle
  split <;> cases again <;> simp [Ending.ofOutcome, Ending.status, Run.mark, Run.cancel,
    CollectorJob.cancel, CollectorExecutionState.markCancelled,
    CollectorExecutionState.markTimedOut, CollectorExecutionState.markRetrying,
    CollectorExecutionState.markFailed, CollectorExecutionState.markSucceeded]

/-- Only the handler of `CancelledError` calls `cancel`. -/
theorem handle_log :
    (handle again o r).2.log = r.log ∨
      Ending.ofOutcome o = .cancelled ∧ (handle again o r).2.log = r.log ++ [.cancelled] := by
  unfold handle
  split <;> cases again <;> simp [Ending.ofOutcome, Run.mark, Run.cancel]

theorem handle_ok {result : CollectorExecutionResult S} :
    (handle again o r).1 = some (.ok result) ↔ o = .ok result := by
  unfold handle
  split <;> cases again <;> simp

end

/-! ## Attempts and their delays -/

/-- What is awaited after an attempt that is to be retried. -/
def Attempt.slept (a : Attempt S) (delaySeconds : ℚ) : Call Unit :=
  if delaySeconds > 0 then a.delay else pure ()

theorem sleep_run (delaySeconds : ℚ) (a : Attempt S) (r : Run) :
    (sleep delaySeconds a.delay).run r =
      ((a.slept delaySeconds).ends, r.cancelAll (a.slept delaySeconds).cancels) := by
  unfold sleep Attempt.slept
  split <;> rfl

def Attempt.ending (a : Attempt S) (opens : Bool) : Ending := .ofOutcome (a.call opens).ends

/-- Attempt `i + 1` is followed by another one. -/
structure Retried (context : CollectorRuntimeContext) (opens : Bool) (rounds : Nat → Attempt S)
    (i : Nat) : Prop where
  left : i + 1 < context.attemptLimit
  retries : ((rounds i).ending opens).retries = true
  slept : ((rounds i).slept context.retryDelaySeconds).ends = .ok ()

section

variable {context : CollectorRuntimeContext} {collector : BaseCollector}
  {transportName : Option String} {rounds : Nat → Attempt S} {i : Nat} {r : Run}

/-- The state in which the clauses find the job. -/
def Run.ran (r : Run) (a : Attempt S) (opens : Bool) : Run :=
  r.start.cancelAll (a.call opens).cancels

/-- An attempt up to its delay. -/
def handled (context : CollectorRuntimeContext) (collector : BaseCollector)
    (transportName : Option String) (rounds : Nat → Attempt S) (i : Nat) (r : Run) :
    Option (Outcome S) × Run :=
  handle (i + 1 < context.attemptLimit)
    (((rounds i).call transportName.isSome).ends.map
      (resultOf collector transportName (r.job.state.attempts + 1)))
    (r.ran (rounds i) transportName.isSome)

theorem attempt_eq :
    attempt context collector transportName rounds i r =
      match handled context collector transportName rounds i r with
      | (some outcome, r) => (some outcome, r)
      | (none, r) =>
        match (sleep context.retryDelaySeconds (rounds i).delay).run r with
        | (.ok (), r) => (none, r)
        | (.error e, r) => (some (.error e), r) := by
  unfold attempt
  rw [runOnce_run]
  rfl

theorem handled_none :
    (handled context collector transportName rounds i r).1 = none ↔
      i + 1 < context.attemptLimit ∧
        ((rounds i).ending transportName.isSome).retries = true := by
  rw [handled, handle_none, Ending.ofOutcome_map, decide_eq_true_iff]
  rfl

theorem attempt_of_handled {outcome : Outcome S}
    (h : (handled context collector transportName rounds i r).1 = some outcome) :
    attempt context collector transportName rounds i r =
      handled context collector transportName rounds i r := by
  rw [attempt_eq]
  cases hh : handled context collector transportName rounds i r with
  | mk answer r' =>
    rw [hh] at h
    cases h
    rfl

theorem attempt_of_slept (h : (handled context collector transportName rounds i r).1 = none) :
    attempt context collector transportName rounds i r =
      (match ((rounds i).slept context.retryDelaySeconds).ends with
        | .ok () => none
        | .error e => some (.error e),
      (handled context collector transportName rounds i r).2.cancelAll
        ((rounds i).slept context.retryDelaySeconds).cancels) := by
  rw [attempt_eq]
  cases hh : handled context collector transportName rounds i r with
  | mk answer r' =>
    rw [hh] at h
    cases h
    simp only [sleep_run]
    cases ((rounds i).slept context.retryDelaySeconds).ends with
    | ok _ => rfl
    | error e => rfl

theorem attempt_none :
    (attempt context collector transportName rounds i r).1 = none ↔
      Retried context transportName.isSome rounds i := by
  cases hh : (handled context collector transportName rounds i r).1 with
  | some outcome =>
    rw [attempt_of_handled hh, hh]
    have hnot := mt handled_none.2 (hh ▸ Option.some_ne_none outcome)
    constructor
    · intro h
      cases h
    · intro h
      exact absurd ⟨h.left, h.retries⟩ hnot
  | none =>
    have hretries := handled_none.1 hh
    rw [attempt_of_slept hh]
    constructor
    · intro h
      refine ⟨hretries.1, hretries.2, ?_⟩
      cases hends : ((rounds i).slept context.retryDelaySeconds).ends with
      | ok _ => rfl
      | error e =>
        rw [hends] at h
        cases h
    · intro h
      rw [h.slept]

theorem handled_metrics :
    (handled context collector transportName rounds i r).2.metrics =
      ((rounds i).ending transportName.isSome).record (i + 1 < context.attemptLimit)
        r.metrics.recordStarted := by
  rw [handled, handle_metrics, Ending.ofOutcome_map, Run.ran, Run.cancelAll_metrics]
  rfl

theorem handled_status :
    (handled context collector transportName rounds i r).2.job.state.status =
      ((rounds i).ending transportName.isSome).status (i + 1 < context.attemptLimit)
        (if ((rounds i).call transportName.isSome).cancels = [] then .running else .cancelled) := by
  rw [handled, handle_status, Ending.ofOutcome_map, Run.ran, Run.cancelAll_status]
  rfl

theorem handled_log :
    (handled context collector transportName rounds i r).2.log =
        (r.ran (rounds i) transportName.isSome).log ∨
      (rounds i).ending transportName.isSome = .cancelled ∧
        (handled context collector transportName rounds i r).2.log =
          (r.ran (rounds i) transportName.isSome).log ++ [.cancelled] := by
  have h : _ ∨ Ending.ofOutcome (((rounds i).call transportName.isSome).ends.map
      (resultOf collector transportName (r.job.state.attempts + 1))) = .cancelled ∧
        (handled context collector transportName rounds i r).2.log = _ := handle_log
  rw [Ending.ofOutcome_map] at h
  exact h

/-- The status after an attempt that its clauses leave to be retried. -/
theorem slept_status (hleft : i + 1 < context.attemptLimit)
    (hretries : ((rounds i).ending transportName.isSome).retries = true) :
    (attempt context collector transportName rounds i r).2.job.state.status =
      if ((rounds i).slept context.retryDelaySeconds).cancels = [] then .retrying
      else .cancelled := by
  have hnone : (handled context collector transportName rounds i r).1 = none :=
    handled_none.2 ⟨hleft, hretries⟩
  have hstatus : (handled context collector transportName rounds i r).2.job.state.status =
      .retrying := by
    rw [handled_status, decide_eq_true hleft]
    cases hends : (rounds i).ending transportName.isSome <;> simp_all [Ending.retries,
      Ending.status]
  rw [attempt_of_slept hnone, Run.cancelAll_status, hstatus]

theorem attempt_metrics :
    (attempt context collector transportName rounds i r).2.metrics =
      ((rounds i).ending transportName.isSome).record (i + 1 < context.attemptLimit)
        r.metrics.recordStarted := by
  cases hh : (handled context collector transportName rounds i r).1 with
  | some outcome => rw [attempt_of_handled hh, handled_metrics]
  | none => rw [attempt_of_slept hh, Run.cancelAll_metrics, handled_metrics]

end

/-! ## Executions -/

theorem CollectorRuntimeContext.attemptLimit_pos (context : CollectorRuntimeContext) :
    0 < context.attemptLimit := by
  unfold attemptLimit
  omega

namespace CollectorExecutor

variable {x : CollectorExecutor} {rounds : Nat → Attempt S} {r : Run}

variable (rounds) in
/-- The attempts of an execution that is not refused, up to its first that is not retried. -/
theorem execute_eq {collector : BaseCollector} {transportName : Option String}
    (hopen : r.job.isCancelled = false)
    (hresolve : x.resolve r.job.context = .ok (collector, transportName)) :
    ∃ n < r.job.context.attemptLimit,
      First (Retried r.job.context transportName.isSome rounds) n ∧
      some (x.execute rounds r).1 = (attempt r.job.context collector transportName rounds n
        (after (attempt r.job.context collector transportName rounds) r n)).1 ∧
      (x.execute rounds r).2 =
        after (attempt r.job.context collector transportName rounds) r (n + 1) := by
  have hlast : ¬ Retried r.job.context transportName.isSome rounds
      (r.job.context.attemptLimit - 1) := by
    intro h
    have hleft := h.left
    omega
  obtain ⟨n, hn, hfirst⟩ := exists_first hlast
  have hpos := r.job.context.attemptLimit_pos
  have hlt : n < r.job.context.attemptLimit := by omega
  refine ⟨n, hlt, hfirst, ?_⟩
  rw [execute, hopen, hresolve]
  exact retry_eq (fun i s => attempt_none) hfirst hlt

end CollectorExecutor

end Executor
end Collectors
end NetOps
