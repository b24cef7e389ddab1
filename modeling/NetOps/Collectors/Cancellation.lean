import NetOps.Collectors.Attempts

/-!
# Collectors.Cancellation

`CollectorJob.cancel`, which requests the cancellation of a job. The executor looks at the request
once, before the first attempt; later ones only mark the state, which the attempts mark again.

* `attempt_starts`: an attempt starts once, and what happens to the job then is its cancellation.
* `execute_endsAt`: what that makes of an execution, by its last attempt.
* `sticky_iff`: a cancelled job starts no further attempt, returns no result and stays cancelled,
  exactly when it is not queued again before it is executed, and every attempt that is cancelled,
  or whose delay is, ends in an error that is not retried, or is interrupted while it sleeps.
-/

namespace NetOps
namespace Collectors
namespace Executor

open Retries

variable {S : Type}

/-! ## Before the execution -/

/-- What happens to a job before it is executed: `cancel`, and `submit` of the scheduler. -/
inductive Action where
  | cancel (reason : Option String)
  | submit

namespace Action

def isCancel : Action → Bool
  | cancel _ => true
  | submit => false

@[simp] theorem isCancel_cancel (reason : Option String) : (cancel reason).isCancel = true := rfl

@[simp] theorem isCancel_submit : submit.isCancel = false := rfl

end Action

namespace Run

def act (r : Run) : Action → Run
  | .cancel reason => r.cancel reason
  | .submit => { r with job := { r.job with state := r.job.state.markQueued } }

def prepare (r : Run) (actions : List Action) : Run := actions.foldl act r

@[simp] theorem prepare_nil (r : Run) : r.prepare [] = r := rfl

theorem prepare_concat (r : Run) (actions : List Action) (action : Action) :
    r.prepare (actions ++ [action]) = (r.prepare actions).act action := by
  simp [prepare]

@[simp] theorem prepare_context (r : Run) (actions : List Action) :
    (r.prepare actions).job.context = r.job.context := by
  induction actions using List.reverseRecOn with
  | nil => rfl
  | append_singleton actions action ih =>
    rw [prepare_concat, ← ih]
    cases action <;> rfl

theorem prepare_isCancelled (r : Run) (actions : List Action) :
    (r.prepare actions).job.isCancelled = true ↔
      r.job.isCancelled = true ∨ ∃ action ∈ actions, action.isCancel = true := by
  induction actions using List.reverseRecOn with
  | nil => simp
  | append_singleton actions action ih =>
    rw [prepare_concat]
    cases action with
    | cancel reason => simp [act, cancel, CollectorJob.cancel, CollectorJob.isCancelled]
    | submit =>
      change (r.prepare actions).job.isCancelled = true ↔ _
      rw [ih]
      simp

theorem prepare_log (r : Run) (actions : List Action) :
    (r.prepare actions).log =
      r.log ++ (actions.filter Action.isCancel).map fun _ => .cancelled := by
  induction actions using List.reverseRecOn with
  | nil => simp
  | append_singleton actions action ih =>
    rw [prepare_concat]
    cases action with
    | cancel reason =>
      change (r.prepare actions).log ++ [.cancelled] = _
      rw [ih, List.filter_append, List.map_append, ← List.append_assoc]
      rfl
    | submit => simp [act, ih]

end Run

/-! ## Sticky cancellation -/

/-- No attempt starts after a `cancel`. -/
abbrev NoStart (earlier later : Event) : Prop := earlier = .cancelled → later ≠ .started

/-- From the first `cancel` on no attempt is started, no result is returned, and the job ends
cancelled. -/
structure Sticky (ended : Outcome S × Run) : Prop where
  starts : ended.2.log.Pairwise NoStart
  returns : Event.cancelled ∈ ended.2.log → ∀ result, ended.1 ≠ .ok result
  status : Event.cancelled ∈ ended.2.log → ended.2.job.state.status = .cancelled

section

variable (context : CollectorRuntimeContext) (opens : Bool) (a : Attempt S) (i : Nat)

/-- Attempt `i + 1` is followed by its delay. -/
def Sleeps : Prop := i + 1 < context.attemptLimit ∧ (a.ending opens).retries = true

/-- The job is cancelled during the attempt or the delay after it. -/
def Touched : Prop :=
  (a.call opens).cancels ≠ [] ∨
    Sleeps context opens a i ∧ (a.slept context.retryDelaySeconds).cancels ≠ []

/-- The job is cancelled during the delay, and the delay is interrupted. -/
structure Interrupted : Prop where
  sleeps : Sleeps context opens a i
  cancels : (a.slept context.retryDelaySeconds).cancels ≠ []
  ends : (a.slept context.retryDelaySeconds).ends ≠ .ok ()

/-- The attempt ends in a cancellation or in an error that is raised as it is, or its delay is
interrupted. -/
def Yields : Prop :=
  a.ending opens = .cancelled ∨ a.ending opens = .unrecorded ∨ Interrupted context opens a i

end

/-- No submission follows the last `cancel` before the execution. -/
def LastCancels (actions : List Action) : Prop :=
  (∃ action ∈ actions, action.isCancel = true) → ∃ action ∈ actions.getLast?, action.isCancel = true

/-- Every attempt that is reached and touched by a cancellation yields to it. -/
def Heeded (x : CollectorExecutor) (rounds : Nat → Attempt S) (r : Run) : Prop :=
  r.job.isCancelled = false → ∀ collector transportName,
    x.resolve r.job.context = .ok (collector, transportName) →
      ∀ n < r.job.context.attemptLimit,
        (∀ i < n, Retried r.job.context transportName.isSome rounds i) →
          Touched r.job.context transportName.isSome (rounds n) n →
            Yields r.job.context transportName.isSome (rounds n) n

/-! ## One attempt -/

section

variable {context : CollectorRuntimeContext} {collector : BaseCollector}
  {transportName : Option String} {rounds : Nat → Attempt S} {i n : Nat} {r : Run}

theorem ran_log :
    (r.ran (rounds i) transportName.isSome).log =
      r.log ++ .started :: ((rounds i).call transportName.isSome).cancels.map
        fun _ => .cancelled := by
  rw [Run.ran, Run.cancelAll_log]
  exact List.append_assoc _ _ _

variable (context collector transportName rounds i r) in
/-- The start of an attempt, and what happens to the job until its clauses are done. -/
theorem handled_starts :
    ∃ l, (handled context collector transportName rounds i r).2.log = r.log ++ .started :: l ∧
      .started ∉ l ∧
      (((rounds i).call transportName.isSome).cancels ≠ [] → .cancelled ∈ l) ∧
      (.cancelled ∈ l → ((rounds i).call transportName.isSome).cancels ≠ [] ∨
        (rounds i).ending transportName.isSome = .cancelled) := by
  have hlog : (handled context collector transportName rounds i r).2.log = _ ∨ _ := handled_log
  rcases hlog with hlog | ⟨hending, hlog⟩
  · refine ⟨_, hlog.trans ran_log, ?_, ?_, ?_⟩
    · simp
    · simp
    · intro h
      simp_all
  · rw [ran_log, List.append_assoc] at hlog
    refine ⟨_, hlog, ?_, ?_, ?_⟩
    · simp
    · simp
    · exact fun _ => .inr hending

variable (context collector transportName rounds i r) in
theorem attempt_starts :
    ∃ l, (attempt context collector transportName rounds i r).2.log = r.log ++ .started :: l ∧
      .started ∉ l ∧
      (Touched context transportName.isSome (rounds i) i → .cancelled ∈ l) ∧
      (.cancelled ∈ l → Touched context transportName.isSome (rounds i) i ∨
        (rounds i).ending transportName.isSome = .cancelled) := by
  obtain ⟨l, hlog, hstarted, hcancels, hcancelled⟩ :=
    handled_starts context collector transportName rounds i r
  cases hh : (handled context collector transportName rounds i r).1 with
  | some outcome =>
    have hsleeps : ¬ Sleeps context transportName.isSome (rounds i) i :=
      mt handled_none.2 (hh ▸ Option.some_ne_none outcome)
    rw [attempt_of_handled hh]
    refine ⟨l, hlog, hstarted, ?_, ?_⟩
    · intro h
      rcases h with h | ⟨h, -⟩
      · exact hcancels h
      · exact absurd h hsleeps
    · intro h
      exact (hcancelled h).imp_left .inl
  | none =>
    have hsleeps : Sleeps context transportName.isSome (rounds i) i := handled_none.1 hh
    rw [attempt_of_slept hh, Run.cancelAll_log, hlog, List.append_assoc]
    refine ⟨l ++ _, rfl, ?_, ?_, ?_⟩
    · simp [hstarted]
    · intro h
      rcases h with h | ⟨-, h⟩
      · exact List.mem_append_left _ (hcancels h)
      · exact List.mem_append_right _ (by simpa using h)
    · intro h
      rcases List.mem_append.1 h with h | h
      · exact (hcancelled h).imp_left .inl
      · refine .inl (.inr ⟨hsleeps, ?_⟩)
        intro hnil
        simp [hnil] at h

/-- An attempt that another follows ends in no cancellation. -/
theorem Retried.not_yields {opens : Bool} (h : Retried context opens rounds i) :
    ¬ Yields context opens (rounds i) i := by
  have hretries := h.retries
  intro hyields
  rcases hyields with hending | hending | hinterrupted
  · simp [hending, Ending.retries] at hretries
  · simp [hending, Ending.retries] at hretries
  · exact hinterrupted.ends h.slept

theorem retried_log (hlog : r.log = [])
    (hn : ∀ i < n, Retried context transportName.isSome rounds i) :
    .cancelled ∈ (after (attempt context collector transportName rounds) r n).log ↔
      ∃ i < n, Touched context transportName.isSome (rounds i) i := by
  refine after_of_step (P := fun k (s : Run) => .cancelled ∈ s.log ↔
    ∃ i < k, Touched context transportName.isSome (rounds i) i) ?_ ?_ hn
  · intro k s hk h
    obtain ⟨l, hl, -, hof, hto⟩ := attempt_starts context collector transportName rounds k s
    have htouched : .cancelled ∈ l ↔ Touched context transportName.isSome (rounds k) k :=
      ⟨fun h => (hto h).resolve_right fun hending => hk.not_yields (.inl hending), hof⟩
    rw [hl, Nat.exists_lt_succ_right, ← h, ← htouched]
    simp
  · simp [hlog]

/-! ## The last attempt -/

theorem status_of_returned {result : CollectorExecutionResult S}
    (h : (attempt context collector transportName rounds i r).1 = some (.ok result)) :
    (attempt context collector transportName rounds i r).2.job.state.status = .succeeded := by
  cases hh : (handled context collector transportName rounds i r).1 with
  | some outcome =>
    rw [attempt_of_handled hh] at h ⊢
    have hends := handle_ok.1 h
    have hending : (rounds i).ending transportName.isSome = .returned := by
      rw [Attempt.ending, ← Ending.ofOutcome_map (resultOf collector transportName
        (r.job.state.attempts + 1)), hends]
      rfl
    rw [handled_status, hending]
    rfl
  | none =>
    rw [attempt_of_slept hh] at h
    cases hends : ((rounds i).slept context.retryDelaySeconds).ends <;> simp [hends] at h

theorem status_cancelled_iff (hlast : ¬ Retried context transportName.isSome rounds i)
    (h : Touched context transportName.isSome (rounds i) i ∨
      (rounds i).ending transportName.isSome = .cancelled) :
    (attempt context collector transportName rounds i r).2.job.state.status = .cancelled ↔
      Yields context transportName.isSome (rounds i) i := by
  by_cases hsleeps : Sleeps context transportName.isSome (rounds i) i
  · have hends : ((rounds i).slept context.retryDelaySeconds).ends ≠ .ok () :=
      fun hends => hlast ⟨hsleeps.1, hsleeps.2, hends⟩
    have hretries := hsleeps.2
    rw [slept_status hsleeps.1 hsleeps.2]
    constructor
    · intro hstatus
      refine .inr (.inr ⟨hsleeps, ?_, hends⟩)
      intro hnil
      simp [hnil] at hstatus
    · rintro (hending | hending | hinterrupted)
      · simp [hending, Ending.retries] at hretries
      · simp [hending, Ending.retries] at hretries
      · rw [if_neg hinterrupted.cancels]
  · have hnone : (handled context collector transportName rounds i r).1 ≠ none :=
      mt handled_none.1 hsleeps
    obtain ⟨outcome, houtcome⟩ := Option.ne_none_iff_exists'.1 hnone
    rw [attempt_of_handled houtcome, handled_status]
    have hnot : ¬ Interrupted context transportName.isSome (rounds i) i :=
      fun hinterrupted => hsleeps hinterrupted.sleeps
    cases hending : (rounds i).ending transportName.isSome with
    | returned => simp [Ending.status, Yields, hending, hnot]
    | cancelled => simp [Ending.status, Yields, hending]
    | timedOut =>
      have hleft : ¬ i + 1 < context.attemptLimit :=
        fun hleft => hsleeps ⟨hleft, by rw [hending]; rfl⟩
      simp [Ending.status, Yields, hending, hnot, hleft]
    | failed =>
      have hleft : ¬ i + 1 < context.attemptLimit :=
        fun hleft => hsleeps ⟨hleft, by rw [hending]; rfl⟩
      simp [Ending.status, Yields, hending, hnot, hleft]
    | unrecorded =>
      have hcancels : ((rounds i).call transportName.isSome).cancels ≠ [] := by
        rcases h with (hcancels | ⟨hs, -⟩) | h
        · exact hcancels
        · exact absurd hs hsleeps
        · rw [hending] at h
          cases h
      simp [Ending.status, Yields, hending, hcancels]

end

/-! ## Executions -/

theorem pairwise_starts {before l : List Event} (hstarted : .started ∉ l) :
    (before ++ .started :: l).Pairwise NoStart ↔ .cancelled ∉ before := by
  rw [List.pairwise_append]
  constructor
  · rintro ⟨-, -, hacross⟩ hcancelled
    exact hacross .cancelled hcancelled .started List.mem_cons_self rfl rfl
  · intro hcancelled
    refine ⟨?_, List.pairwise_cons.2 ⟨?_, ?_⟩, ?_⟩
    · refine List.pairwise_of_forall_mem_list fun a ha b _ hab => ?_
      exact absurd (hab ▸ ha) hcancelled
    · intro b _ hstart
      cases hstart
    · refine List.pairwise_of_forall_mem_list fun a _ b hb _ hbs => ?_
      exact hstarted (hbs ▸ hb)
    · intro a ha b _ hab
      exact absurd (hab ▸ ha) hcancelled

/-- What an execution that is not refused comes to: `before` is the log of the attempts that are
retried, attempt `n + 1` is the last, and `l` is what happens after its start. -/
structure EndsAt (context : CollectorRuntimeContext) (opens : Bool) (rounds : Nat → Attempt S)
    (ended : Outcome S × Run) (n : Nat) (before l : List Event) : Prop where
  lt : n < context.attemptLimit
  first : First (Retried context opens rounds) n
  log : ended.2.log = before ++ .started :: l
  earlier : .cancelled ∈ before ↔ ∃ i < n, Touched context opens (rounds i) i
  once : .started ∉ l
  touched : Touched context opens (rounds n) n → .cancelled ∈ l
  cancelled : .cancelled ∈ l →
    Touched context opens (rounds n) n ∨ (rounds n).ending opens = .cancelled
  status : Touched context opens (rounds n) n ∨ (rounds n).ending opens = .cancelled →
    (ended.2.job.state.status = .cancelled ↔ Yields context opens (rounds n) n)
  returned : ∀ result, ended.1 = .ok result → ended.2.job.state.status = .succeeded

theorem execute_endsAt {x : CollectorExecutor} (rounds : Nat → Attempt S) {r : Run}
    {collector : BaseCollector} {transportName : Option String} (hlog : r.log = [])
    (hopen : r.job.isCancelled = false)
    (hresolve : x.resolve r.job.context = .ok (collector, transportName)) :
    ∃ n before l,
      EndsAt r.job.context transportName.isSome rounds (x.execute rounds r) n before l := by
  obtain ⟨n, hn, hfirst, houtcome, hend⟩ := CollectorExecutor.execute_eq rounds hopen hresolve
  obtain ⟨l, hl, honce, hof, hto⟩ :=
    attempt_starts r.job.context collector transportName rounds n
      (after (attempt r.job.context collector transportName rounds) r n)
  rw [← after, ← hend] at hl
  refine ⟨n, _, l, hn, hfirst, hl, retried_log hlog hfirst.again, honce, hof, hto, ?_, ?_⟩
  · intro h
    rw [hend]
    exact status_cancelled_iff hfirst.stops h
  · intro result hresult
    rw [hresult] at houtcome
    rw [hend]
    exact status_of_returned houtcome.symm

namespace EndsAt

variable {context : CollectorRuntimeContext} {opens : Bool} {rounds : Nat → Attempt S}
  {ended : Outcome S × Run} {n : Nat} {before l : List Event}

/-- A cancellation that is sticky touches no attempt but the last. -/
theorem yields (h : EndsAt context opens rounds ended n before l) (hsticky : Sticky ended) {m : Nat}
    (hreached : ∀ i < m, Retried context opens rounds i)
    (htouched : Touched context opens (rounds m) m) : Yields context opens (rounds m) m := by
  have hstarts := hsticky.starts
  rw [h.log, pairwise_starts h.once, h.earlier] at hstarts
  rcases Nat.lt_trichotomy m n with hlt | rfl | hlt
  · exact absurd ⟨m, hlt, htouched⟩ hstarts
  · refine (h.status (.inl htouched)).1 (hsticky.status ?_)
    rw [h.log]
    exact List.mem_append_right _ (List.mem_cons_of_mem _ (h.touched htouched))
  · exact absurd (hreached n hlt) h.first.stops

theorem sticky (h : EndsAt context opens rounds ended n before l)
    (hheeded : ∀ m < context.attemptLimit, (∀ i < m, Retried context opens rounds i) →
      Touched context opens (rounds m) m → Yields context opens (rounds m) m) : Sticky ended := by
  have hlt := h.lt
  have huntouched : ¬ ∃ i < n, Touched context opens (rounds i) i := by
    rintro ⟨i, hi, htouched⟩
    have hyields := hheeded i (by omega) (fun j hj => h.first.again j (by omega)) htouched
    exact (h.first.again i hi).not_yields hyields
  have hstatus : .cancelled ∈ ended.2.log → ended.2.job.state.status = .cancelled := by
    intro hcancelled
    rw [h.log, List.mem_append, h.earlier] at hcancelled
    have hlate := h.cancelled (by simpa using hcancelled.resolve_left huntouched)
    refine (h.status hlate).2 ?_
    rcases hlate with htouched | hending
    · exact hheeded n hlt h.first.again htouched
    · exact .inl hending
  refine ⟨?_, ?_, hstatus⟩
  · rw [h.log, pairwise_starts h.once, h.earlier]
    exact huntouched
  · intro hcancelled result hresult
    have hsucceeded := h.returned result hresult
    rw [hstatus hcancelled] at hsucceeded
    cases hsucceeded

end EndsAt

/-- An execution that is not refused. -/
theorem sticky_execute_iff {x : CollectorExecutor} {rounds : Nat → Attempt S} {r : Run}
    {collector : BaseCollector} {transportName : Option String} (hlog : r.log = [])
    (hopen : r.job.isCancelled = false)
    (hresolve : x.resolve r.job.context = .ok (collector, transportName)) :
    Sticky (x.execute rounds r) ↔
      ∀ n < r.job.context.attemptLimit,
        (∀ i < n, Retried r.job.context transportName.isSome rounds i) →
          Touched r.job.context transportName.isSome (rounds n) n →
            Yields r.job.context transportName.isSome (rounds n) n := by
  obtain ⟨n, before, l, hends⟩ := execute_endsAt rounds hlog hopen hresolve
  constructor
  · intro hsticky m _ hreached htouched
    exact hends.yields hsticky hreached htouched
  · intro hheeded
    exact hends.sticky hheeded

/-- An execution that is refused leaves the job as it was. -/
theorem sticky_refused_iff {e : Raised} {r : Run} (hstarted : .started ∉ r.log) :
    Sticky ((.error e, r) : Outcome S × Run) ↔
      (.cancelled ∈ r.log → r.job.state.status = .cancelled) := by
  constructor
  · intro h
    exact h.status
  · intro h
    refine ⟨?_, ?_, h⟩
    · exact List.pairwise_of_forall_mem_list fun a _ b hb _ hbs => hstarted (hbs ▸ hb)
    · intro _ result hresult
      cases hresult

theorem prepare_status (r : Run) {actions : List Action} (h : actions ≠ []) :
    (r.prepare actions).job.state.status = .cancelled ↔
      ∃ action ∈ actions.getLast?, action.isCancel = true := by
  obtain ⟨earlier, action, rfl⟩ := (List.eq_nil_or_concat actions).resolve_left h
  rw [List.concat_eq_append, Run.prepare_concat, List.getLast?_concat]
  cases action with
  | cancel reason => simp [Run.act, Run.cancel, CollectorJob.cancel,
      CollectorExecutionState.markCancelled]
  | submit => simp [Run.act, CollectorExecutionState.markQueued]

/-- Cancellation is sticky exactly when no submission follows the last cancellation before the
execution, and every attempt that is reached yields to the cancellations that touch it. -/
theorem sticky_iff (x : CollectorExecutor) (rounds : Nat → Attempt S) (job : CollectorJob)
    (metrics : CollectorRuntimeMetrics) (actions : List Action) :
    Sticky (x.execute rounds (Run.prepare { job, metrics } actions)) ↔
      LastCancels actions ∧ Heeded x rounds (Run.prepare { job, metrics } actions) := by
  have hlog := Run.prepare_log { job, metrics } actions
  have hcancels : .cancelled ∈ (Run.prepare { job, metrics } actions).log ↔
      ∃ action ∈ actions, action.isCancel = true := by
    simp [hlog]
  have hstarted : .started ∉ (Run.prepare { job, metrics } actions).log := by
    simp [hlog]
  cases hopen : (Run.prepare { job, metrics } actions).job.isCancelled with
  | true =>
    rw [CollectorExecutor.execute, if_pos hopen, sticky_refused_iff hstarted, hcancels]
    have hheeded : Heeded x rounds (Run.prepare { job, metrics } actions) := by
      intro hnot
      rw [hopen] at hnot
      cases hnot
    simp only [hheeded, and_true]
    refine forall_congr' fun hsome => ?_
    obtain ⟨action, haction, -⟩ := hsome
    exact prepare_status _ (List.ne_nil_of_mem haction)
  | false =>
    have hnone : ¬ ∃ action ∈ actions, action.isCancel = true := by
      intro hsome
      have hclosed := (Run.prepare_isCancelled { job, metrics } actions).2 (.inr hsome)
      rw [hopen] at hclosed
      cases hclosed
    have hlast : LastCancels actions := fun hsome => absurd hsome hnone
    cases hresolve : x.resolve (Run.prepare { job, metrics } actions).job.context with
    | error e =>
      have hheeded : Heeded x rounds (Run.prepare { job, metrics } actions) := by
        intro _ collector transportName hfound
        rw [hresolve] at hfound
        cases hfound
      have hrefused : x.execute rounds (Run.prepare { job, metrics } actions) =
          (.error e, Run.prepare { job, metrics } actions) := by
        rw [CollectorExecutor.execute, hopen, hresolve]
        rfl
      rw [hrefused, sticky_refused_iff hstarted, hcancels]
      simp [hheeded, hlast, hnone]
    | ok found =>
      obtain ⟨collector, transportName⟩ := found
      have hempty : (Run.prepare { job, metrics } actions).log = [] := by
        simp_all
      rw [sticky_execute_iff hempty hopen hresolve]
      simp only [hlast, true_and, Heeded, hopen, forall_const, hresolve, Except.ok.injEq,
        Prod.mk.injEq, and_imp]
      constructor
      · rintro h _ _ rfl rfl
        exact h
      · intro h
        exact h _ _ rfl rfl

/-- The job is cancelled while its only attempt collects, which goes on to return. -/
def cancelledCollect : Attempt String :=
  { returningAttempt with collect := { cancels := [some "stop"], ends := .ok () } }

theorem cancelled_collect_succeeds :
    ¬ Sticky (interfacesExecutor.execute (fun _ => cancelledCollect)
      (Run.prepare { job := { context := {} } } [])) := by
  intro h
  have hstatus : (interfacesExecutor.execute (fun _ => cancelledCollect)
      (Run.prepare { job := { context := {} } } [])).2.job.state.status = .succeeded := by decide
  have hcancelled := h.status (by decide)
  rw [hstatus] at hcancelled
  cases hcancelled

end Executor
end Collectors
end NetOps
