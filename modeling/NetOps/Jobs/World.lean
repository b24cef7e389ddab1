import NetOps.Jobs.Manager

/-!
# Jobs.World

The jobs, the queue, the semaphore, the repository and the workers, under any interleaving of the
programs of the job framework, each awaited call raising or not.

* `World.after`: what an answered statement does, to the job it is about and to the rest.
* `sat_submitJob`, `sat_workerTurn`: a task touches only the job that it has, and that as far as the
  job has come.
* `queue_step`: the queue holds the jobs that were put and not taken, and no task has them.
-/

namespace NetOps
namespace Jobs

open Conc Conc.Raises
open Discovery (UUID)

variable {Tid : Type}

/-! ## The world -/

/-- How far a job has come. A job is abandoned when `dispatch` raises before the engine runs. -/
inductive Phase where
  | absent
  | created
  | saved
  | queued
  | taken
  | waiting
  | running
  | abandoned
  | ended
  deriving DecidableEq

structure Job (Tid : Type) where
  state : JobState := {}
  token : Nat := 0
  priority : Int := 0
  phase : Phase := .absent
  owner : Option Tid := none

structure Entry where
  priority : Int
  sequence : Nat
  job : UUID

/-- The order of the queue: by priority, then as they came. -/
def Entry.Before (entry other : Entry) : Prop :=
  entry.priority < other.priority ∨
    (entry.priority = other.priority ∧ entry.sequence < other.sequence)

structure World (Tid : Type) where
  jobs : UUID → Job Tid := fun _ => {}
  tokens : Nat → Option String := fun _ => none
  queue : List Entry := []
  sequence : Nat := 0
  permits : Nat
  rows : UUID → Option JobStatus := fun _ => none
  stop : Bool := false
  started : Tid → Bool := fun _ => false
  live : Tid → Bool := fun _ => false

/-- The job that an answered statement is about. -/
def Stmt.subject : (s : Stmt) → s.Resp → Option UUID
  | .create _, job => some job
  | .save job _, _ => some job
  | .publish job _, _ => some job
  | .put job, _ => some job
  | .poll, .job job => some job
  | .enter job, _ => some job
  | .acquire job, _ => some job
  | .run job, _ => some job
  | .cancel job _, .ok true => some job
  | _, _ => none

/-- The job after a task is answered; `reason` is that of its token. A task whose submission or turn
raises has the job no more. -/
def Job.after (i : Tid) (reason : Option String) (job : Job Tid) : (s : Stmt) → s.Resp → Job Tid
  | .create request, _ =>
    { token := request.token, priority := request.priority, phase := .created, owner := some i }
  | .save _ .submitted, .ok _ => { job with phase := .saved }
  | .save _ .submitted, .error e =>
    { job with phase := if e.stored then .saved else job.phase, owner := none }
  | .save _ .taken, .error _ => { job with owner := none }
  | .save _ .dispatched, _ => { job with owner := none }
  | .publish _ .submitted, .error _ => { job with owner := none }
  | .publish _ .queued, .error _ => { job with owner := none }
  | .publish _ .started, .error _ => { job with phase := .abandoned }
  | .put _, _ => { job with state := job.state.markQueued, phase := .queued, owner := none }
  | .poll, _ => { job with phase := .taken, owner := some i }
  | .enter _, .cancelled reason =>
    { job with
      state := job.state.markCancelled (some (if reason = "" then "Job cancelled." else reason))
      phase := .ended }
  | .enter _, .entered =>
    { job with state := job.state.incrementAttempts.markRunning, phase := .running }
  | .enter _, .waits => { job with phase := .waiting }
  | .acquire _, _ =>
    { job with state := job.state.incrementAttempts.markRunning, phase := .running }
  | .run _, outcome => { job with state := job.state.settle reason outcome, phase := .ended }
  | .cancel _ reason, _ => { job with state := job.state.markCancelled (some reason) }
  | _, _ => job

namespace World

variable [DecidableEq Tid]

def jobsAfter (g : World Tid) (i : Tid) (s : Stmt) (r : s.Resp) : UUID → Job Tid :=
  match s.subject r with
  | none => g.jobs
  | some job => Function.update g.jobs job
    ((g.jobs job).after i (g.tokens (g.jobs job).token) s r)

def tokensAfter (g : World Tid) : (s : Stmt) → s.Resp → Nat → Option String
  | .cancel job reason, .ok true => Function.update g.tokens (g.jobs job).token (some reason)
  | .cancelToken token reason, _ => Function.update g.tokens token (some reason)
  | _, _ => g.tokens

def queueAfter (g : World Tid) : (s : Stmt) → s.Resp → List Entry
  | .put job, _ => g.queue ++ [⟨(g.jobs job).priority, g.sequence, job⟩]
  | .poll, .job job => g.queue.filter fun entry => entry.job ≠ job
  | _, _ => g.queue

def permitsAfter (g : World Tid) : (s : Stmt) → s.Resp → Nat
  | .enter _, .entered => g.permits - 1
  | .acquire _, _ => g.permits - 1
  | .release, _ => g.permits + 1
  | _, _ => g.permits

def rowsAfter (g : World Tid) : (s : Stmt) → s.Resp → UUID → Option JobStatus
  | .save job _, .ok _ => Function.update g.rows job (some (g.jobs job).state.status)
  | .save job _, .error e => if e.stored
    then Function.update g.rows job (some (g.jobs job).state.status) else g.rows
  | _, _ => g.rows

/-- A worker ends when it is told to stop, or raises. -/
def liveAfter (g : World Tid) (i : Tid) : (s : Stmt) → s.Resp → Tid → Bool
  | .poll, .stopped => Function.update g.live i false
  | .save _ .taken, .error _ => Function.update g.live i false
  | .save _ .dispatched, .error _ => Function.update g.live i false
  | .publish _ .queued, .error _ => Function.update g.live i false
  | _, _ => g.live

/-- The world after a task is answered. -/
def after (g : World Tid) (i : Tid) (s : Stmt) (r : s.Resp) : World Tid where
  jobs := g.jobsAfter i s r
  tokens := g.tokensAfter s r
  queue := g.queueAfter s r
  sequence := match s with
    | .put _ => g.sequence + 1
    | _ => g.sequence
  permits := g.permitsAfter s r
  rows := g.rowsAfter s r
  stop := match s with
    | .shutdown => true
    | _ => g.stop
  started := g.started
  live := g.liveAfter i s r

/-- When a task can be answered so. -/
def Allows (g : World Tid) : (s : Stmt) → s.Resp → Prop
  | .create _, job => (g.jobs job).phase = .absent
  | .poll, .stopped => g.stop = true
  | .poll, .empty => g.stop = false ∧ g.queue = []
  | .poll, .job job => g.stop = false ∧ ∃ entry ∈ g.queue, entry.job = job ∧
      ∀ other ∈ g.queue, other.job ≠ job → entry.Before other
  | .enter job, .cancelled reason => g.tokens (g.jobs job).token = some reason
  | .enter job, .entered => g.tokens (g.jobs job).token = none ∧ 0 < g.permits ∧
      ∀ other, (g.jobs other).phase ≠ .waiting
  | .enter job, .waits => g.tokens (g.jobs job).token = none ∧
      (g.permits = 0 ∨ ∃ other, (g.jobs other).phase = .waiting)
  | .acquire _, _ => 0 < g.permits
  | .cancel job _, .ok found => found = (g.rows job).isSome
  | _, _ => True

def Answers (i : Tid) (g : World Tid) (s : Stmt) (r : s.Resp) (g' : World Tid) : Prop :=
  g.Allows s r ∧ g' = g.after i s r

end World

/-! ## Tasks -/

def task {α : Type} (m : Framework α) : Prog lang Unit := (ExceptT.run m).bind fun _ => .pure ()

/-- The task is a worker from now on. -/
def World.launched [DecidableEq Tid] (g : World Tid) (i : Tid) : World Tid := { g with
  started := Function.update g.started i true
  live := Function.update g.live i true }

/-- Clients submit and cancel jobs, and shut down; workers are launched, and turn until they end. -/
inductive Starts [DecidableEq Tid] (i : Tid) (g : World Tid) :
    Prog lang Unit → World Tid → Prop where
  | submit (request : JobRequest) (hclient : g.started i = false) :
    Starts i g (task (submitJob request)) g
  | cancel (job : UUID) (reason : String) (hclient : g.started i = false) :
    Starts i g (task (cancelJob job reason)) g
  | cancelToken (token : Nat) (reason : String) (hclient : g.started i = false) :
    Starts i g (task (cancelToken token reason)) g
  | shutdown (hclient : g.started i = false) : Starts i g (task shutdown) g
  | launch (hnew : g.started i = false) : Starts i g (task workerTurn) (g.launched i)
  | turn (hstarted : g.started i = true) (hlive : g.live i = true) : Starts i g (task workerTurn) g

/-! ## What a task has -/

variable {i : Tid} {g g' : World Tid} {job : UUID}

/-- The task has no job. -/
def Idle (i : Tid) (g : World Tid) : Prop := ∀ job, (g.jobs job).owner ≠ some i

/-- The task has this job only, and it has come this far. -/
def Has (i : Tid) (job : UUID) (phase : Phase) (g : World Tid) : Prop :=
  (∀ other, (g.jobs other).owner = some i ↔ other = job) ∧ (g.jobs job).phase = phase

/-- The task is done with the job that it has. -/
def Left (i : Tid) (job : UUID) (g : World Tid) : Prop :=
  Has i job .ended g ∨ Has i job .abandoned g

/-- What other tasks do to a task: they leave its job where it is, and itself alive. -/
structure Beside (i : Tid) (g g' : World Tid) : Prop where
  owner : ∀ job, (g'.jobs job).owner = some i ↔ (g.jobs job).owner = some i
  phase : ∀ job, (g.jobs job).owner = some i → (g'.jobs job).phase = (g.jobs job).phase
  rows : ∀ job, (g.rows job).isSome = true → (g'.rows job).isSome = true
  live : g'.live i = g.live i
  started : g'.started i = g.started i

/-- What a task knows when it issues a statement. -/
def Guarantees (i : Tid) (g : World Tid) : Stmt → Prop
  | .create _ => Idle i g ∧ g.started i = false
  | .save job .submitted => Has i job .created g
  | .publish job .submitted => Has i job .saved g
  | .put job => Has i job .saved g
  | .poll => Idle i g ∧ g.live i = true ∧ g.started i = true
  | .publish job .queued => Has i job .taken g
  | .save job .taken => Has i job .taken g
  | .enter job => Has i job .taken g
  | .acquire job => Has i job .waiting g
  | .publish job .started => Has i job .running g
  | .run job => Has i job .running g
  | .save job .dispatched => Left i job g
  | .save job .cancelled => (g.rows job).isSome = true
  | _ => True

def contract [DecidableEq Tid] (i : Tid) : Prog.Contract lang (World Tid) where
  rely _ := Beside i
  act := World.Answers i
  guar := Guarantees i

theorem Beside.refl : Beside i g g :=
  ⟨fun _ => Iff.rfl, fun _ _ => rfl, fun _ h => h, rfl, rfl⟩

theorem Beside.trans {g'' : World Tid} (h : Beside i g g') (h' : Beside i g' g'') :
    Beside i g g'' where
  owner job := (h'.owner job).trans (h.owner job)
  phase job hown := (h'.phase job ((h.owner job).2 hown)).trans (h.phase job hown)
  rows job hrow := h'.rows job (h.rows job hrow)
  live := h'.live.trans h.live
  started := h'.started.trans h.started

/-- What a task goes on knowing. -/
def Steady (i : Tid) (R : World Tid → Prop) : Prop := ∀ g g', Beside i g g' → R g → R g'

theorem steady_idle : Steady i (Idle i) :=
  fun _ _ hbeside h job hown => h job ((hbeside.owner job).1 hown)

theorem steady_has (job : UUID) (phase : Phase) : Steady i (Has i job phase) := by
  rintro g g' hbeside ⟨hown, hphase⟩
  refine ⟨fun other => (hbeside.owner other).trans (hown other), ?_⟩
  rw [hbeside.phase job ((hown job).2 rfl), hphase]

theorem steady_left (job : UUID) : Steady i (Left i job) :=
  fun g g' hbeside h => h.imp (steady_has job .ended g g' hbeside)
    (steady_has job .abandoned g g' hbeside)

theorem steady_row (job : UUID) : Steady i fun g => (g.rows job).isSome = true :=
  fun _ _ hbeside h => hbeside.rows job h

/-! ## What a statement does to a task -/

variable [DecidableEq Tid] {s : Stmt} {r : s.Resp} {phase phase' : Phase}

theorem jobs_after (hsubject : s.subject r = some job) (other : UUID) :
    ((g.after i s r).jobs other) = if other = job
      then (g.jobs job).after i (g.tokens (g.jobs job).token) s r else g.jobs other := by
  show g.jobsAfter i s r other = _
  rw [World.jobsAfter, hsubject]
  dsimp only
  rw [Function.update_apply]

theorem jobs_after_none (hsubject : s.subject r = none) : (g.after i s r).jobs = g.jobs := by
  show g.jobsAfter i s r = _
  rw [World.jobsAfter, hsubject]

theorem jobs_of_ne (hne : s.subject r ≠ some job) : (g.after i s r).jobs job = g.jobs job := by
  cases hsubject : s.subject r with
  | none => rw [jobs_after_none hsubject]
  | some other =>
    rw [jobs_after hsubject]
    exact if_neg fun heq => hne (by rw [hsubject, heq])

theorem Has.goes (h : Has i job phase g) (hsubject : s.subject r = some job)
    (howner : ((g.jobs job).after i (g.tokens (g.jobs job).token) s r).owner = some i)
    (hphase : ((g.jobs job).after i (g.tokens (g.jobs job).token) s r).phase = phase') :
    Has i job phase' (g.after i s r) := by
  refine ⟨fun other => ?_, ?_⟩
  · rw [jobs_after hsubject]
    by_cases heq : other = job
    · rw [if_pos heq]
      exact iff_of_true howner heq
    · rw [if_neg heq]
      exact h.1 other
  · rw [jobs_after hsubject, if_pos rfl, hphase]

theorem Has.gone (h : ∀ other, (g.jobs other).owner = some i ↔ other = job)
    (hsubject : s.subject r = some job)
    (howner : ((g.jobs job).after i (g.tokens (g.jobs job).token) s r).owner = none) :
    Idle i (g.after i s r) := by
  intro other
  rw [jobs_after hsubject]
  by_cases heq : other = job
  · rw [if_pos heq, howner]
    exact fun hsome => by cases hsome
  · rw [if_neg heq]
    exact fun hown => heq ((h other).1 hown)

theorem Has.unaffected (h : Has i job phase g) (hsubject : s.subject r = none) :
    Has i job phase (g.after i s r) := by
  unfold Has
  rw [jobs_after_none hsubject]
  exact h

theorem Idle.gains (h : Idle i g) (hsubject : s.subject r = some job)
    (howner : ((g.jobs job).after i (g.tokens (g.jobs job).token) s r).owner = some i)
    (hphase : ((g.jobs job).after i (g.tokens (g.jobs job).token) s r).phase = phase') :
    Has i job phase' (g.after i s r) := by
  refine ⟨fun other => ?_, ?_⟩
  · rw [jobs_after hsubject]
    by_cases heq : other = job
    · rw [if_pos heq]
      exact iff_of_true howner heq
    · rw [if_neg heq]
      exact iff_of_false (h other) heq
  · rw [jobs_after hsubject, if_pos rfl, hphase]

theorem Idle.stays (h : Idle i g)
    (hsame : ∀ job, s.subject r = some job →
      ((g.jobs job).after i (g.tokens (g.jobs job).token) s r).owner = (g.jobs job).owner) :
    Idle i (g.after i s r) := by
  intro other
  cases hsubject : s.subject r with
  | none =>
    rw [jobs_after_none hsubject]
    exact h other
  | some job =>
    rw [jobs_after hsubject]
    by_cases heq : other = job
    · rw [if_pos heq, hsame job hsubject]
      exact h job
    · rw [if_neg heq]
      exact h other

/-! ## The programs -/

section Programs

variable {R : World Tid → Prop} {α : Type} {Q : α → World Tid → Prop}

theorem sat_answered {k : s.Resp → Prog lang α} (hsteady : Steady i R) (hr : R g)
    (hguar : ∀ g', R g' → Guarantees i g' s)
    (h : ∀ g₁ r, R g₁ → g₁.Allows s r → (k r).Sat (contract i) (g₁.after i s r) Q) :
    (Prog.stmt s k).Sat (contract i) g Q := by
  intro g₁ hbeside
  have hr₁ : R g₁ := hsteady g g₁ hbeside hr
  refine ⟨hguar g₁ hr₁, ?_⟩
  rintro r _ ⟨hallows, rfl⟩
  exact h g₁ r hr₁ hallows

end Programs

theorem sat_submitJob {request : JobRequest} (hidle : Idle i g) (hclient : g.started i = false) :
    Sat (contract i) (submitJob request) g (fun _ => Idle i) (fun _ => Idle i) := by
  have hsteady : Steady i fun g => Idle i g ∧ g.started i = false :=
    fun g g' hbeside h => ⟨steady_idle g g' hbeside h.1, hbeside.started.trans h.2⟩
  refine sat_bind (sat_answered hsteady ⟨hidle, hclient⟩ (fun _ h => h) fun g₁ job h₁ _ => ?_)
  have hhas : Has i job .created (g₁.after i (.create request) job) := h₁.1.gains rfl rfl rfl
  refine sat_bind (sat_answered (steady_has job .created) hhas (fun _ h => h) ?_)
  rintro g₂ (e | u) h₂ _
  · exact Has.gone h₂.1 rfl rfl
  have hhas₂ : Has i job .saved (g₂.after i (.save job .submitted) (.ok u)) :=
    h₂.goes rfl ((h₂.1 job).2 rfl) rfl
  refine sat_bind (sat_answered (steady_has job .saved) hhas₂ (fun _ h => h) ?_)
  rintro g₃ (e | u) h₃ _
  · exact Has.gone h₃.1 rfl rfl
  have hhas₃ : Has i job .saved (g₃.after i (.publish job .submitted) (.ok u)) :=
    h₃.goes rfl ((h₃.1 job).2 rfl) h₃.2
  refine sat_bind (sat_answered (steady_has job .saved) hhas₃ (fun _ h => h) fun g₄ _ h₄ _ => ?_)
  exact Has.gone h₄.1 rfl rfl

/-- A publication of how a job ended. -/
theorem sat_publishEnd {event : JobEvent} {Q : Unit → World Tid → Prop}
    {E : Raised → World Tid → Prop}
    (hevent : event ≠ .submitted ∧ event ≠ .queued ∧ event ≠ .started)
    (h : Has i job .ended g) (hok : ∀ g', Has i job .ended g' → Q () g')
    (hraises : ∀ e g', Has i job .ended g' → E e g') :
    Sat (contract i) (publish job event) g Q E := by
  have hsame : ∀ (g₁ : World Tid) (r : Except Raised Unit), Has i job .ended g₁ →
      Has i job .ended (g₁.after i (.publish job event) r) := by
    intro g₁ r h₁
    have hafter : (g₁.jobs job).after i (g₁.tokens (g₁.jobs job).token) (.publish job event) r =
        g₁.jobs job := by
      cases event <;> cases r <;> first | rfl | simp at hevent
    exact h₁.goes rfl (by rw [hafter]; exact (h₁.1 job).2 rfl) (by rw [hafter]; exact h₁.2)
  refine sat_answered (steady_has job .ended) h (fun g' h' => ?_) ?_
  · cases event <;> first | exact trivial | simp at hevent
  · rintro g₁ (e | u) h₁ _
    · exact hraises e _ (hsame g₁ _ h₁)
    · exact hok _ (hsame g₁ _ h₁)

theorem sat_execute (h : Has i job .running g) :
    Sat (contract i) (execute job) g (fun _ => Left i job) (fun _ => Left i job) := by
  refine sat_bind (sat_answered (steady_has job .running) h (fun _ h => h) ?_)
  rintro g₁ (e | u) h₁ _
  · exact .inr (h₁.goes rfl ((h₁.1 job).2 rfl) rfl)
  have hhas₁ : Has i job .running (g₁.after i (.publish job .started) (.ok u)) :=
    h₁.goes rfl ((h₁.1 job).2 rfl) h₁.2
  refine sat_bind (sat_answered (steady_has job .running) hhas₁ (fun _ h => h) ?_)
  intro g₂ outcome h₂ _
  have hhas₂ : Has i job .ended (g₂.after i (.run job) outcome) :=
    h₂.goes rfl ((h₂.1 job).2 rfl) rfl
  cases outcome with
  | timedOut text =>
    exact sat_bind (sat_publishEnd (by decide) hhas₂ (fun _ h => sat_throw (.inl h))
      fun _ _ h => .inl h)
  | cancelled =>
    exact sat_bind (sat_publishEnd (by decide) hhas₂ (fun _ h => sat_throw (.inl h))
      fun _ _ h => .inl h)
  | raised text =>
    exact sat_bind (sat_publishEnd (by decide) hhas₂ (fun _ h => sat_throw (.inl h))
      fun _ _ h => .inl h)
  | returned status message =>
    cases status <;> exact sat_publishEnd (by decide) hhas₂ (fun _ h => .inl h) fun _ _ h => .inl h

theorem sat_release {Q : Unit → World Tid → Prop} {E : Raised → World Tid → Prop}
    (h : Left i job g) (hok : ∀ g', Left i job g' → Q () g') :
    Sat (contract i) release g Q E := by
  refine sat_answered (steady_left job) h (fun _ _ => trivial) fun g₁ r h₁ _ => ?_
  exact hok _ (h₁.imp (fun h => h.unaffected rfl) fun h => h.unaffected rfl)

theorem sat_executeAdmitted (h : Has i job .running g) :
    Sat (contract i) (executeAdmitted job) g (fun _ => Left i job) (fun _ => Left i job) := by
  refine sat_bind (sat_tryCatch (sat_bind ((sat_execute h).mono (fun _ _ h => sat_pure ?_)
    fun _ _ h => sat_pure ?_)))
  · exact sat_bind (sat_release h fun _ h' => sat_pure h')
  · exact sat_bind (sat_release h fun _ h' => sat_throw h')

theorem sat_dispatch (h : Has i job .taken g) :
    Sat (contract i) (dispatch job) g (fun _ => Left i job) (fun _ => Left i job) := by
  refine sat_bind (sat_answered (steady_has job .taken) h (fun _ h => h) ?_)
  intro g₁ admission h₁ _
  cases admission with
  | cancelled reason =>
    have hended : Has i job .ended (g₁.after i (.enter job) (.cancelled reason)) :=
      h₁.goes rfl ((h₁.1 job).2 rfl) rfl
    exact sat_bind (sat_publishEnd (by decide) hended (fun _ h => sat_throw (.inl h))
      fun _ _ h => .inl h)
  | entered => exact sat_executeAdmitted (h₁.goes rfl ((h₁.1 job).2 rfl) rfl)
  | waits =>
    have hwaits : Has i job .waiting (g₁.after i (.enter job) .waits) :=
      h₁.goes rfl ((h₁.1 job).2 rfl) rfl
    refine sat_bind (sat_answered (steady_has job .waiting) hwaits (fun _ h => h) ?_)
    intro g₂ _ h₂ _
    exact sat_executeAdmitted (h₂.goes rfl ((h₂.1 job).2 rfl) rfl)

theorem sat_workerTurn (hidle : Idle i g) (hlive : g.live i = true)
    (hstarted : g.started i = true) :
    Sat (contract i) workerTurn g (fun _ => Idle i) (fun _ => Idle i) := by
  have hsteady : Steady i fun g => Idle i g ∧ g.live i = true ∧ g.started i = true :=
    fun g g' hbeside h => ⟨steady_idle g g' hbeside h.1, hbeside.live.trans h.2.1,
      hbeside.started.trans h.2.2⟩
  refine sat_bind (sat_answered hsteady ⟨hidle, hlive, hstarted⟩ (fun _ h => h) ?_)
  intro g₁ polled h₁ _
  cases polled with
  | stopped => exact h₁.1.stays (by simp [Stmt.subject])
  | empty => exact h₁.1.stays (by simp [Stmt.subject])
  | job job =>
    have hhas : Has i job .taken (g₁.after i .poll (.job job)) := h₁.1.gains rfl rfl rfl
    refine sat_bind (sat_answered (steady_has job .taken) hhas (fun _ h => h) ?_)
    rintro g₂ (e | u) h₂ _
    · exact Has.gone h₂.1 rfl rfl
    have hhas₂ : Has i job .taken (g₂.after i (.publish job .queued) (.ok u)) :=
      h₂.goes rfl ((h₂.1 job).2 rfl) h₂.2
    refine sat_bind (sat_answered (steady_has job .taken) hhas₂ (fun _ h => h) ?_)
    rintro g₃ (e | u) h₃ _
    · exact Has.gone h₃.1 rfl rfl
    have hhas₃ : Has i job .taken (g₃.after i (.save job .taken) (.ok u)) :=
      h₃.goes rfl ((h₃.1 job).2 rfl) h₃.2
    have hlast : ∀ g', Left i job g' →
        Sat (contract i) (save job .dispatched) g' (fun _ => Idle i) (fun _ => Idle i) := by
      intro g' hleft
      refine sat_answered (steady_left job) hleft (fun _ h => h) ?_
      rintro g₄ (e | u) h₄ _
      · exact h₄.elim (fun h => Has.gone h.1 rfl rfl) fun h => Has.gone h.1 rfl rfl
      · exact h₄.elim (fun h => Has.gone h.1 rfl rfl) fun h => Has.gone h.1 rfl rfl
    exact sat_bind (sat_tryCatch ((sat_dispatch hhas₃).mono (fun _ _ h => hlast _ h)
      fun _ _ h => sat_pure (hlast _ h)))

theorem sat_cancelJob {reason : String} (hidle : Idle i g) :
    Sat (contract i) (cancelJob job reason) g (fun _ => Idle i) (fun _ => Idle i) := by
  refine sat_bind (sat_answered steady_idle hidle (fun _ _ => trivial) ?_)
  rintro g₁ (e | found) h₁ hallows
  · exact h₁.stays (by simp [Stmt.subject])
  cases found with
  | false => exact h₁.stays (by simp [Stmt.subject])
  | true =>
    have hidle₁ : Idle i (g₁.after i (.cancel job reason) (.ok true)) := by
      refine h₁.stays fun other hother => ?_
      rfl
    have hrow : (g₁.rows job).isSome = true := hallows.symm
    have hsteady : Steady i fun g : World Tid => Idle i g ∧ (g.rows job).isSome = true :=
      fun g g' hbeside h => ⟨steady_idle g g' hbeside h.1, steady_row job g g' hbeside h.2⟩
    refine sat_bind (sat_answered hsteady ⟨hidle₁, hrow⟩ (fun _ h => h.2) ?_)
    rintro g₂ (e | u) h₂ _
    · exact h₂.1.stays fun _ _ => rfl
    refine sat_answered steady_idle (h₂.1.stays fun _ _ => rfl) (fun _ _ => trivial) ?_
    rintro g₃ (e | u) h₃ _
    · exact h₃.stays fun _ _ => rfl
    · exact h₃.stays fun _ _ => rfl

theorem sat_cancelToken {token : Nat} {reason : String} (hidle : Idle i g) :
    Sat (contract i) (cancelToken token reason) g (fun _ => Idle i) (fun _ => Idle i) :=
  sat_answered steady_idle hidle (fun _ _ => trivial)
    fun _ _ h₁ _ => h₁.stays (by simp [Stmt.subject])

theorem sat_shutdown (hidle : Idle i g) :
    Sat (contract i) shutdown g (fun _ => Idle i) (fun _ => Idle i) :=
  sat_answered steady_idle hidle (fun _ _ => trivial)
    fun _ _ h₁ _ => h₁.stays (by simp [Stmt.subject])

theorem sat_task {α : Type} {m : Framework α}
    (h : Sat (contract i) m g (fun _ => Idle i) (fun _ => Idle i)) :
    (task m).Sat (contract i) g fun _ => Idle i := by
  refine Prog.sat_bind.2 (Prog.Sat.mono (fun r g' h' => ?_) h)
  cases r <;> exact h'

/-! ## The queue -/

/-- The queue holds, once each, the jobs that were put and not taken, and no task has them; a job
that is not there yet has no row. -/
structure QueueInv (g : World Tid) : Prop where
  absent : ∀ job, (g.jobs job).phase = .absent → (g.jobs job).owner = none ∧ g.rows job = none
  queued : ∀ job, (g.jobs job).phase = .queued ↔ job ∈ g.queue.map (·.job)
  free : ∀ job, (g.jobs job).phase = .queued → (g.jobs job).owner = none
  nodup : (g.queue.map (·.job)).Nodup

/-- What a task may do to a job that another could have: nothing but mark it. -/
def Touched (i : Tid) (job job' : Job Tid) : Prop :=
  (∀ j, j ≠ i → job.owner ≠ some j ∧ job'.owner ≠ some j) ∨
    (job'.owner = job.owner ∧ job'.phase = job.phase)

omit [DecidableEq Tid] in
theorem touched_own {job job' : Job Tid} (howner : job.owner = some i ∨ job.owner = none)
    (howner' : job'.owner = some i ∨ job'.owner = none) : Touched i job job' := by
  refine .inl fun j hj => ⟨fun h => ?_, fun h => ?_⟩
  · rw [h] at howner
    simp_all
  · rw [h] at howner'
    simp_all

omit [DecidableEq Tid] in
theorem touched_after (hinv : QueueInv g) (hguar : Guarantees i g s) (hallows : g.Allows s r)
    (hsubject : s.subject r = some job) :
    Touched i (g.jobs job) ((g.jobs job).after i (g.tokens (g.jobs job).token) s r) := by
  have hown : ∀ {phase}, Has i job phase g → (g.jobs job).owner = some i := fun h => (h.1 job).2 rfl
  cases s with
  | create request =>
    cases hsubject
    exact touched_own (.inr (hinv.absent job hallows).1) (.inl rfl)
  | save other place =>
    cases hsubject
    cases place with
    | submitted =>
      cases r <;> exact touched_own (.inl (hown hguar)) (by simp [Job.after, hown hguar])
    | taken => cases r <;> exact touched_own (.inl (hown hguar)) (by simp [Job.after, hown hguar])
    | dispatched =>
      have howner : (g.jobs job).owner = some i := hguar.elim hown hown
      exact touched_own (.inl howner) (.inr rfl)
    | cancelled => exact .inr ⟨rfl, rfl⟩
  | publish other event =>
    cases hsubject
    cases event with
    | submitted =>
      cases r <;> exact touched_own (.inl (hown hguar)) (by simp [Job.after, hown hguar])
    | queued => cases r <;> exact touched_own (.inl (hown hguar)) (by simp [Job.after, hown hguar])
    | started => cases r <;> exact touched_own (.inl (hown hguar)) (by simp [Job.after, hown hguar])
    | completed => exact .inr ⟨rfl, rfl⟩
    | failed => exact .inr ⟨rfl, rfl⟩
    | cancelled => exact .inr ⟨rfl, rfl⟩
    | timedOut => exact .inr ⟨rfl, rfl⟩
  | put other =>
    cases hsubject
    exact touched_own (.inl (hown hguar)) (.inr rfl)
  | poll =>
    cases r with
    | stopped => cases hsubject
    | empty => cases hsubject
    | job taken =>
      cases hsubject
      obtain ⟨_, entry, hmem, hjob, _⟩ := hallows
      have hqueued := (hinv.queued job).2 (List.mem_map.2 ⟨entry, hmem, hjob⟩)
      exact touched_own (.inr (hinv.free job hqueued)) (.inl rfl)
  | enter other =>
    cases hsubject
    cases r <;> exact touched_own (.inl (hown hguar)) (.inl (hown hguar))
  | acquire other =>
    cases hsubject
    exact touched_own (.inl (hown hguar)) (.inl (hown hguar))
  | run other =>
    cases hsubject
    exact touched_own (.inl (hown hguar)) (.inl (hown hguar))
  | release => cases hsubject
  | cancel other reason =>
    cases r with
    | error e => cases hsubject
    | ok found =>
      cases found with
      | false => cases hsubject
      | true =>
        cases hsubject
        exact .inr ⟨rfl, rfl⟩
  | cancelToken token reason => cases hsubject
  | shutdown => cases hsubject

/-- A row changes by a save of its job. -/
theorem rows_cases (job : UUID) : (g.after i s r).rows job = g.rows job ∨
    (s.subject r = some job ∧ (g.after i s r).rows job = some (g.jobs job).state.status) := by
  have hupdate : ∀ saved, Function.update g.rows saved (some (g.jobs saved).state.status) job =
      g.rows job ∨ (saved = job ∧ Function.update g.rows saved
        (some (g.jobs saved).state.status) job = some (g.jobs job).state.status) := by
    intro saved
    by_cases heq : saved = job
    · subst heq
      exact .inr ⟨rfl, Function.update_self ..⟩
    · exact .inl (Function.update_of_ne (Ne.symm heq) ..)
  cases s with
  | save saved place =>
    have hsubject : saved = job → some saved = some job := congrArg some
    cases r with
    | ok u => exact (hupdate saved).imp_right (And.imp_left hsubject)
    | error e =>
      show (if e.stored then _ else g.rows) job = _ ∨ (_ ∧ (if e.stored then _ else g.rows) job = _)
      split
      · exact (hupdate saved).imp_right (And.imp_left hsubject)
      · exact .inl rfl
  | _ => exact .inl rfl

theorem rows_after (hrow : (g.rows job).isSome = true) :
    ((g.after i s r).rows job).isSome = true := by
  rcases (rows_cases job : (g.after i s r).rows job = _ ∨ _) with hsame | ⟨_, hsaved⟩
  · rw [hsame]
    exact hrow
  · rw [hsaved]
    rfl

theorem live_after {j : Tid} (hj : j ≠ i) : (g.after i s r).live j = g.live j := by
  show g.liveAfter i s r j = _
  unfold World.liveAfter
  split <;> first | exact Function.update_of_ne hj .. | rfl

/-- What a task does, the others can bear. -/
theorem beside_after (hinv : QueueInv g) (hguar : Guarantees i g s) (hallows : g.Allows s r)
    {j : Tid} (hj : j ≠ i) : Beside j g (g.after i s r) := by
  have htouched : ∀ other, (g.after i s r).jobs other = g.jobs other ∨
      Touched i (g.jobs other) ((g.after i s r).jobs other) := by
    intro other
    cases hsubject : s.subject r with
    | none => exact .inl (by rw [jobs_after_none hsubject])
    | some job =>
      rw [jobs_after hsubject]
      by_cases heq : other = job
      · subst heq
        rw [if_pos rfl]
        exact .inr (touched_after hinv hguar hallows hsubject)
      · exact .inl (if_neg heq)
  refine ⟨fun other => ?_, fun other hown => ?_, fun _ hrow => rows_after hrow, live_after hj, rfl⟩
  · rcases htouched other with hsame | hothers | ⟨howner, _⟩
    · rw [hsame]
    · exact iff_of_false (hothers j hj).2 (hothers j hj).1
    · rw [howner]
  · rcases htouched other with hsame | hothers | ⟨_, hphase⟩
    · rw [hsame]
    · exact absurd hown (hothers j hj).1
    · exact hphase

/-! ### What a step keeps of it -/

/-- A statement leaves the queue, and whether the job it is about is queued. -/
theorem queued_kept (hinv : QueueInv g) (hqueue : (g.after i s r).queue = g.queue)
    (hphase : ∀ job, s.subject r = some job →
      (((g.jobs job).after i (g.tokens (g.jobs job).token) s r).phase = .queued ↔
        (g.jobs job).phase = .queued)) (other : UUID) :
    ((g.after i s r).jobs other).phase = .queued ↔ other ∈ (g.after i s r).queue.map (·.job) := by
  rw [hqueue, ← hinv.queued other]
  cases hsubject : s.subject r with
  | none => rw [jobs_after_none hsubject]
  | some job =>
    rw [jobs_after hsubject]
    by_cases heq : other = job
    · rw [if_pos heq, heq]
      exact hphase job hsubject
    · rw [if_neg heq]

theorem queued_after (hinv : QueueInv g) (hguar : Guarantees i g s) (hallows : g.Allows s r)
    (other : UUID) :
    ((g.after i s r).jobs other).phase = .queued ↔ other ∈ (g.after i s r).queue.map (·.job) := by
  cases s with
  | create request =>
    refine queued_kept hinv rfl ?_ other
    rintro job hsubject
    cases hsubject
    have habsent : (g.jobs r).phase = .absent := hallows
    simp [Job.after, habsent]
  | save job place =>
    refine queued_kept hinv rfl ?_ other
    rintro _ hsubject
    cases hsubject
    cases place with
    | submitted =>
      have hphase : (g.jobs job).phase = .created := hguar.2
      cases r with
      | ok u => simp [Job.after, hphase]
      | error e => cases hstored : e.stored <;> simp [Job.after, hphase, hstored]
    | _ => cases r <;> exact Iff.rfl
  | publish job event =>
    refine queued_kept hinv rfl ?_ other
    rintro _ hsubject
    cases hsubject
    cases event with
    | started =>
      have hphase : (g.jobs job).phase = .running := hguar.2
      cases r <;> simp [Job.after, hphase]
    | _ => cases r <;> exact Iff.rfl
  | put job =>
    have hqueue : (g.after i (.put job) r).queue.map (·.job) = g.queue.map (·.job) ++ [job] := by
      simp [World.after, World.queueAfter]
    have hsubject : Stmt.subject (.put job) r = some job := rfl
    rw [hqueue, jobs_after hsubject, List.mem_append, List.mem_singleton]
    by_cases heq : other = job
    · rw [if_pos heq]
      exact iff_of_true rfl (.inr heq)
    · rw [if_neg heq, hinv.queued other]
      exact (or_iff_left heq).symm
  | poll =>
    cases r with
    | stopped => exact queued_kept hinv rfl (by simp [Stmt.subject]) other
    | empty => exact queued_kept hinv rfl (by simp [Stmt.subject]) other
    | job job =>
      have hqueue : other ∈ (g.after i .poll (.job job)).queue.map (·.job) ↔
          other ∈ g.queue.map (·.job) ∧ other ≠ job := by
        simp only [World.after, World.queueAfter, List.mem_map, List.mem_filter, decide_eq_true_eq]
        constructor
        · rintro ⟨entry, ⟨hmem, hne⟩, rfl⟩
          exact ⟨⟨entry, hmem, rfl⟩, hne⟩
        · rintro ⟨⟨entry, hmem, rfl⟩, hne⟩
          exact ⟨entry, ⟨hmem, hne⟩, rfl⟩
      have hsubject : Stmt.subject .poll (.job job) = some job := rfl
      rw [hqueue, jobs_after hsubject]
      by_cases heq : other = job
      · rw [if_pos heq]
        exact iff_of_false (fun h => by cases h) fun h => h.2 heq
      · rw [if_neg heq, hinv.queued other]
        exact (and_iff_left heq).symm
  | enter job =>
    refine queued_kept hinv rfl ?_ other
    rintro _ hsubject
    cases hsubject
    have hphase : (g.jobs job).phase = .taken := hguar.2
    cases r <;> simp [Job.after, hphase]
  | acquire job =>
    refine queued_kept hinv rfl ?_ other
    rintro _ hsubject
    cases hsubject
    have hphase : (g.jobs job).phase = .waiting := hguar.2
    simp [Job.after, hphase]
  | run job =>
    refine queued_kept hinv rfl ?_ other
    rintro _ hsubject
    cases hsubject
    have hphase : (g.jobs job).phase = .running := hguar.2
    simp [Job.after, hphase]
  | release => exact queued_kept hinv rfl (by simp [Stmt.subject]) other
  | cancel job reason => exact queued_kept hinv rfl (fun _ _ => Iff.rfl) other
  | cancelToken token reason => exact queued_kept hinv rfl (by simp [Stmt.subject]) other
  | shutdown => exact queued_kept hinv rfl (by simp [Stmt.subject]) other

omit [DecidableEq Tid] in
/-- A job that is not there yet is created, or left as it is. -/
theorem absent_after (hinv : QueueInv g) (hguar : Guarantees i g s) (hallows : g.Allows s r)
    (hsubject : s.subject r = some job) (habsent : (g.jobs job).phase = .absent)
    (hafter : ((g.jobs job).after i (g.tokens (g.jobs job).token) s r).phase = .absent) :
    (∃ event, s = .publish job event) ∧
      (g.jobs job).after i (g.tokens (g.jobs job).token) s r = g.jobs job := by
  have hhas : ∀ {phase}, phase ≠ .absent → Has i job phase g → False :=
    fun hphase h => hphase (h.2.symm.trans habsent)
  have hrow := (hinv.absent job habsent).2
  cases s with
  | create request => cases hafter
  | save other place =>
    cases hsubject
    cases place with
    | submitted => exact (hhas (by decide) hguar).elim
    | taken => exact (hhas (by decide) hguar).elim
    | dispatched => exact (hguar.elim (hhas (by decide)) (hhas (by decide))).elim
    | cancelled =>
      have hsome : (g.rows job).isSome = true := hguar
      rw [hrow] at hsome
      cases hsome
  | publish other event =>
    cases hsubject
    refine ⟨⟨event, rfl⟩, ?_⟩
    cases event with
    | submitted => exact (hhas (by decide) hguar).elim
    | queued => exact (hhas (by decide) hguar).elim
    | started => exact (hhas (by decide) hguar).elim
    | _ => cases r <;> rfl
  | put other =>
    cases hsubject
    exact (hhas (by decide) hguar).elim
  | poll =>
    cases r with
    | job job =>
      cases hsubject
      cases hafter
    | _ => cases hsubject
  | enter other =>
    cases hsubject
    exact (hhas (by decide) hguar).elim
  | acquire other =>
    cases hsubject
    exact (hhas (by decide) hguar).elim
  | run other =>
    cases hsubject
    exact (hhas (by decide) hguar).elim
  | release => cases hsubject
  | cancel other reason =>
    cases r with
    | error e => cases hsubject
    | ok found =>
      cases found with
      | false => cases hsubject
      | true =>
        cases hsubject
        have hsome : true = (g.rows job).isSome := hallows
        rw [hrow] at hsome
        cases hsome
  | cancelToken token reason => cases hsubject
  | shutdown => cases hsubject

theorem rows_of_ne (hne : s.subject r ≠ some job) : (g.after i s r).rows job = g.rows job :=
  (rows_cases job).resolve_right fun h => hne h.1

omit [DecidableEq Tid] in
theorem absent_before {reason : Option String} {job : Job Tid}
    (h : (job.after i reason s r).phase = .absent) : job.phase = .absent := by
  unfold Job.after at h
  split at h <;> first | exact h | cases h | skip
  split at h
  · cases h
  · exact h

omit [DecidableEq Tid] in
theorem queued_owner {reason : Option String} {job : Job Tid}
    (h : (job.after i reason s r).phase = .queued) :
    (job.after i reason s r).owner = none ∨
      ((job.after i reason s r).owner = job.owner ∧ job.phase = .queued) := by
  revert h
  unfold Job.after
  split <;> intro h <;> first | exact .inl rfl | exact .inr ⟨rfl, h⟩ | cases h

theorem nodup_after (hinv : QueueInv g) (hguar : Guarantees i g s) :
    ((g.after i s r).queue.map (·.job)).Nodup := by
  cases s with
  | put job =>
    have hqueue : (g.after i (.put job) r).queue.map (·.job) = g.queue.map (·.job) ++ [job] := by
      simp [World.after, World.queueAfter]
    have hphase : (g.jobs job).phase = .saved := hguar.2
    have hnot : job ∉ g.queue.map (·.job) := by
      rw [← hinv.queued job, hphase]
      decide
    rw [hqueue]
    refine hinv.nodup.append (List.nodup_singleton job) ?_
    intro other hmem hother
    rw [List.mem_singleton] at hother
    exact hnot (hother ▸ hmem)
  | poll =>
    cases r with
    | job job => exact hinv.nodup.sublist (List.filter_sublist.map _)
    | _ => exact hinv.nodup
  | _ => exact hinv.nodup

theorem queue_step (hinv : QueueInv g) (hguar : Guarantees i g s) (hallows : g.Allows s r) :
    QueueInv (g.after i s r) := by
  refine ⟨fun other habsent => ?_, queued_after hinv hguar hallows, fun other hqueued => ?_,
    nodup_after hinv hguar⟩
  · by_cases hsubject : s.subject r = some other
    · rw [jobs_after hsubject, if_pos rfl] at habsent ⊢
      obtain ⟨⟨event, rfl⟩, hsame⟩ :=
        absent_after hinv hguar hallows hsubject (absent_before habsent) habsent
      rw [hsame] at habsent ⊢
      exact hinv.absent other habsent
    · rw [jobs_of_ne hsubject] at habsent ⊢
      rw [rows_of_ne hsubject]
      exact hinv.absent other habsent
  · by_cases hsubject : s.subject r = some other
    · rw [jobs_after hsubject, if_pos rfl] at hqueued ⊢
      rcases queued_owner hqueued with howner | ⟨howner, hbefore⟩
      · exact howner
      · rw [howner]
        exact hinv.free other hbefore
    · rw [jobs_of_ne hsubject] at hqueued ⊢
      exact hinv.free other hqueued

/-! ## Any interleaving -/

theorem sat_starts {p : Prog lang Unit} (hidle : Idle i g) (hstart : Starts i g p g') :
    p.Sat (contract i) g' fun _ => Idle i := by
  cases hstart with
  | submit request hclient => exact sat_task (sat_submitJob hidle hclient)
  | cancel job reason hclient => exact sat_task (sat_cancelJob hidle)
  | cancelToken token reason hclient => exact sat_task (sat_cancelToken hidle)
  | shutdown hclient => exact sat_task (sat_shutdown hidle)
  | launch hnew =>
    exact sat_task (sat_workerTurn hidle (Function.update_self ..) (Function.update_self ..))
  | turn hstarted hlive => exact sat_task (sat_workerTurn hidle hlive hstarted)

theorem beside_launched {j : Tid} (hj : j ≠ i) : Beside j g (g.launched i) :=
  ⟨fun _ => Iff.rfl, fun _ _ => rfl, fun _ h => h, Function.update_of_ne hj .., 
    Function.update_of_ne hj ..⟩

/-- The tasks keep an invariant together if it keeps the queue, and every step keeps it. -/
theorem sound {cond : Tid → World Tid → (s : Stmt) → s.Resp → Prop} {I : World Tid → Prop}
    (hqueue : ∀ g, I g → QueueInv g)
    (hstep : ∀ i g s r, I g → Guarantees i g s → g.Allows s r → cond i g s r → I (g.after i s r))
    (hlaunch : ∀ i g, I g → g.started i = false → I (g.launched i)) :
    Sound World.Answers Starts cond contract Idle I where
  rely_refl _ _ _ := Beside.refl
  rely_trans _ _ _ _ _ := Beside.trans
  rely_done _ g g' hidle hrely := steady_idle g g' (hrely .release) hidle
  started i g p g' hi hidle hstart := by
    refine ⟨sat_starts hidle hstart, ?_⟩
    cases hstart with
    | launch hnew => exact ⟨hlaunch i g hi hnew, fun j hj _ => beside_launched hj⟩
    | _ => exact ⟨hi, fun j hj _ => Beside.refl⟩
  answered i g s r g' hi hguar hcond hact := by
    obtain ⟨hallows, rfl⟩ := hact
    exact ⟨⟨hallows, rfl⟩, hstep i g s r hi hguar hallows hcond,
      fun j hj _ => beside_after (hqueue g hi) hguar hallows hj⟩

/-- No job is there yet, and no worker. -/
def World.fresh (tokens : Nat → Option String) (permits : Nat) : World Tid where
  tokens := tokens
  permits := permits

omit [DecidableEq Tid] in
theorem queueInv_fresh {tokens : Nat → Option String} {permits : Nat} :
    QueueInv (World.fresh tokens permits : World Tid) where
  absent _ _ := ⟨rfl, rfl⟩
  queued _ := iff_of_false (fun h => by cases h) fun h => by cases h
  free _ _ := rfl
  nodup := List.nodup_nil

abbrev JobPool (Tid : Type) := Pool lang Tid (World Tid)

abbrev JobPool.Step : JobPool Tid → Tid × Turn lang → JobPool Tid → Prop :=
  Pool.Step World.Answers Starts

/-- The framework when it starts. -/
def JobPool.fresh (tokens : Nat → Option String) (permits : Nat) : JobPool Tid :=
  ⟨World.fresh tokens permits, fun _ => .pure ()⟩

/-! ## Runs that are played -/

/-- What the calls return when nothing raises; the job is 7, and its token is set. -/
def smooth : (s : Stmt) → s.Resp
  | .create _ => 7
  | .save _ _ => .ok ()
  | .publish _ _ => .ok ()
  | .put _ => ()
  | .poll => .job 7
  | .enter _ => .cancelled "user requested"
  | .acquire _ => ()
  | .run _ => .returned .succeeded none
  | .release => ()
  | .cancel _ _ => .ok true
  | .cancelToken _ _ => ()
  | .shutdown => ()

/-- The next call of a task is answered. -/
def proceed (i : Tid) : Move lang Tid (World Tid) :=
  .answer i fun g s => (smooth s, g.after i s (smooth s))

/-- A call that can raise does, and leaves everything as it is. -/
def raising : (s : Stmt) → s.Resp
  | .save _ _ => .error (.call "unavailable" false)
  | .publish _ _ => .error (.call "unavailable" false)
  | .cancel _ _ => .error (.call "unavailable" false)
  | s => smooth s

def fail (i : Tid) : Move lang Tid (World Tid) :=
  .answer i fun g s => (raising s, g.after i s (raising s))

end Jobs
end NetOps
