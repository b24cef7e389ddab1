import NetOps.Discovery.LikeCollectors
import NetOps.Discovery.Mirrors
import NetOps.Discovery.Redaction
import NetOps.Discovery.Samples
import NetOps.Discovery.Worker

/-!
# Discovery.FailureMessages

Where an exception becomes a failure message: the handler of `execute`, the chain of transports,
and `_fail_owned_job` of the worker (`discovery/execution.py`, `discovery/multi_transport.py`,
`discovery/worker.py`).

Two runs whose exceptions differ in redacted values only persist the same failure messages
(`failure_messages_agree`), if the exceptions of a chain are classified alike and the worker does
not fail its job: it persists the text of the exception as it is, and a chain classifies an
exception by that text.
-/

namespace NetOps
namespace Discovery

open Conc Text DiscoveryJobRepository DiscoveryExecutionService DiscoveryFanoutService
open DiscoveryJobWorker MultiTransportDiscoveryOrchestrator

/-! ## Exits -/

/-- What a child of a scope reports of its execution; see `executeChild`. -/
def reportOutcome (result : DiscoveryDeviceResultRecord) (outcome : DiscoveryExecutionOutcome) :
    M Unit := do
  let result ← refreshResult result
  let now ← utcNow
  let _ ← setResult result (executedResult outcome.job now)
  commit

example (rt : Runtime) (a : ScopeArgs) (owner : UUID)
    (child : DiscoveryJobRecord) (result : DiscoveryDeviceResultRecord) :
    executeChild rt a owner child result = (do
      let now ← utcNow
      let result ← setResult result fun r => { r with state := .discovering, startedAt := some now }
      commit
      let outcome ← execute rt {
        tenantId := a.tenantId
        jobId := child.id
        parentJobId := some a.parentJobId
        executionOwner := some owner
        leaseSeconds := a.leaseSeconds
        leaseCallback := a.leaseCallback }
      reportOutcome result outcome) := rfl

/-- The path an exception takes to the rows. `result` is the result a scope has of the job, if the
job is a child of one. -/
inductive Exit where
  | handler (job : DiscoveryJobRecord) (tenantId : String) (owner : UUID)
      (attempt : Option DiscoveryTransportAttemptRecord)
      (result : Option DiscoveryDeviceResultRecord) (e : Exn)
  | chain (registry : CollectorRegistry) (w : Work) (owner : UUID)
      (result : Option DiscoveryDeviceResultRecord)
  | worker (tenantId : String) (jobId owner : UUID) (e : Exn)

/-- The service with a registry of collectors. -/
def service (registry : CollectorRegistry) : Runtime where
  registry := registry
  redact := redactMessage

def reportTo (result : Option DiscoveryDeviceResultRecord) (outcome : DiscoveryExecutionOutcome) :
    M Unit :=
  match result with
  | none => pure ()
  | some result => reportOutcome result outcome

namespace Exit

/-- The program of the path. -/
def record : Exit → M Unit
  | .handler job tenantId owner attempt result e => do
    let outcome ← conclude (service ⟨[]⟩) job tenantId owner attempt e
    reportTo result outcome
  | .chain registry w owner result => do
    let outcome ← tryCatch (executeMultiTransport (service registry) w)
      (conclude (service registry) w.job w.tenantId owner none)
    reportTo result outcome
  | .worker tenantId jobId owner e => failOwnedJob tenantId jobId owner e

/-- One path with exceptions that differ in redacted values only. -/
inductive Alike : Exit → Exit → Prop where
  | handler {job tenantId owner attempt result} {e e' : Exn} (h : e.Alike e') :
      Alike (.handler job tenantId owner attempt result e)
        (.handler job tenantId owner attempt result e')
  | chain {w owner result} {registry registry' : CollectorRegistry}
      (h : registry.Like Exn.Alike registry') :
      Alike (.chain registry w owner result) (.chain registry' w owner result)
  | worker {tenantId jobId owner} {e e' : Exn} (h : e.Alike e') :
      Alike (.worker tenantId jobId owner e) (.worker tenantId jobId owner e')

variable {Sid : Type}

/-- The job is running under the owner, as session `s` sees it. -/
def Owned (σ : Store schema Sid) (s : Sid) (tenantId : String) (jobId owner : UUID) : Prop :=
  ∃ job ∈ (σ.view s .jobs).rows, job.id = jobId ∧ job.tenantId = tenantId ∧
    job.state = .running ∧ job.executionOwner = some owner

/-- The exceptions of a chain are classified alike, and the texts of exceptions that reach the
worker with its job running are the same as far as they are persisted. -/
inductive Clear (σ : Store schema Sid) (s : Sid) : Exit → Exit → Prop where
  | handler {job tenantId owner attempt result e e'} :
      Clear σ s (.handler job tenantId owner attempt result e)
        (.handler job tenantId owner attempt result e')
  | chain {registry registry' : CollectorRegistry} {w owner result}
      (h : registry.Like (fun e e' => classifyException e = classifyException e') registry') :
      Clear σ s (.chain registry w owner result) (.chain registry' w owner result)
  | worker {tenantId jobId owner} {e e' : Exn}
      (h : Owned σ s tenantId jobId owner → take 1000 (strip e.text) = take 1000 (strip e'.text)) :
      Clear σ s (.worker tenantId jobId owner e) (.worker tenantId jobId owner e')

end Exit

/-! ## What is persisted -/

/-- The failure messages of a database. -/
structure FailureMessages where
  jobs : UUID → Option (Option String)
  results : UUID → Option (Option String)
  attempts : UUID → Option (Option String)

def failureMessages (db : Db schema) : FailureMessages where
  jobs id := ((db .jobs).get id).map (·.failureMessage)
  results id := ((db .results).get id).map (·.failureMessage)
  attempts id := ((db .attempts).get id).map (·.failureMessage)

variable {Sid : Type} [DecidableEq Sid] [Fintype Sid]

/-- The failure messages that are committed when the program has run in session `s`; `none` when it
waits for a lock. -/
def persisted (weather : Store.Weather world) (s : Sid) (σ : Store schema Sid) (m : M Unit) :
    Option FailureMessages :=
  (Prog.play weather s 0 (ExceptT.run m) σ).map fun r => failureMessages r.2.db

theorem map_eq {α β γ : Type} {R : α → β → Prop} {f : α → γ} {g : β → γ}
    (hR : ∀ a b, R a b → f a = g b) {o : Option α} {o' : Option β} (h : Option.Rel R o o') :
    o.map f = o'.map g := by
  cases h with
  | none => rfl
  | some h => exact congrArg some (hR _ _ h)

omit [DecidableEq Sid] [Fintype Sid] in
theorem failureMessages_eq {s : Sid} {σ σ' : Store schema Sid} (h : σ.Alike codesHidden s σ') :
    failureMessages σ.db = failureMessages σ'.db := by
  have hjobs : ∀ id, ((σ.db .jobs).get id).map (·.failureMessage) =
      ((σ'.db .jobs).get id).map (·.failureMessage) := by
    intro id
    refine map_eq ?_ ((h.db .jobs).get id)
    rintro r _ ⟨_, rfl⟩
    rfl
  have hresults : ∀ id, ((σ.db .results).get id).map (·.failureMessage) =
      ((σ'.db .results).get id).map (·.failureMessage) := by
    intro id
    refine map_eq ?_ ((h.db .results).get id)
    rintro r _ ⟨_, _, rfl⟩
    rfl
  have hattempts : ∀ id, ((σ.db .attempts).get id).map (·.failureMessage) =
      ((σ'.db .attempts).get id).map (·.failureMessage) := by
    intro id
    refine map_eq ?_ ((h.db .attempts).get id)
    rintro r _ ⟨_, rfl⟩
    rfl
  unfold failureMessages
  simp only [hjobs, hresults, hattempts]

/-- Programs that do the same but for failure codes persist the same messages. -/
theorem persisted_eq {s : Sid} {σ : Store schema Sid} {m m' : M Unit} {Q : Unit → Unit → Prop}
    (h : Mirrors Q m m') (hσ : ∀ c ∈ σ.dirty s, codesHidden.Unsent c c)
    (weather : Store.Weather world) : persisted weather s σ m = persisted weather s σ m' := by
  have hplay : Prog.Mirror.Outcomes codesHidden s (Raises.Results Q)
      (Prog.play weather s 0 (ExceptT.run m) σ) (Prog.play weather s 0 (ExceptT.run m') σ) :=
    Prog.Mirror.play h (Store.Alike.refl hσ) 0
  unfold persisted
  generalize Prog.play weather s 0 (ExceptT.run m) σ = o at hplay ⊢
  generalize Prog.play weather s 0 (ExceptT.run m') σ = o' at hplay ⊢
  cases hplay with
  | none => rfl
  | some h => exact congrArg some (failureMessages_eq h.2)

/-! ## The handler -/

theorem handlerMessage_eq {e e' : Exn} (h : e.Alike e') :
    DiscoveryExecutionService.safeFailureMessage redactMessage e =
      DiscoveryExecutionService.safeFailureMessage redactMessage e' := by
  unfold DiscoveryExecutionService.safeFailureMessage
  dsimp only
  by_cases hblank : strip e.text = ""
  · rw [if_pos hblank, if_pos (h.blank_iff.1 hblank)]
  · rw [if_neg hblank, if_neg fun h' => hblank (h.blank_iff.2 h'), h.redacted]

theorem attemptMessage_eq {e e' : Exn} (h : e.Alike e') :
    MultiTransportDiscoveryOrchestrator.safeFailureMessage redactMessage e.text =
      MultiTransportDiscoveryOrchestrator.safeFailureMessage redactMessage e'.text := by
  unfold MultiTransportDiscoveryOrchestrator.safeFailureMessage
  dsimp only
  by_cases hblank : strip e.text = ""
  · rw [if_pos hblank, if_pos (h.blank_iff.1 hblank)]
  · rw [if_neg hblank, if_neg fun h' => hblank (h.blank_iff.2 h'), h.redacted]

theorem conclude_failed (rt : Runtime) (job : DiscoveryJobRecord) (tenantId : String)
    (owner : UUID) (attempt : Option DiscoveryTransportAttemptRecord) {e : Exn}
    (hcancel : e ≠ .cancellationRequested) (hlost : e ≠ .leaseLost) :
    conclude rt job tenantId owner attempt e = concludeFailed rt job tenantId owner attempt e := by
  cases e with
  | cancellationRequested => exact absurd rfl hcancel
  | leaseLost => exact absurd rfl hlost
  | _ => rfl

theorem reportOutcome_mirrors (result : DiscoveryDeviceResultRecord)
    {o o' : DiscoveryExecutionOutcome} (h : OutcomesAlike o o') :
    Mirrors Eq (reportOutcome result o) (reportOutcome result o') := by
  have hrefresh : Mirrors ResultsAlike (refreshResult result) (refreshResult result) := by
    refine Raises.mirror_bind (mirrors_select .results ?_) fun rs rs' hrows => ?_
    · rintro r _ ⟨_, _, rfl⟩
      rfl
    · have hhead := head_alike hrows
      generalize rs.head? = r at hhead ⊢
      generalize rs'.head? = r' at hhead ⊢
      cases hhead with
      | none => exact Raises.mirror_throw _
      | some h => exact Raises.mirror_pure h
  refine Raises.mirror_bind hrefresh fun r r' hr => ?_
  refine mirrors_then (mirrors_ext .utcNow) fun now => ?_
  refine Raises.mirror_bind (setResult_mirrors hr ?_) fun _ _ _ => mirrors_commit
  obtain ⟨job, executed, evidenceCount⟩ := o
  obtain ⟨job', executed', evidenceCount'⟩ := o'
  obtain ⟨_, rfl⟩ := h
  rintro r _ ⟨_, _, rfl⟩
  exact ⟨_, _, rfl⟩

theorem reportTo_mirrors (result : Option DiscoveryDeviceResultRecord)
    {o o' : DiscoveryExecutionOutcome} (h : OutcomesAlike o o') :
    Mirrors Eq (reportTo result o) (reportTo result o') := by
  cases result with
  | none => exact Raises.mirror_pure rfl
  | some result => exact reportOutcome_mirrors result h

/-- The handler of `execute` persists the redacted text of an exception. -/
theorem persisted_handler {e e' : Exn} (h : e.Alike e') {s : Sid} {σ : Store schema Sid}
    (hσ : ∀ c ∈ σ.dirty s, codesHidden.Unsent c c) (weather : Store.Weather world)
    (job : DiscoveryJobRecord) (tenantId : String) (owner : UUID)
    (attempt : Option DiscoveryTransportAttemptRecord)
    (result : Option DiscoveryDeviceResultRecord) :
    persisted weather s σ (Exit.handler job tenantId owner attempt result e).record =
      persisted weather s σ (Exit.handler job tenantId owner attempt result e').record := by
  by_cases hcancel : e = .cancellationRequested
  · rw [hcancel, h.cancellation_iff.1 hcancel]
  · by_cases hlost : e = .leaseLost
    · rw [hlost, h.leaseLost_iff.1 hlost]
    · have hcancel' : e' ≠ .cancellationRequested := fun h' => hcancel (h.cancellation_iff.2 h')
      have hlost' : e' ≠ .leaseLost := fun h' => hlost (h.leaseLost_iff.2 h')
      refine persisted_eq (Raises.mirror_bind ?_ fun _ _ ho => reportTo_mirrors result ho) hσ
        weather
      rw [conclude_failed _ _ _ _ _ hcancel hlost, conclude_failed _ _ _ _ _ hcancel' hlost']
      exact handler_mirrors job tenantId owner attempt (handlerMessage_eq h)

/-! ## Chains -/

theorem oneFailure {e e' : Exn} (h : e.Alike e')
    (hcode : classifyException e = classifyException e') : OneFailure redactMessage e e' where
  code := hcode
  message := attemptMessage_eq h

theorem record_chain {registry registry' : CollectorRegistry}
    (h : registry.Like Exn.Alike registry')
    (hcode : registry.Like (fun e e' => classifyException e = classifyException e') registry')
    (w : Work) (owner : UUID) (result : Option DiscoveryDeviceResultRecord) :
    (Exit.chain registry w owner result).record = (Exit.chain registry' w owner result).record := by
  have hchain := executeMultiTransport_eq (h.both (fun _ _ => oneFailure) hcode) w
  have hconclude : ∀ e, conclude (service registry) w.job w.tenantId owner none e =
      conclude (service registry') w.job w.tenantId owner none e := by
    intro e
    cases e <;> rfl
  unfold Exit.record
  dsimp only
  unfold service at hconclude ⊢
  rw [hchain, funext hconclude]

/-! ## The worker -/

theorem errorMessage_eq {e e' : Exn} (h : e.Alike e')
    (htext : take 1000 (strip e.text) = take 1000 (strip e'.text)) :
    errorMessage e = errorMessage e' := by
  unfold errorMessage orElse
  by_cases hblank : strip e.text = ""
  · rw [if_pos hblank, if_pos (h.blank_iff.1 hblank)]
  · rw [if_neg hblank, if_neg fun h' => hblank (h.blank_iff.2 h'), htext]

theorem failOwnedJob_eq {e e' : Exn} (h : errorMessage e = errorMessage e') (tenantId : String)
    (jobId owner : UUID) :
    failOwnedJob tenantId jobId owner e = failOwnedJob tenantId jobId owner e' := by
  have htransition :
      failTransition tenantId jobId owner e = failTransition tenantId jobId owner e' := by
    unfold failTransition
    rw [h]
  unfold failOwnedJob failOwned
  rw [htransition]

/-- `_fail_owned_job` after it has looked for the job. -/
def failFound (tenantId : String) (jobId owner : UUID) (e : Exn) :
    Option DiscoveryJobRecord → M Unit
  | none => pure ()
  | some current =>
    if current.state ≠ .running ∨ current.executionOwner ≠ some owner then pure ()
    else do
      let _ ← transition (failTransition tenantId jobId owner e)
      let target ← findTargetById tenantId current.targetId
      if isScope target = true then do
        let _ ← reconcileParentJob tenantId jobId true defaultMaxTargets
        pure ()
      else commit

/-- `_fail_owned_job` looks for the job first. -/
theorem run_failOwnedJob (tenantId : String) (jobId owner : UUID) (e : Exn) :
    ExceptT.run (failOwnedJob tenantId jobId owner e) =
      .stmt (.select .jobs fun r => r.id == jobId && r.tenantId == tenantId) fun r => match r with
        | .ok rows =>
          (ExceptT.run (failFound tenantId jobId owner e rows.head?)).bind fun _ =>
            ExceptT.run rollback
        | .error _ => ExceptT.run rollback := by
  have hfound : failOwned tenantId jobId owner e =
      get tenantId jobId >>= failFound tenantId jobId owner e := by
    refine bind_congr fun found => ?_
    cases found <;> rfl
  unfold failOwnedJob quietly
  rw [run_catching_bind, hfound]
  refine congrArg (Prog.stmt _) (funext fun r => ?_)
  cases r with
  | ok rows => rfl
  | error e => rfl

/-- A job that is not running under the owner is left alone. -/
theorem play_notOwned {s : Sid} {σ : Store schema Sid} {tenantId : String} {jobId owner : UUID}
    (h : ¬ Exit.Owned σ s tenantId jobId owner) (weather : Store.Weather world) (e e' : Exn) :
    Prog.play weather s 0 (ExceptT.run (failOwnedJob tenantId jobId owner e)) σ =
      Prog.play weather s 0 (ExceptT.run (failOwnedJob tenantId jobId owner e')) σ := by
  have hfound : ∀ job ∈ ((σ.view s .jobs).rows.filter fun r =>
      r.id == jobId && r.tenantId == tenantId).head?, ∀ e : Exn,
      failFound tenantId jobId owner e (some job) = pure () := by
    intro job hjob e
    obtain ⟨hrow, hkey⟩ := List.mem_filter.1 (List.mem_of_mem_head? hjob)
    rw [Bool.and_eq_true, beq_iff_eq, beq_iff_eq] at hkey
    refine if_pos ?_
    by_contra hrunning
    rw [not_or, not_not, not_not] at hrunning
    exact h ⟨job, hrow, hkey.1, hkey.2, hrunning.1, hrunning.2⟩
  rw [run_failOwnedJob, run_failOwnedJob]
  unfold Prog.play
  refine Option.bind_congr ?_
  rintro ⟨r, σ'⟩ hrespond
  cases r with
  | error e => rfl
  | ok rows =>
    have hrows : rows = (σ.view s .jobs).rows.filter fun r =>
        r.id == jobId && r.tenantId == tenantId := by
      unfold Store.respond at hrespond
      split at hrespond
      · cases hrespond
      · exact (Except.ok.inj (Prod.mk.inj (Option.some.inj hrespond)).1).symm
    subst hrows
    dsimp only
    generalize List.head? _ = found at hfound ⊢
    cases found with
    | none => rfl
    | some job => rw [hfound job rfl e, hfound job rfl e']

/-! ## Two runs -/

/-- Two runs whose exceptions differ in redacted values only persist the same failure messages, if
a chain classifies the exceptions alike and what reaches the worker is the same as far as it is
persisted. The changes the session has not sent yet do not look at failure codes. -/
theorem failure_messages_agree {x x' : Exit} (h : x.Alike x') {s : Sid} {σ : Store schema Sid}
    (hclear : x.Clear σ s x') (hσ : ∀ c ∈ σ.dirty s, codesHidden.Unsent c c)
    (weather : Store.Weather world) :
    persisted weather s σ x.record = persisted weather s σ x'.record := by
  cases h with
  | handler h => exact persisted_handler h hσ weather _ _ _ _ _
  | chain h =>
    cases hclear with
    | chain hcode => rw [record_chain h hcode]
  | @worker tenantId jobId owner e e' h =>
    cases hclear with
    | worker htext =>
      by_cases howned : Exit.Owned σ s tenantId jobId owner
      · have hrecord := failOwnedJob_eq (errorMessage_eq h (htext howned)) tenantId jobId owner
        exact congrArg (persisted weather s σ) hrecord
      · exact congrArg (Option.map _) (play_notOwned howned weather e e')

/-- The device job, running under the worker. -/
def ownedStore : Store schema Unit :=
  Samples.store (Samples.tables
    [{ Samples.deviceJob with state := .running, executionOwner := some Samples.worker }] [])

def calmWeather : Store.Weather world where
  answers _ := Samples.world 0 0
  fails _ := false

/-- The single-device job `Samples.deviceJob`, running, whose collector raises. -/
def handlerExit (text : String) : Exit :=
  .handler Samples.deviceJob Samples.tenant Samples.worker none none (.raised text)

theorem passwords_alike : (Exn.raised "password=AAA").Alike (.raised "password=BBB") where
  sameClass := rfl
  redacted := by
    have hstrip : strip "password=AAA" = "password=AAA" ∧
        strip "password=BBB" = "password=BBB" := by
      decide
    unfold Exn.text
    rw [hstrip.1, hstrip.2]
    decide

theorem failure_messages_agree_password :
    persisted calmWeather () ownedStore (handlerExit "password=AAA").record =
      persisted calmWeather () ownedStore (handlerExit "password=BBB").record :=
  failure_messages_agree (.handler passwords_alike) .handler (fun _ hc => by cases hc) calmWeather

/-- The worker fails its job with the text of the exception. -/
theorem worker_keeps_secret :
    let x := Exit.worker Samples.tenant 22 Samples.worker (.raised "password=AAA")
    let x' := Exit.worker Samples.tenant 22 Samples.worker (.raised "password=BBB")
    x.Alike x' ∧
      (persisted calmWeather () ownedStore x.record).map (·.jobs 22) =
        some (some (some "password=AAA")) ∧
      persisted calmWeather () ownedStore x.record ≠
        persisted calmWeather () ownedStore x'.record := by
  have hjob : ∀ text, text = "password=AAA" ∨ text = "password=BBB" →
      (persisted calmWeather () ownedStore
        (Exit.worker Samples.tenant 22 Samples.worker (.raised text)).record).map (·.jobs 22) =
          some (some (some text)) := by
    rintro text (rfl | rfl) <;> rfl
  refine ⟨.worker passwords_alike, hjob _ (.inl rfl), fun h => ?_⟩
  have hsame := congrArg (Option.map (·.jobs 22)) h
  rw [hjob _ (.inl rfl), hjob _ (.inr rfl)] at hsame
  exact absurd hsame (by decide)

end Discovery
end NetOps
