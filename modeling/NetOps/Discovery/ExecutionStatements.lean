import NetOps.Discovery.Statements
import NetOps.Discovery.Worker

/-!
# Discovery.ExecutionStatements

What the programs of the execution, the fan-out and the worker can issue: `Discovery.Statements`
goes on here, one lemma per function.
-/

namespace NetOps
namespace Discovery

open Conc DiscoveryJobRepository DiscoveryFanoutService

variable {A : Kind → Prop} {α β : Type}

/-! ## Control -/

theorem issues_catching {m : M α} (h : Issues A m) : Issues A (catching m) :=
  Raises.all_tryCatch (Raises.all_bind h fun _ => Raises.all_pure _) fun _ => Raises.all_pure _

theorem issues_ext (x : Ext) (hx : ∀ jobId, x ≠ .callCollector jobId) : Issues A (ask (.ext x)) :=
  issues_ask (.ext x hx) trivial

theorem Conversation.run_issues {jobId : UUID} {check : M Unit} (hcheck : Issues A check)
    (c : Conversation α) : Issues A (c.run jobId check) := by
  induction c with
  | done r => exact issues_unwrap r
  | network q k ih => exact Raises.all_bind (issues_ext _ (by simp)) ih
  | checkCancellation k ih => exact Raises.all_bind (issues_catching hcheck) ih

theorem callCollector_issues {context : CollectorContext} {check : M Unit}
    (hcheck : Issues A check) (hcollect : A (.collect context.jobId)) (c : Conversation α) :
    Issues A (callCollector context check c) :=
  Raises.all_bind (issues_ask (.collect _ hcollect) trivial) fun _ => c.run_issues hcheck

/-! ## Attempts -/

/-- What recording an attempt writes. -/
def attemptKinds : List Kind := [.insert .attempts, .change .attempts]

namespace DiscoveryTransportAttemptRepository

theorem start_issues (tenantId : String) (resultId : UUID) (transport : String) (order : Nat)
    (correlationId : Option String) (hA : ∀ k ∈ attemptKinds, A k) :
    Issues A (start tenantId resultId transport order correlationId) := by
  refine Raises.all_bind issues_uuid4 fun id => Raises.all_bind issues_utcNow fun now => ?_
  exact Raises.all_bind (issues_insert (by decide) _ (hA _ (by simp [attemptKinds])))
    fun _ => Raises.all_pure _

theorem finish_issues (record : DiscoveryTransportAttemptRecord) (result : AttemptResult)
    (code : Option DiscoveryFailureCode) (message : Option String)
    (hA : ∀ k ∈ attemptKinds, A k) : Issues A (finish record result code message) :=
  Raises.all_bind issues_utcNow fun _ => Raises.all_bind
    (issues_change (by decide) _ (fun _ => rfl) (hA _ (by simp [attemptKinds]))) fun _ =>
      issues_flush

end DiscoveryTransportAttemptRepository

namespace MultiTransportDiscoveryOrchestrator

open DiscoveryTransportAttemptRepository

/-- The attempt makes only calls of the kinds of `A`. -/
def TransportAttemptConfig.Calls (A : Kind → Prop) (config : TransportAttemptConfig) : Prop :=
  Issues A config.cancellationCheck ∧ A (.collect config.context.jobId)

theorem attemptPayload_issues {config : TransportAttemptConfig} (h : config.Calls A) :
    Issues A (attemptPayload config) := by
  refine Raises.all_bind (callCollector_issues h.1 h.2 _) fun _ => ?_
  refine Raises.all_bind (callCollector_issues h.1 h.2 _) fun payload => ?_
  refine Raises.all_ite (fun _ => Raises.all_pure _) fun _ => ?_
  exact Raises.all_bind (issues_unwrap _) fun _ => Raises.all_pure _

theorem executeTransportAttempt_issues (redact : String → String)
    {config : TransportAttemptConfig} (order : Nat) (h : config.Calls A) :
    Issues A (executeTransportAttempt redact config order) := by
  refine Raises.all_bind (issues_catching (attemptPayload_issues h)) fun r => ?_
  split <;> exact Raises.all_pure _

theorem startAttempt_issues (result : DiscoveryDeviceResultRecord) (transport : String)
    (order : Nat) (hA : ∀ k ∈ attemptKinds, A k) :
    Issues A (startAttempt result transport order) :=
  Raises.all_tryCatch (Raises.all_bind (start_issues _ _ _ _ _ hA) fun _ => Raises.all_pure _)
    fun _ => Raises.all_pure _

theorem finishAttempt_issues (redact : String → String)
    (record : Option DiscoveryTransportAttemptRecord) (r : TransportAttemptResult)
    (hA : ∀ k ∈ attemptKinds, A k) : Issues A (finishAttempt redact record r) := by
  cases record with
  | none => exact Raises.all_pure _
  | some record =>
    exact Raises.all_tryCatch (Raises.all_ite (fun _ => finish_issues _ _ _ _ hA)
      fun _ => finish_issues _ _ _ _ hA) fun _ => Raises.all_pure _

theorem attemptAll_issues (redact : String → String) (result : DiscoveryDeviceResultRecord)
    (hA : ∀ k ∈ attemptKinds, A k) :
    ∀ (configs : List TransportAttemptConfig) (order : Nat) (p : Progress),
      (∀ c ∈ configs, c.Calls A) → Issues A (attemptAll redact result order p configs) := by
  intro configs
  induction configs with
  | nil => exact fun _ _ _ => Raises.all_pure _
  | cons config configs ih =>
    intro order p hcheck
    refine Raises.all_bind (startAttempt_issues _ _ _ hA) fun record => ?_
    refine Raises.all_bind
      (executeTransportAttempt_issues _ _ (hcheck _ List.mem_cons_self)) fun r => ?_
    refine Raises.all_bind (finishAttempt_issues _ _ _ hA) fun _ => ?_
    exact Raises.all_ite (fun _ => Raises.all_pure _)
      fun _ => ih _ _ fun c hc => hcheck c (List.mem_cons_of_mem _ hc)

theorem discoverWithFallback_issues (redact : String → String)
    {configs : List TransportAttemptConfig} (result : DiscoveryDeviceResultRecord)
    (hA : ∀ k ∈ attemptKinds, A k) (hcheck : ∀ c ∈ configs, c.Calls A) :
    Issues A (discoverWithFallback redact configs result) :=
  Raises.all_bind (attemptAll_issues _ _ hA _ _ _ hcheck) fun _ =>
    Raises.all_bind issues_utcNow fun _ => Raises.all_pure _

end MultiTransportDiscoveryOrchestrator

/-! ## Parts of an execution -/

theorem resolveTransportPolicy_issues (target : DiscoveryTargetRecordView) :
    Issues A (resolveTransportPolicy target) := by
  unfold resolveTransportPolicy
  split
  · exact issues_unwrap _
  · exact Raises.all_bind (issues_select _ _) fun _ => issues_unwrap _

namespace DiscoveryExecutionService

open DiscoveryTransportAttemptRepository MultiTransportDiscoveryOrchestrator

theorem leaseIsLost_issues (given : Bool) : Issues A (leaseIsLost given) :=
  Raises.all_ite (fun _ => issues_ext _ (by simp)) fun _ => Raises.all_pure _

theorem passCancellationOn_issues (tenantId : String) (jobId : UUID)
    (parent : Option DiscoveryJobRecord) (hA : A (.update .requestCancellation)) :
    Issues A (passCancellationOn tenantId jobId parent) := by
  unfold passCancellationOn
  split
  · exact Raises.all_pure _
  · split
    · exact Raises.all_pure _
    · exact issues_drop (requestCancellation_issues _ _ _ _ hA)

theorem raiseIfCancelled_issues (w : Watch) (hA : A (.update .requestCancellation)) :
    Issues A (raiseIfCancelled w) := by
  refine Raises.all_bind (leaseIsLost_issues _) fun lost => ?_
  refine Raises.all_bind (issues_raiseIf _ _) fun _ => ?_
  refine Raises.all_bind (cancellationRequested_issues _ _) fun requested => ?_
  refine Raises.all_bind (issues_raiseIf _ _) fun _ => ?_
  split
  · exact Raises.all_pure _
  · refine Raises.all_bind (cancellationRequested_issues _ _) fun requested => ?_
    refine issues_doIf fun _ => ?_
    refine Raises.all_bind (get_issues _ _) fun parent => ?_
    exact Raises.all_bind (passCancellationOn_issues _ _ _ hA) fun _ => Raises.all_throw _

theorem resolveTarget_issues (job : DiscoveryJobRecord) (tenantId : String) :
    Issues A (resolveTarget job tenantId) := by
  refine Raises.all_bind (issues_sessionGet _ _) fun target => ?_
  cases target with
  | none => exact Raises.all_throw _
  | some target => exact Raises.all_ite (fun _ => Raises.all_throw _) fun _ => Raises.all_pure _

theorem findDeviceResult_issues (tenantId : String) (jobId : UUID) :
    Issues A (findDeviceResult tenantId jobId) :=
  Raises.all_bind (issues_select _ _) fun _ => Raises.all_pure _

/-- What keeping the device result of a job writes. -/
def resultKinds : List Kind := [.insert .results, .change .results]

theorem issues_newResult (r : DiscoveryDeviceResultRecord) (hA : ∀ k ∈ resultKinds, A k) :
    Issues A (insert .results r) :=
  issues_insert (by decide) _ (hA _ (by simp [resultKinds]))

theorem issues_setResult (r : DiscoveryDeviceResultRecord)
    {values : DiscoveryDeviceResultRecord → DiscoveryDeviceResultRecord}
    (hkey : ∀ r, (values r).id = r.id) (hA : ∀ k ∈ resultKinds, A k) :
    Issues A (setResult r values) :=
  setResult_issues r hkey (hA _ (by simp [resultKinds]))

theorem startTransportAttempt_issues (job : DiscoveryJobRecord)
    (target : DiscoveryTargetRecordView) (hA : ∀ k ∈ attemptKinds ++ resultKinds, A k) :
    Issues A (startTransportAttempt job target) := by
  refine Raises.all_bind (Raises.all_bind (findDeviceResult_issues _ _) fun result => ?_)
    fun result => start_issues _ _ _ _ _ fun k hk => hA k (by simp [hk])
  cases result with
  | some result => exact Raises.all_pure _
  | none =>
    refine Raises.all_bind issues_utcNow fun now => Raises.all_bind issues_uuid4 fun id => ?_
    exact Raises.all_bind (issues_newResult _ fun k hk => hA k (by simp [hk])) fun _ =>
      Raises.all_pure _

theorem recordDeviceResult_issues (job : DiscoveryJobRecord) (target : DiscoveryTargetRecordView)
    (snapshot : ProcessedSnapshot) (selectedTransport : Option String)
    (resultState : DiscoveryResultState) (hA : ∀ k ∈ resultKinds, A k) :
    Issues A (recordDeviceResult job target snapshot selectedTransport resultState) := by
  refine Raises.all_bind (findDeviceResult_issues _ _) fun existing => ?_
  refine Raises.all_bind issues_utcNow fun now => ?_
  cases existing with
  | some result => exact issues_drop (issues_setResult _ (fun _ => rfl) hA)
  | none => exact Raises.all_bind issues_uuid4 fun id => issues_newResult _ hA

theorem startedOr_issues (job : DiscoveryJobRecord) : Issues A (startedOr job) := by
  unfold startedOr
  split
  · exact Raises.all_pure _
  · exact issues_utcNow

theorem ensureDeviceResultForFailure_issues (job : DiscoveryJobRecord)
    (target : DiscoveryTargetRecordView) (code : DiscoveryFailureCode) (message : Option String)
    (selectedTransport : Option String) (hA : ∀ k ∈ resultKinds, A k) :
    Issues A (ensureDeviceResultForFailure job target code message selectedTransport) := by
  refine Raises.all_bind (findDeviceResult_issues _ _) fun existing => ?_
  refine Raises.all_bind issues_utcNow fun now => ?_
  cases existing with
  | some result =>
    exact Raises.all_bind (issues_setResult _ (fun _ => rfl) hA) fun _ => issues_flush
  | none =>
    refine Raises.all_bind (startedOr_issues _) fun startedAt => ?_
    exact Raises.all_bind issues_uuid4 fun id => issues_newResult _ hA

theorem createEvidence_issues (job : DiscoveryJobRecord) (target : DiscoveryTargetRecordView)
    (collector : Collector) (hA : A (.insert .evidence)) :
    Issues A (createEvidence job target collector) := by
  refine Raises.all_bind issues_utcNow fun now => Raises.all_bind issues_uuid4 fun id => ?_
  refine Raises.all_bind (issues_sessionGet _ _) fun jobRow => ?_
  refine Raises.all_bind (issues_sessionGet _ _) fun targetRow => ?_
  refine Raises.all_bind (issues_sessionGet _ _) fun runRow => ?_
  refine Raises.all_bind (issues_raiseIf _ _) fun _ => ?_
  refine Raises.all_bind (issues_raiseIf _ _) fun _ => ?_
  refine Raises.all_bind (issues_raiseIf _ _) fun _ => ?_
  refine Raises.all_bind (issues_raiseIf _ _) fun _ => ?_
  exact issues_insert (by decide) _ hA

theorem processPayload_issues (jobId : UUID) : Issues A (processPayload jobId) :=
  Raises.all_bind (issues_ext _ (by simp)) fun _ => issues_unwrap _

theorem addLiveSnapshot_issues (tenantId : String) (runId : UUID) (snapshot : ProcessedSnapshot)
    (hA : A (.insert .snapshots)) : Issues A (addLiveSnapshot tenantId runId snapshot) :=
  Raises.all_bind issues_uuid4 fun _ => issues_insert (by decide) _ hA

theorem finalizeSingleDeviceRun_issues (runId : UUID) (resultState : DiscoveryResultState)
    (hA : A (.update .run)) : Issues A (finalizeSingleDeviceRun runId resultState) := by
  refine Raises.all_bind (issues_sessionGet _ _) fun run => ?_
  cases run with
  | none => exact Raises.all_pure _
  | some run => exact Raises.all_bind issues_utcNow fun now => setRun_issues _ (fun _ => rfl) hA

/-! ## The multi-transport path -/

/-- What an execution writes before it publishes or ends its job. -/
def workKinds : List Kind :=
  .update .requestCancellation :: .update .recordSelection :: attemptKinds ++ resultKinds

theorem recordUnsupportedCredentialAttempt_issues (job : DiscoveryJobRecord)
    (target : DiscoveryTargetRecordView) (transportName : String)
    (hA : ∀ k ∈ attemptKinds, A k) :
    Issues A (recordUnsupportedCredentialAttempt job target transportName) := by
  refine Raises.all_tryCatch ?_ fun _ => Raises.all_pure _
  refine Raises.all_bind (findDeviceResult_issues _ _) fun result => ?_
  cases result with
  | none => exact Raises.all_pure _
  | some result =>
    refine Raises.all_bind (issues_select _ _) fun existing => issues_doIf fun _ => ?_
    exact Raises.all_bind (start_issues _ _ _ _ _ hA) fun _ => finish_issues _ _ _ _ hA

theorem recordUnsupportedCredentials_issues (job : DiscoveryJobRecord)
    (target : DiscoveryTargetRecordView) (policy : MultiTransportPolicy)
    (hA : ∀ k ∈ attemptKinds, A k) :
    Issues A (recordUnsupportedCredentials job target policy) :=
  Raises.all_forM fun _ _ => issues_doIf fun _ =>
    recordUnsupportedCredentialAttempt_issues _ _ _ hA

/-- Every configuration of a chain checks for the cancellation of its job, and is about it. -/
theorem chainConfig_check {registry : CollectorRegistry} {job : DiscoveryJobRecord}
    {target : DiscoveryTargetRecordView} {policy : MultiTransportPolicy} {w : Watch}
    {config : TransportAttemptConfig}
    (h : config ∈ buildTransportConfigs registry job target policy w) :
    config.cancellationCheck = raiseIfCancelled w ∧ config.context.jobId = job.id := by
  obtain ⟨entry, _, h⟩ := List.mem_filterMap.1 h
  unfold chainConfig at h
  split at h
  · cases h
  · split at h
    · cases h; exact ⟨rfl, rfl⟩
    · cases h

theorem startDeviceResult_issues (tenantId : String) (job : DiscoveryJobRecord)
    (target : DiscoveryTargetRecordView) (parentJobId : Option UUID)
    (hA : ∀ k ∈ resultKinds, A k) :
    Issues A (startDeviceResult tenantId job target parentJobId) := by
  refine Raises.all_bind (findDeviceResult_issues _ _) fun existing => ?_
  refine Raises.all_bind issues_utcNow fun now => ?_
  cases existing with
  | some result =>
    exact Raises.all_bind (issues_setResult _ (fun _ => rfl) hA) fun _ =>
      Raises.all_bind issues_flush fun _ => Raises.all_pure _
  | none =>
    exact Raises.all_bind issues_uuid4 fun id => Raises.all_bind (issues_newResult _ hA) fun _ =>
      Raises.all_pure _

/-- What publishing a discovered device writes. -/
def publishKinds : List Kind :=
  [.insert .evidence, .insert .snapshots, .update (.transition .succeeded true), .update .run,
    .commit]

/-- What failing a job writes. -/
def failKinds : List Kind :=
  [.update (.transition .failed true), .update .run, .commit]

/-- What cancelling a job writes. -/
def cancelKinds : List Kind := [.update (.transition .cancelled false), .commit]

/-- Everything an execution writes that publishes nothing, the claim apart. -/
def handlerKinds : List Kind := workKinds ++ failKinds ++ cancelKinds

/-- Everything an execution writes, the claim apart. -/
def executeKinds : List Kind := workKinds ++ publishKinds ++ failKinds ++ cancelKinds

theorem mem_handlerKinds {k : Kind} (h : k ∈ workKinds) : k ∈ handlerKinds := by
  simp [handlerKinds, h]

theorem attempt_mem {k : Kind} (h : k ∈ attemptKinds) : k ∈ handlerKinds :=
  mem_handlerKinds (by simp [workKinds, h])

theorem result_mem {k : Kind} (h : k ∈ resultKinds) : k ∈ handlerKinds :=
  mem_handlerKinds (by simp [workKinds, h])

theorem handler_mem {k : Kind} (h : k ∈ handlerKinds) : k ∈ executeKinds := by
  simp only [handlerKinds, List.mem_append] at h
  rcases h with (hwork | hfail) | hcancel
  · simp [executeKinds, hwork]
  · simp [executeKinds, hfail]
  · simp [executeKinds, hcancel]

theorem mem_workKinds {k : Kind} (h : k ∈ workKinds) : k ∈ executeKinds :=
  handler_mem (mem_handlerKinds h)

/-! ## Ends without a publication -/

section

variable (hA : ∀ k ∈ handlerKinds, A k)

include hA

theorem check_issues (w : Watch) : Issues A (raiseIfCancelled w) :=
  raiseIfCancelled_issues w (hA _ (mem_handlerKinds (by simp [workKinds])))

theorem failChain_issues (w : Work) (result : DiscoveryDeviceResultRecord)
    (mt : MultiTransportDiscoveryResult) : Issues A (failChain w result mt) := by
  have hres : ∀ k ∈ resultKinds, A k := fun k hk => hA k (result_mem hk)
  refine Raises.all_bind (issues_setResult _ (fun _ => rfl) hres) fun _ => ?_
  refine Raises.all_bind
    (markFailedAfterRollback_issues _ _ _ _ _ (hA _ (by simp [handlerKinds, failKinds])))
    fun failed => ?_
  refine Raises.all_bind
    (finalizeSingleDeviceRun_issues _ _ (hA _ (by simp [handlerKinds, failKinds]))) fun _ => ?_
  refine Raises.all_bind (ensureDeviceResultForFailure_issues _ _ _ _ _ hres) fun _ => ?_
  exact Raises.all_bind (issues_commit (hA _ (by simp [handlerKinds, failKinds]))) fun _ =>
    Raises.all_pure _

theorem finishStarted_issues (attempt : Option DiscoveryTransportAttemptRecord)
    (result : AttemptResult) (code : DiscoveryFailureCode) (message : Option String) :
    Issues A (finishStarted attempt result code message) := by
  cases attempt with
  | none => exact Raises.all_pure _
  | some attempt => exact finish_issues _ _ _ _ fun k hk => hA k (attempt_mem hk)

theorem cancelDeviceResult_issues (job : DiscoveryJobRecord) (tenantId : String) :
    Issues A (cancelDeviceResult job tenantId) := by
  have hres : ∀ k ∈ resultKinds, A k := fun k hk => hA k (result_mem hk)
  refine Raises.all_bind (resolveTarget_issues _ _) fun target => ?_
  refine Raises.all_bind (findDeviceResult_issues _ _) fun existing => ?_
  cases existing with
  | some result =>
    refine Raises.all_bind issues_utcNow fun now => ?_
    exact Raises.all_bind (issues_setResult _ (fun _ => rfl) hres) fun _ => issues_flush
  | none =>
    refine Raises.all_bind (startedOr_issues _) fun startedAt => ?_
    refine Raises.all_bind issues_utcNow fun now => Raises.all_bind issues_uuid4 fun id => ?_
    exact issues_newResult _ hres

theorem concludeCancelled_issues (job : DiscoveryJobRecord) (tenantId : String) (owner : UUID)
    (attempt : Option DiscoveryTransportAttemptRecord) :
    Issues A (concludeCancelled job tenantId owner attempt) := by
  refine Raises.all_bind (finishStarted_issues hA ..) fun _ => ?_
  refine Raises.all_bind (Raises.all_tryCatch (cancelDeviceResult_issues hA ..)
    fun _ => Raises.all_pure _) fun _ => ?_
  refine Raises.all_bind
    (finaliseCancellation_issues _ _ _ (hA _ (by simp [handlerKinds, cancelKinds]))) fun _ => ?_
  exact Raises.all_bind (issues_commit (hA _ (by simp [handlerKinds, cancelKinds]))) fun _ =>
    Raises.all_pure _

theorem persistFailure_issues (job : DiscoveryJobRecord) (tenantId : String) (owner : UUID)
    (target : DiscoveryTargetRecordView) (code : DiscoveryFailureCode) (message : String) :
    Issues A (persistFailure job tenantId owner target code message) := by
  refine Raises.all_bind
    (markFailedAfterRollback_issues _ _ _ _ _ (hA _ (by simp [handlerKinds, failKinds])))
    fun failed => ?_
  refine Raises.all_bind
    (ensureDeviceResultForFailure_issues _ _ _ _ _ fun k hk => hA k (result_mem hk)) fun _ => ?_
  exact Raises.all_bind (issues_commit (hA _ (by simp [handlerKinds, failKinds]))) fun _ =>
    Raises.all_pure _

theorem concludeFailed_issues (rt : Runtime) (job : DiscoveryJobRecord) (tenantId : String)
    (owner : UUID) (attempt : Option DiscoveryTransportAttemptRecord) (e : Exn) :
    Issues A (concludeFailed rt job tenantId owner attempt e) := by
  refine Raises.all_bind (cancellationRequested_issues _ _) fun requested => ?_
  refine Raises.all_ite (fun _ => ?_) fun _ => ?_
  · refine Raises.all_bind (finishStarted_issues hA ..) fun _ => ?_
    refine Raises.all_bind
      (finaliseCancellation_issues _ _ _ (hA _ (by simp [handlerKinds, cancelKinds]))) fun _ => ?_
    exact Raises.all_bind (issues_commit (hA _ (by simp [handlerKinds, cancelKinds]))) fun _ =>
      Raises.all_pure _
  · refine Raises.all_bind (finishStarted_issues hA ..) fun _ => ?_
    refine Raises.all_bind (resolveTarget_issues _ _) fun target => ?_
    refine Raises.all_bind (issues_catching (persistFailure_issues hA ..)) fun r => ?_
    split
    · exact Raises.all_pure _
    · exact Raises.all_bind issues_rollback fun _ => Raises.all_throw _

omit hA in
theorem concludeLeaseLost_issues (job : DiscoveryJobRecord) (tenantId : String) :
    Issues A (concludeLeaseLost job tenantId) := by
  refine Raises.all_bind issues_rollback fun _ => Raises.all_bind (get_issues _ _) fun current => ?_
  cases current with
  | none => exact Raises.all_throw _
  | some current => exact Raises.all_pure _

theorem conclude_issues (rt : Runtime) (job : DiscoveryJobRecord) (tenantId : String)
    (owner : UUID) (attempt : Option DiscoveryTransportAttemptRecord) (e : Exn) :
    Issues A (conclude rt job tenantId owner attempt e) := by
  unfold conclude
  split
  · exact concludeCancelled_issues hA ..
  · exact concludeLeaseLost_issues ..
  · exact concludeFailed_issues hA ..

omit hA in
theorem notAcquired_issues (a : ExecuteArgs) : Issues A (notAcquired a) := by
  refine Raises.all_bind issues_rollback fun _ => Raises.all_bind (get_issues _ _) fun current => ?_
  cases current with
  | none => exact Raises.all_throw _
  | some current => exact Raises.all_pure _

theorem acquire_issues (a : ExecuteArgs) (owner : UUID) (hclaim : A (.update .claim)) :
    Issues A (acquire a owner) := by
  refine Raises.all_ite (fun _ => ?_) fun _ => ?_
  · refine Raises.all_bind (ownedRunningJob_issues _ _ _) fun job => ?_
    cases job with
    | some job => exact Raises.all_pure _
    | none => exact Raises.all_throw _
  · refine Raises.all_bind (claim_issues _ _ _ _ hclaim) fun job => ?_
    exact Raises.all_bind (issues_commit (hA _ (by simp [handlerKinds, cancelKinds]))) fun _ =>
      Raises.all_pure _

end

/-! ## Publications -/

section

variable (hA : ∀ k ∈ executeKinds, A k)

include hA

theorem publishDiscovered_issues (w : Work) (result : DiscoveryDeviceResultRecord)
    (collector : Collector) (mt : MultiTransportDiscoveryResult) (payload : PyDict) :
    Issues A (publishDiscovered w result collector mt payload) := by
  have hres : ∀ k ∈ resultKinds, A k := fun k hk => hA k (handler_mem (result_mem hk))
  have hcommit : A .commit := hA _ (by simp [executeKinds, publishKinds])
  refine Raises.all_bind
    (recordSelection_issues _ _ _ _ (hA _ (mem_workKinds (by simp [workKinds])))) fun _ => ?_
  refine Raises.all_bind (check_issues (fun k hk => hA k (handler_mem hk)) _) fun _ => ?_
  refine Raises.all_bind
    (createEvidence_issues _ _ _ (hA _ (by simp [executeKinds, publishKinds]))) fun _ => ?_
  refine Raises.all_bind (issues_commit hcommit) fun _ => ?_
  refine Raises.all_bind (check_issues (fun k hk => hA k (handler_mem hk)) _) fun _ => ?_
  refine Raises.all_bind (processPayload_issues _) fun snapshot => ?_
  refine Raises.all_bind (check_issues (fun k hk => hA k (handler_mem hk)) _) fun _ => ?_
  refine Raises.all_bind
    (addLiveSnapshot_issues _ _ _ (hA _ (by simp [executeKinds, publishKinds]))) fun _ => ?_
  refine Raises.all_bind (recordDeviceResult_issues _ _ _ _ _ hres) fun _ => ?_
  refine Raises.all_bind
    (transition_issues _ fun _ => hA _ (by simp [executeKinds, publishKinds])) fun completed => ?_
  refine Raises.all_bind
    (finalizeSingleDeviceRun_issues _ _ (hA _ (by simp [executeKinds, publishKinds]))) fun _ => ?_
  refine Raises.all_bind (issues_commit hcommit) fun _ => ?_
  refine Raises.all_bind (issues_setResult _ (fun _ => rfl) hres) fun _ => ?_
  exact Raises.all_bind issues_flush fun _ => Raises.all_pure _

theorem concludeChain_issues (w : Work) (result : DiscoveryDeviceResultRecord)
    (configs : List TransportAttemptConfig) (last : Collector)
    (mt : MultiTransportDiscoveryResult) :
    Issues A (concludeChain w result configs last mt) := by
  unfold concludeChain
  split
  · refine Raises.all_bind (issues_catching (publishDiscovered_issues hA ..)) fun r => ?_
    split
    · exact Raises.all_pure _
    · exact Raises.all_throw _
    · exact Raises.all_throw _
    · exact failChain_issues (fun k hk => hA k (handler_mem hk)) ..
  · exact failChain_issues (fun k hk => hA k (handler_mem hk)) ..

theorem executeMultiTransport_issues (rt : Runtime) (w : Work)
    (hcollect : A (.collect w.job.id)) : Issues A (executeMultiTransport rt w) := by
  have hatt : ∀ k ∈ attemptKinds, A k := fun k hk => hA k (handler_mem (attempt_mem hk))
  have hres : ∀ k ∈ resultKinds, A k := fun k hk => hA k (handler_mem (result_mem hk))
  have hcommit : A .commit := hA _ (by simp [executeKinds, publishKinds])
  refine Raises.all_bind (resolveTransportPolicy_issues _) fun policy => ?_
  refine Raises.all_bind (startDeviceResult_issues _ _ _ _ hres) fun result => ?_
  refine Raises.all_bind (recordUnsupportedCredentials_issues _ _ _ hatt) fun _ => ?_
  dsimp only
  split
  · exact Raises.all_bind (issues_commit hcommit) fun _ => Raises.all_throw _
  · refine Raises.all_bind (discoverWithFallback_issues _ _ hatt fun c hc => ?_) fun mt => ?_
    · obtain ⟨hcheck, hid⟩ := chainConfig_check hc
      exact ⟨by rw [hcheck]; exact check_issues (fun k hk => hA k (handler_mem hk)) _,
        by rw [hid]; exact hcollect⟩
    · refine Raises.all_bind (issues_commit hcommit) fun _ => ?_
      refine Raises.all_bind (issues_setResult _ (fun _ => rfl) hres) fun _ => ?_
      exact concludeChain_issues hA ..

/-! ## The single-transport path -/

theorem executeSingleTransport_issues (w : Work) (owner : UUID) (collector : Collector)
    (context : CollectorContext) (attempt : DiscoveryTransportAttemptRecord)
    (hcollect : A (.collect context.jobId)) :
    Issues A (executeSingleTransport w owner collector context attempt) := by
  have hatt : ∀ k ∈ attemptKinds, A k := fun k hk => hA k (handler_mem (attempt_mem hk))
  have hres : ∀ k ∈ resultKinds, A k := fun k hk => hA k (handler_mem (result_mem hk))
  have hcheck : Issues A (raiseIfCancelled w.watch) :=
    check_issues (fun k hk => hA k (handler_mem hk)) _
  have hcommit : A .commit := hA _ (by simp [executeKinds, publishKinds])
  refine Raises.all_bind hcheck fun _ => ?_
  refine Raises.all_bind (callCollector_issues hcheck hcollect _) fun _ => ?_
  refine Raises.all_bind hcheck fun _ => ?_
  refine Raises.all_bind (callCollector_issues hcheck hcollect _) fun payload => ?_
  refine Raises.all_bind (finish_issues _ _ _ _ hatt) fun _ => ?_
  refine Raises.all_bind
    (recordSelection_issues _ _ _ _ (hA _ (mem_workKinds (by simp [workKinds])))) fun _ => ?_
  refine Raises.all_bind hcheck fun _ => ?_
  refine Raises.all_bind
    (createEvidence_issues _ _ _ (hA _ (by simp [executeKinds, publishKinds]))) fun _ => ?_
  refine Raises.all_bind (issues_commit hcommit) fun _ => ?_
  refine Raises.all_bind hcheck fun _ => ?_
  refine Raises.all_bind (processPayload_issues _) fun snapshot => ?_
  refine Raises.all_bind hcheck fun _ => ?_
  refine Raises.all_bind
    (addLiveSnapshot_issues _ _ _ (hA _ (by simp [executeKinds, publishKinds]))) fun _ => ?_
  refine Raises.all_bind (recordDeviceResult_issues _ _ _ _ _ hres) fun _ => ?_
  refine Raises.all_bind hcheck fun _ => ?_
  refine Raises.all_bind
    (transition_issues _ fun _ => hA _ (by simp [executeKinds, publishKinds])) fun completed => ?_
  exact Raises.all_bind (issues_commit hcommit) fun _ => Raises.all_pure _

/-! ## execute -/

theorem begin_issues (rt : Runtime) (a : ExecuteArgs) (job : DiscoveryJobRecord)
    (hcollect : A (.collect job.id)) : Issues A (begin rt a job) := by
  refine Raises.all_bind (resolveTarget_issues _ _) fun target => ?_
  refine Raises.all_bind (check_issues (fun k hk => hA k (handler_mem hk)) _) fun _ => ?_
  refine Raises.all_bind (issues_raiseIf _ _) fun _ => ?_
  refine Raises.all_ite (fun _ => ?_) fun _ => ?_
  · exact Raises.all_bind (executeMultiTransport_issues hA _ _ hcollect) fun _ =>
      Raises.all_pure _
  · refine Raises.all_bind (issues_unwrap _) fun _ => ?_
    refine Raises.all_bind (startTransportAttempt_issues _ _ fun k hk => ?_) fun _ =>
      Raises.all_pure _
    exact hA k (mem_workKinds (by simp [workKinds, List.mem_append.1 hk]))

variable (hcollect : ∀ jobId, A (.collect jobId))

include hcollect

theorem executeJob_issues (rt : Runtime) (a : ExecuteArgs) (owner : UUID)
    (job : DiscoveryJobRecord) : Issues A (executeJob rt a owner job) := by
  refine Raises.all_bind (issues_catching (begin_issues hA _ _ _ (hcollect _))) fun r => ?_
  split
  · exact conclude_issues (fun k hk => hA k (handler_mem hk)) ..
  · exact Raises.all_pure _
  · exact Raises.all_tryCatch (executeSingleTransport_issues hA _ _ _ _ _ (hcollect _)) fun e =>
      conclude_issues (fun k hk => hA k (handler_mem hk)) ..

theorem execute_issues (rt : Runtime) (a : ExecuteArgs) (hclaim : A (.update .claim)) :
    Issues A (execute rt a) := by
  refine Raises.all_bind (issues_ownerOrNew _) fun owner => ?_
  refine Raises.all_bind (issues_catching
    (acquire_issues (fun k hk => hA k (handler_mem hk)) _ _ hclaim)) fun r => ?_
  split
  · exact notAcquired_issues _
  · exact Raises.all_throw _
  · exact executeJob_issues hA hcollect ..

end

end DiscoveryExecutionService

/-! ## The fan-out -/

namespace DiscoveryFanoutService

open DiscoveryExecutionService

/-- What a child coroutine writes. -/
def childKinds : List Kind := .update .claim :: executeKinds

theorem requestChildCancellation_issues (parent child : DiscoveryJobRecord) (requestedBy : UUID)
    (hA : A (.update .requestCancellation)) :
    Issues A (requestChildCancellation parent child requestedBy) := by
  refine Raises.all_tryCatch
    (Raises.all_bind (requestCancellation_issues _ _ _ _ hA) fun _ => Raises.all_pure _)
    fun e => ?_
  split
  · exact Raises.all_pure _
  · exact Raises.all_throw _

theorem loadedParent_issues (parentJobId : UUID) : Issues A (loadedParent parentJobId) := by
  refine Raises.all_bind (issues_sessionGet _ _) fun parent => ?_
  cases parent with
  | some parent => exact Raises.all_pure _
  | none => exact Raises.all_throw _

theorem refreshResult_issues (result : DiscoveryDeviceResultRecord) :
    Issues A (refreshResult result) := by
  refine Raises.all_bind (issues_select _ _) fun rows => ?_
  split
  · exact Raises.all_pure _
  · exact Raises.all_throw _

section

variable (hA : ∀ k ∈ childKinds, A k) (hcollect : ∀ jobId, A (.collect jobId))

include hA

theorem cancelChild_issues (parentJobId : UUID) (child : DiscoveryJobRecord)
    (result : DiscoveryDeviceResultRecord) : Issues A (cancelChild parentJobId child result) := by
  have hexec : ∀ k ∈ executeKinds, A k := fun k hk => hA k (List.mem_cons_of_mem _ hk)
  have hres : ∀ k ∈ resultKinds, A k := fun k hk => hexec k (handler_mem (result_mem hk))
  have hreq : A (.update .requestCancellation) := hexec _ (mem_workKinds (by simp [workKinds]))
  refine Raises.all_bind (loadedParent_issues _) fun parent => ?_
  have hstate : Issues A (cancelledState parent child) := by
    unfold cancelledState
    split
    · exact requestChildCancellation_issues _ _ _ hreq
    · exact Raises.all_pure _
  refine Raises.all_bind hstate fun state => ?_
  cases state with
  | none => exact Raises.all_pure _
  | some state =>
    refine Raises.all_bind issues_utcNow fun now => ?_
    refine Raises.all_bind (issues_setResult _ (fun _ => rfl) hres) fun _ => ?_
    exact issues_commit (hexec _ (by simp [executeKinds, publishKinds]))

include hcollect

theorem executeChild_issues (rt : Runtime) (a : ScopeArgs) (owner : UUID)
    (child : DiscoveryJobRecord) (result : DiscoveryDeviceResultRecord) :
    Issues A (executeChild rt a owner child result) := by
  have hexec : ∀ k ∈ executeKinds, A k := fun k hk => hA k (List.mem_cons_of_mem _ hk)
  have hres : ∀ k ∈ resultKinds, A k := fun k hk => hexec k (handler_mem (result_mem hk))
  have hcommit : A .commit := hexec _ (by simp [executeKinds, publishKinds])
  refine Raises.all_bind issues_utcNow fun now => ?_
  refine Raises.all_bind (issues_setResult _ (fun _ => rfl) hres) fun result => ?_
  refine Raises.all_bind (issues_commit hcommit) fun _ => ?_
  refine Raises.all_bind (execute_issues hexec hcollect _ _ (hA _ List.mem_cons_self))
    fun outcome => ?_
  refine Raises.all_bind (refreshResult_issues _) fun result => ?_
  refine Raises.all_bind issues_utcNow fun now => ?_
  refine Raises.all_bind (issues_setResult _ (fun _ => rfl) hres) fun _ => ?_
  exact issues_commit hcommit

theorem runChild_issues (rt : Runtime) (a : ScopeArgs) (owner : UUID) (child : DiscoveryJobRecord)
    (result : DiscoveryDeviceResultRecord) : Issues A (runChild rt a owner child result) := by
  refine Raises.all_bind (cancellationRequested_issues _ _) fun requested => ?_
  refine Raises.all_ite (fun _ => cancelChild_issues hA ..) fun _ => ?_
  refine Raises.all_bind (cancellationRequested_issues _ _) fun requested => ?_
  exact Raises.all_ite (fun _ => cancelChild_issues hA ..)
    fun _ => executeChild_issues hA hcollect ..

end

theorem loadScope_issues (a : ScopeArgs) : Issues A (loadScope a) := by
  refine Raises.all_bind (issues_sessionGet _ _) fun parent => ?_
  cases parent with
  | none => exact Raises.all_throw _
  | some parent =>
    refine Raises.all_ite (fun _ => Raises.all_throw _) fun _ => ?_
    refine Raises.all_bind (issues_sessionGet _ _) fun target => ?_
    cases target with
    | none => exact Raises.all_throw _
    | some target => exact Raises.all_pure _

theorem persistExpectedAddresses_issues (parent : DiscoveryJobRecord) (addresses : List String)
    (hA : A (.update .run)) : Issues A (persistExpectedAddresses parent addresses) := by
  refine Raises.all_bind (issues_sessionGet _ _) fun run => ?_
  cases run with
  | none => exact Raises.all_pure _
  | some run =>
    exact Raises.all_bind (issues_doIf fun _ => setRun_issues _ (fun _ => rfl) hA) fun _ =>
      issues_flush

theorem createChildren_issues (tenantId : String) (parent : DiscoveryJobRecord)
    (scope : DiscoveryTargetRecord) (addresses : List String) (hA : ∀ k ∈ createKinds, A k) :
    Issues A (createChildren tenantId parent scope addresses) := by
  induction addresses with
  | nil => exact Raises.all_pure _
  | cons address addresses ih =>
    exact Raises.all_bind (createChild_issues _ _ _ _ hA) fun _ => Raises.all_bind ih fun _ =>
      Raises.all_pure _

theorem executeScope_issues (a : ScopeArgs) (hA : ∀ k ∈ parentKinds, A k) :
    Issues A (executeScope a) := by
  have hcreate : ∀ k ∈ createKinds, A k :=
    fun k hk => hA k (by simp [parentKinds, reconcileKinds, hk])
  have hcommit : A .commit := hA _ (by simp [parentKinds])
  refine Raises.all_bind (loadScope_issues _) fun scope => ?_
  refine Raises.all_bind (cancellationRequested_issues _ _) fun requested => ?_
  refine Raises.all_ite (fun _ => reconcileParentJob_issues _ _ _ _ hA) fun _ => ?_
  refine Raises.all_bind (issues_unwrap _) fun addresses => ?_
  refine Raises.all_bind (persistExpectedAddresses_issues _ _
    (hA _ (by simp [parentKinds, reconcileKinds]))) fun _ => ?_
  refine Raises.all_bind (issues_commit hcommit) fun _ => ?_
  refine Raises.all_bind (createChildren_issues _ _ _ _ hcreate) fun children => ?_
  refine Raises.all_bind (issues_commit hcommit) fun _ => ?_
  refine Raises.all_bind (issues_ext _ (by simp)) fun joined => ?_
  refine Raises.all_bind (issues_unwrap _) fun _ => ?_
  refine Raises.all_bind (cancellationRequested_issues _ _) fun requested => ?_
  exact Raises.all_bind (reconcileParentJob_issues _ _ _ _ hA) fun _ => Raises.all_pure _

end DiscoveryFanoutService

/-! ## The worker -/

open DiscoveryExecutionService

theorem inSession_issues {m : M α} (h : Issues A m) : Issues A (inSession m) :=
  Raises.all_bind (issues_catching h) fun _ => Raises.all_bind issues_rollback fun _ =>
    issues_unwrap _

theorem anySucceeded_issues (results : List DiscoveryDeviceResultRecord) :
    Issues A (anySucceeded results) := by
  induction results with
  | nil => exact Raises.all_pure _
  | cons result results ih =>
    exact Raises.all_bind (issues_sessionGet _ _) fun _ =>
      Raises.all_ite (fun _ => Raises.all_pure _) fun _ => ih

theorem findTargetById_issues (tenantId : String) (targetId : UUID) :
    Issues A (findTargetById tenantId targetId) :=
  Raises.all_bind (issues_select _ _) fun _ => Raises.all_pure _

/-- What the execution of an owned job writes. -/
def ownedKinds : List Kind := .update .claim :: executeKinds ++ parentKinds

section

variable (hA : ∀ k ∈ ownedKinds, A k)

include hA

theorem finishScope_issues (a : OwnedJob) (results : List DiscoveryDeviceResultRecord) :
    Issues A (finishScope a results) := by
  have hexec : ∀ k ∈ executeKinds, A k := fun k hk => hA k (by simp [ownedKinds, hk])
  have hcommit : A .commit := hexec _ (by simp [executeKinds, publishKinds])
  refine Raises.all_bind (cancellationRequested_issues _ _) fun requested => ?_
  refine Raises.all_ite (fun _ => ?_) fun _ => ?_
  · exact Raises.all_bind
      (finaliseCancellation_issues _ _ _ (hexec _ (by simp [executeKinds, cancelKinds])))
      fun _ => issues_commit hcommit
  · refine Raises.all_bind (anySucceeded_issues _) fun succeeded => ?_
    refine Raises.all_bind (transition_issues _ fun _ => ?_) fun _ => issues_commit hcommit
    cases succeeded with
    | true => exact hexec _ (by simp [executeKinds, publishKinds])
    | false => exact hexec _ (by simp [executeKinds, failKinds])

theorem runScope_issues (a : OwnedJob) : Issues A (runScope a) := by
  have hexec : ∀ k ∈ executeKinds, A k := fun k hk => hA k (by simp [ownedKinds, hk])
  refine Raises.all_bind (issues_doIf fun _ => ?_) fun _ => ?_
  · exact Raises.all_bind (claim_issues _ _ _ _ (hA _ (by simp [ownedKinds]))) fun _ =>
      issues_commit (hexec _ (by simp [executeKinds, publishKinds]))
  · exact Raises.all_bind (executeScope_issues _ fun k hk => hA k (by simp [ownedKinds, hk]))
      fun results => finishScope_issues hA ..

theorem scopeConflict_issues (a : OwnedJob) (message : String) :
    Issues A (scopeConflict a message) := by
  have hexec : ∀ k ∈ executeKinds, A k := fun k hk => hA k (by simp [ownedKinds, hk])
  refine Raises.all_bind issues_rollback fun _ => Raises.all_bind (get_issues _ _) fun current => ?_
  refine Raises.all_ite (fun _ => Raises.all_pure _) fun _ => ?_
  refine Raises.all_bind (cancellationRequested_issues _ _) fun requested => ?_
  refine Raises.all_bind (issues_raiseIf _ _) fun _ => ?_
  refine Raises.all_bind
    (finaliseCancellation_issues _ _ _ (hexec _ (by simp [executeKinds, cancelKinds]))) fun _ => ?_
  exact Raises.all_bind (issues_commit (hexec _ (by simp [executeKinds, cancelKinds]))) fun _ =>
    get_issues _ _

variable (hcollect : ∀ jobId, A (.collect jobId))

include hcollect

theorem executeDiscoveryJob_issues (rt : Runtime) (a : OwnedJob) :
    Issues A (executeDiscoveryJob rt a) := by
  have hexec : ∀ k ∈ executeKinds, A k := fun k hk => hA k (by simp [ownedKinds, hk])
  refine inSession_issues (Raises.all_bind (get_issues _ _) fun job => ?_)
  cases job with
  | none => exact Raises.all_pure _
  | some job =>
    refine Raises.all_ite (fun _ => Raises.all_pure _) fun _ => ?_
    refine Raises.all_bind (findTargetById_issues _ _) fun target => ?_
    refine Raises.all_ite (fun _ => ?_) fun _ => ?_
    · refine Raises.all_bind (issues_catching (runScope_issues hA a)) fun r => ?_
      split
      · exact get_issues _ _
      · exact scopeConflict_issues hA ..
      · exact Raises.all_throw _
    · exact Raises.all_bind
        (execute_issues hexec hcollect _ _ (hA _ (by simp [ownedKinds]))) fun _ =>
        Raises.all_pure _

end

namespace DiscoveryJobWorker

theorem quietly_issues {m : M Unit} (h : Issues A m) : Issues A (quietly m) :=
  Raises.all_bind (issues_catching h) fun _ => issues_rollback

/-- What failing an owned job writes. -/
def failOwnedKinds : List Kind := .update (.transition .failed false) :: parentKinds

theorem failOwnedJob_issues (tenantId : String) (jobId owner : UUID) (e : Exn)
    (hA : ∀ k ∈ failOwnedKinds, A k) : Issues A (failOwnedJob tenantId jobId owner e) := by
  have hparent : ∀ k ∈ parentKinds, A k := fun k hk => hA k (List.mem_cons_of_mem _ hk)
  refine quietly_issues (Raises.all_bind (get_issues _ _) fun current => ?_)
  cases current with
  | none => exact Raises.all_pure _
  | some current =>
    refine Raises.all_ite (fun _ => Raises.all_pure _) fun _ => ?_
    refine Raises.all_bind (transition_issues _ fun _ => hA _ List.mem_cons_self) fun _ => ?_
    refine Raises.all_bind (findTargetById_issues _ _) fun target => ?_
    refine Raises.all_ite (fun _ => ?_) fun _ => ?_
    · exact issues_drop (reconcileParentJob_issues _ _ _ _ hparent)
    · exact issues_commit (hparent _ (by simp [parentKinds]))

theorem abandonIfOwned_issues (tenantId : String) (jobId owner : UUID)
    (hA : ∀ k ∈ treeKinds, A k) : Issues A (abandonIfOwned tenantId jobId owner) :=
  quietly_issues (Raises.all_bind (abandonOwnedJob_issues _ _ _ _ hA) fun _ =>
    issues_commit (hA _ (by simp [treeKinds, parentKinds])))

/-- Everything the worker writes. -/
def workerKinds : List Kind :=
  .update .renewLease :: ownedKinds ++ failOwnedKinds ++ treeKinds

theorem owned_mem {k : Kind} (h : k ∈ ownedKinds) : k ∈ workerKinds := by
  simp [workerKinds, h]

theorem tree_mem {k : Kind} (h : k ∈ treeKinds) : k ∈ workerKinds := by
  simp [workerKinds, h]

section

variable (hA : ∀ k ∈ workerKinds, A k) (hcollect : ∀ jobId, A (.collect jobId))

include hA

include hcollect in
theorem runOwnedJob_issues (rt : Runtime) (tenantId : String) (jobId owner : UUID)
    (leaseSeconds : DateTime) : Issues A (runOwnedJob rt tenantId jobId owner leaseSeconds) := by
  refine Raises.all_bind (issues_catching (executeDiscoveryJob_issues
    (fun k hk => hA k (owned_mem hk)) hcollect _ _)) fun r => ?_
  have hafter : Issues A (afterExecution tenantId jobId owner r) := by
    cases r with
    | ok job => exact Raises.all_pure _
    | error e =>
      exact Raises.all_bind (issues_ext _ (by simp)) fun lost => issues_doIf fun _ =>
        failOwnedJob_issues _ _ _ _ fun k hk => hA k (by simp [workerKinds, hk])
  refine Raises.all_bind hafter fun _ =>
    Raises.all_bind (issues_ext _ (by simp)) fun lost => ?_
  exact issues_doIf fun _ => abandonIfOwned_issues _ _ _ fun k hk => hA k (tree_mem hk)

theorem renewOnce_issues (tenantId : String) (jobId owner : UUID) (leaseSeconds : DateTime) :
    Issues A (renewOnce tenantId jobId owner leaseSeconds) := by
  refine inSession_issues ?_
  refine Raises.all_bind (renewLease_issues _ _ _ _ (hA _ (by simp [workerKinds]))) fun r => ?_
  exact Raises.all_bind (issues_commit (hA _ (tree_mem (by simp [treeKinds, parentKinds]))))
    fun _ => Raises.all_pure _

theorem heartbeat_issues (tenantId : String) (jobId owner : UUID) (leaseSeconds : DateTime)
    (beats : Nat) : Issues A (heartbeat tenantId jobId owner leaseSeconds beats) := by
  induction beats with
  | zero => exact Raises.all_pure _
  | succ beats ih =>
    refine Raises.all_bind (issues_catching (renewOnce_issues hA ..)) fun r => ?_
    split
    · exact ih
    · exact abandonIfOwned_issues _ _ _ fun k hk => hA k (tree_mem hk)

theorem recoverExpiredJobs_issues : Issues A recoverExpiredJobs := by
  refine Raises.all_bind (inSession_issues (Raises.all_bind issues_utcNow fun _ =>
    recoverExpiredOwnedJobs_issues _)) fun expired => ?_
  refine Raises.all_forM fun e _ => issues_doIf fun _ => quietly_issues ?_
  refine Raises.all_bind issues_utcNow fun now => ?_
  refine Raises.all_bind (recoverExpiredOwnedJob_issues _ _ _ fun k hk => hA k (tree_mem hk))
    fun _ => ?_
  exact issues_commit (hA _ (tree_mem (by simp [treeKinds, parentKinds])))

theorem claimOne_issues (tenantId : String) (jobId : UUID) (leaseSeconds : DateTime) :
    Issues A (claimOne tenantId jobId leaseSeconds) := by
  refine Raises.all_ite (fun _ => Raises.all_pure _) fun _ => ?_
  refine Raises.all_bind issues_uuid4 fun owner => ?_
  refine Raises.all_bind (issues_catching (Raises.all_bind
    (claim_issues _ _ _ _ (hA _ (owned_mem (by simp [ownedKinds])))) fun _ => ?_)) fun r => ?_
  · exact issues_commit (hA _ (tree_mem (by simp [treeKinds, parentKinds])))
  · exact Raises.all_bind issues_rollback fun _ => Raises.all_pure _

theorem claimQueuedJobs_issues (claimLimit : Nat) (leaseSeconds : DateTime) :
    Issues A (claimQueuedJobs claimLimit leaseSeconds) := by
  refine Raises.all_bind (inSession_issues (listQueuedRoots_issues _)) fun candidates => ?_
  induction candidates with
  | nil => exact Raises.all_pure _
  | cons c candidates ih =>
    exact Raises.all_bind (claimOne_issues hA ..) fun _ => Raises.all_bind ih fun _ =>
      Raises.all_pure _

end

end DiscoveryJobWorker
end Discovery
end NetOps
