import NetOps.Discovery.Trees

/-!
# Discovery.Statements

What the statements of the discovery code can do, said once for all of it.

* `JobStatement`: every `UPDATE` of the jobs table the code can issue, with what the code knows
  when it issues it.
* `Issued A`: every statement the code can issue, with effects of the kinds of `A` only.
* `Issues A m`: the program `m` issues only such statements. One lemma per function, and a list
  of the kinds of write of each.
-/

namespace NetOps
namespace Discovery

open Conc DiscoveryJobRepository DiscoveryFanoutService

/-- Every `UPDATE` of the jobs table. A transition starts in a state that is not terminal, and so
does a cancellation request; the updates by id of `queuedChild` and `reconciledChild` know
nothing of the state they overwrite. -/
inductive JobStatement : JobUpdate → Prop
  | claim (tenantId jobId owner leaseSeconds now) :
      JobStatement (claimUpdate tenantId jobId owner leaseSeconds now)
  | renewLease (tenantId jobId owner leaseSeconds now) :
      JobStatement (renewLeaseUpdate tenantId jobId owner leaseSeconds now)
  | transition (a : Transition) (state now) (h : state.isTerminal = false) :
      JobStatement (transitionUpdate a state now)
  | requestCancellation (job : DiscoveryJobRecord) (tenantId jobId requestedBy reason now)
      (h : job.state.isTerminal = false) :
      JobStatement (requestCancellationUpdate job tenantId jobId requestedBy reason now)
  | resolveStale (tenantId jobId message now) :
      JobStatement (resolveStaleUpdate tenantId jobId message now)
  | resolveStaleChildren (tenantId childIds message now) :
      JobStatement (resolveStaleChildrenUpdate tenantId childIds message now)
  | queuedChild (tenantId childId cancel job message now) :
      JobStatement (queuedChildUpdate tenantId childId (treeOutcome cancel job message) now)
  | reconciledChild (tenantId childId interrupted now) :
      JobStatement (reconciledChildUpdate tenantId childId (outcome interrupted) now)
  | recordSelection (tenantId jobId selectedTransport selectedPlatform) :
      JobStatement (recordSelectionUpdate tenantId jobId selectedTransport selectedPlatform)

/-- No `UPDATE` changes what a job is: its id, its tenant, and the records it belongs to. -/
theorem JobStatement.identity {u : JobUpdate} (hu : JobStatement u) (r : DiscoveryJobRecord) :
    (u.values r).id = r.id ∧ (u.values r).tenantId = r.tenantId ∧
      (u.values r).targetId = r.targetId ∧ (u.values r).runId = r.runId ∧
      (u.values r).parentJobId = r.parentJobId := by
  cases hu with
  | transition a state now h =>
    simp only [transitionUpdate]
    split <;> exact ⟨rfl, rfl, rfl, rfl, rfl⟩
  | requestCancellation job =>
    simp only [requestCancellationUpdate]
    split <;> exact ⟨rfl, rfl, rfl, rfl, rfl⟩
  | _ => exact ⟨rfl, rfl, rfl, rfl, rfl⟩

/-- The job `UPDATE` a statement is, if it is one. -/
def jobUpdate? : Statement → Option JobUpdate
  | .update site .jobs p f => some ⟨site, p, f⟩
  | _ => none

@[simp] theorem jobUpdate?_statement (u : JobUpdate) : jobUpdate? u.statement = some u := rfl

/-- A kind of effect: a write at an update site, a new or a changed row of a table, the commit of
what was written, or the call of a collector for a job. -/
inductive Kind where
  | update (site : Site)
  | insert (t : Table)
  | change (t : Table)
  | commit
  | collect (jobId : UUID)
  deriving DecidableEq

inductive Issued (A : Kind → Prop) : Statement → Prop
  | select (t : Table) (p : Row t → Bool) : Issued A (.select t p)
  | get (t : Table) (id : UUID) : Issued A (.get t id)
  | commit (hA : A .commit) : Issued A .commit
  | rollback : Issued A .rollback
  | ext (x : Ext) (hx : ∀ jobId, x ≠ .callCollector jobId) : Issued A (.ext x)
  | collect (jobId : UUID) (hA : A (.collect jobId)) : Issued A (.ext (.callCollector jobId))
  | job {u : JobUpdate} (hu : JobStatement u) (hA : A (.update u.site)) :
      Issued A u.statement
  | newJob (a : JobRequest) (id : UUID) (now : DateTime) (hA : A (.insert .jobs)) :
      Issued A (.insert .jobs (a.record id now))
  | update {t : Table} (ht : t ≠ .jobs) (site : Site) (p : Row t → Bool) (f : Row t → Row t)
      (hkey : ∀ r, primaryKey t (f r) = primaryKey t r) (hA : A (.update site)) :
      Issued A (.update site t p f)
  | insert {t : Table} (ht : t ≠ .jobs) (r : Row t) (hA : A (.insert t)) : Issued A (.insert t r)
  | change {t : Table} (ht : t ≠ .jobs) (id : UUID) (f : Row t → Row t)
      (hkey : ∀ r, primaryKey t (f r) = primaryKey t r) (hA : A (.change t)) :
      Issued A (.change t id f)
  | flush : Issued A .flush

theorem Issued.ne_commit {A : Kind → Prop} (hA : ¬ A .commit) {c : Statement}
    (hc : Issued A c) : c ≠ .commit := by
  intro he
  subst he
  cases hc with
  | commit h => exact hA h

variable {A : Kind → Prop} {α β : Type}

/-- Updates are of jobs, and at one site of runs. -/
def Placed : Statement → Prop
  | .update site t _ _ => t = .jobs ∨ t = .runs ∧ site = .run
  | _ => True

/-- A statement of `Issued A` that updates jobs and runs only, each at its sites. -/
abbrev Stated (A : Kind → Prop) (c : Statement) : Prop := Issued A c ∧ Placed c

/-- The program issues only statements of `Stated A`. -/
abbrev Issues (A : Kind → Prop) (m : M α) : Prop := Raises.All (Stated A) m

theorem Issues.issued {m : M α} (h : Issues A m) : Raises.All (Issued A) m :=
  Prog.All.mono (fun _ hc => hc.1) h

theorem Issued.mono {A' : Kind → Prop} (h : ∀ k, A k → A' k) {c : Statement} (hc : Issued A c) :
    Issued A' c := by
  cases hc with
  | select t p => exact .select t p
  | get t id => exact .get t id
  | commit hA => exact .commit (h _ hA)
  | rollback => exact .rollback
  | ext x hx => exact .ext x hx
  | collect jobId hA => exact .collect jobId (h _ hA)
  | job hu hA => exact .job hu (h _ hA)
  | newJob a id now hA => exact .newJob a id now (h _ hA)
  | update ht site p f hkey hA => exact .update ht site p f hkey (h _ hA)
  | insert ht r hA => exact .insert ht r (h _ hA)
  | change ht id f hkey hA => exact .change ht id f hkey (h _ hA)
  | flush => exact .flush

/-! ## Single statements -/

theorem issues_ask {c : Statement} (h : Issued A c) (hplaced : Placed c) :
    Issues A (ask c) :=
  Prog.All.bind ⟨⟨h, hplaced⟩, fun _ => trivial⟩ fun _ => trivial

theorem issues_select (t : Table) (p : Row t → Bool) : Issues A (select t p) :=
  issues_ask (.select t p) trivial

theorem issues_sessionGet (t : Table) (id : UUID) : Issues A (sessionGet t id) :=
  issues_ask (.get t id) trivial

theorem issues_commit (hA : A .commit) : Issues A commit := issues_ask (.commit hA) trivial

theorem issues_rollback : Issues A rollback := issues_ask .rollback trivial

theorem issues_flush : Issues A flush := issues_ask .flush trivial

theorem issues_change {t : Table} (ht : t ≠ .jobs) (id : UUID) {f : Row t → Row t}
    (hkey : ∀ r, primaryKey t (f r) = primaryKey t r) (hA : A (.change t)) :
    Issues A (change t id f) := issues_ask (.change ht id f hkey hA) trivial

theorem issues_insert {t : Table} (ht : t ≠ .jobs) (r : Row t) (hA : A (.insert t)) :
    Issues A (insert t r) := issues_ask (.insert ht r hA) trivial

theorem issues_utcNow : Issues A utcNow := issues_ask (.ext _ (by simp)) trivial

theorem issues_uuid4 : Issues A uuid4 := issues_ask (.ext _ (by simp)) trivial

theorem issues_execute {u : JobUpdate} (hu : JobStatement u) (hA : A (.update u.site)) :
    Issues A u.execute := issues_ask (.job hu hA) (.inl rfl)

theorem issues_unwrap (r : Except Exn α) : Issues A (unwrap r) := by
  cases r with
  | ok a => exact Raises.all_pure a
  | error e => exact Raises.all_throw e

theorem issues_ownerOrNew (owner : Option UUID) : Issues A (ownerOrNew owner) := by
  cases owner with
  | some owner => exact Raises.all_pure _
  | none => exact issues_uuid4

theorem issues_raiseIf (c : Prop) [Decidable c] (e : Exn) : Issues A (raiseIf c e) :=
  Raises.all_ite (fun _ => Raises.all_throw e) (fun _ => Raises.all_pure ())

theorem issues_doIf {c : Prop} [Decidable c] {m : M Unit} (h : c → Issues A m) :
    Issues A (doIf c m) :=
  Raises.all_ite h fun _ => Raises.all_pure ()

/-- A statement whose answer is dropped. -/
theorem issues_drop {m : M α} (h : Issues A m) : Issues A (do let _ ← m; pure ()) :=
  Raises.all_bind h fun _ => Raises.all_pure ()

/-! ## Operations on one job -/

namespace DiscoveryJobRepository

theorem get_issues (tenantId : String) (jobId : UUID) : Issues A (get tenantId jobId) :=
  Raises.all_bind (issues_select _ _) fun _ => Raises.all_pure _

theorem getExisting_issues (tenantId : String) (jobId : UUID) :
    Issues A (getExisting tenantId jobId) := by
  refine Raises.all_bind (get_issues _ _) fun job => ?_
  cases job with
  | some job => exact Raises.all_pure _
  | none => exact Raises.all_throw _

theorem listQueuedRoots_issues (limit : Nat) : Issues A (listQueuedRoots limit) :=
  Raises.all_bind (issues_select _ _) fun _ => Raises.all_pure _

theorem ownedRunningJob_issues (tenantId : String) (jobId owner : UUID) :
    Issues A (ownedRunningJob tenantId jobId owner) :=
  Raises.all_bind (issues_select _ _) fun _ => Raises.all_pure _

theorem cancellationRequested_issues (tenantId : String) (jobId : UUID) :
    Issues A (cancellationRequested tenantId jobId) :=
  Raises.all_bind (issues_select _ _) fun _ =>
    Raises.all_ite (fun _ => Raises.all_pure _) fun _ =>
      Raises.all_bind (issues_select _ _) fun _ => Raises.all_pure _

theorem recoverExpiredOwnedJobs_issues (staleBefore : DateTime) :
    Issues A (recoverExpiredOwnedJobs staleBefore) :=
  Raises.all_bind (issues_select _ _) fun _ => Raises.all_pure _

theorem create_issues (a : JobRequest) (hA : A (.insert .jobs)) : Issues A (create a) := by
  refine Raises.all_bind (issues_sessionGet _ _) fun target => ?_
  refine Raises.all_bind (issues_sessionGet _ _) fun run => ?_
  refine Raises.all_bind (issues_raiseIf _ _) fun _ => ?_
  refine Raises.all_bind (issues_raiseIf _ _) fun _ => ?_
  refine Raises.all_bind (issues_select _ _) fun active => ?_
  refine Raises.all_bind (issues_raiseIf _ _) fun _ => ?_
  refine Raises.all_bind issues_uuid4 fun id => Raises.all_bind issues_utcNow fun now => ?_
  have hnew := issues_ask (A := A) (.newJob a id now hA) trivial
  refine Raises.all_bind (Raises.all_tryCatch hnew fun e => ?_)
    fun _ => Raises.all_pure _
  split
  · exact Raises.all_bind issues_rollback fun _ => Raises.all_throw _
  · exact Raises.all_throw _

theorem claim_issues (tenantId : String) (jobId : UUID) (owner : Option UUID)
    (leaseSeconds : DateTime) (hA : A (.update .claim)) :
    Issues A (claim tenantId jobId owner leaseSeconds) := by
  refine Raises.all_bind (issues_raiseIf _ _) fun _ => ?_
  refine Raises.all_bind (issues_raiseIf _ _) fun _ => ?_
  refine Raises.all_bind (issues_ownerOrNew _) fun owner => ?_
  refine Raises.all_bind (get_issues _ _) fun job => ?_
  cases job with
  | none => exact Raises.all_throw _
  | some job =>
    refine Raises.all_bind issues_utcNow fun now => ?_
    refine Raises.all_bind (issues_execute (.claim ..) hA) fun ids => ?_
    exact Raises.all_ite
      (fun _ => Raises.all_bind issues_rollback fun _ => Raises.all_throw _)
      (fun _ => Raises.all_bind issues_flush fun _ => getExisting_issues _ _)

theorem renewLease_issues (tenantId : String) (jobId owner : UUID) (leaseSeconds : DateTime)
    (hA : A (.update .renewLease)) : Issues A (renewLease tenantId jobId owner leaseSeconds) := by
  refine Raises.all_bind issues_utcNow fun now => ?_
  refine Raises.all_bind (issues_execute (.renewLease ..) hA) fun ids => ?_
  exact Raises.all_ite (fun _ => Raises.all_bind issues_rollback fun _ => Raises.all_pure _)
    (fun _ => Raises.all_bind issues_flush fun _ => Raises.all_pure _)

theorem transition_issues (a : Transition) (hA : a.targetState ≠ .queued →
      A (.update (.transition a.targetState a.requireNoCancellation))) :
    Issues A (transition a) := by
  refine Raises.all_bind (get_issues _ _) fun job => ?_
  cases job with
  | none => exact Raises.all_throw _
  | some job =>
    dsimp only
    split
    · exact Raises.all_throw _
    · rename_i h
      refine Raises.all_bind issues_utcNow fun now => ?_
      refine Raises.all_bind
        (issues_execute (.transition a job.state now (transitionJob_ok h).2)
          (hA (transitionJob_target h))) fun ids => ?_
      exact Raises.all_ite
        (fun _ => Raises.all_bind issues_rollback fun _ => Raises.all_throw _)
        (fun _ => Raises.all_bind issues_flush fun _ => getExisting_issues _ _)

theorem finaliseCancellation_issues (tenantId : String) (jobId : UUID) (owner : Option UUID)
    (hA : A (.update (.transition .cancelled false))) :
    Issues A (finaliseCancellation tenantId jobId owner) := by
  refine Raises.all_bind (get_issues _ _) fun job => ?_
  cases job with
  | none => exact Raises.all_throw _
  | some job =>
    exact Raises.all_ite (fun _ => Raises.all_pure _) fun _ =>
      Raises.all_ite (fun _ => Raises.all_throw _) fun _ => transition_issues _ fun _ => hA

theorem recordSelection_issues (tenantId : String) (jobId : UUID)
    (selectedTransport selectedPlatform : Option String) (hA : A (.update .recordSelection)) :
    Issues A (recordSelection tenantId jobId selectedTransport selectedPlatform) := by
  refine Raises.all_bind (get_issues _ _) fun job => ?_
  cases job with
  | none => exact Raises.all_throw _
  | some job =>
    refine Raises.all_bind (issues_raiseIf _ _) fun _ => ?_
    exact Raises.all_bind (issues_execute (.recordSelection ..) hA) fun _ =>
      Raises.all_bind issues_flush fun _ => getExisting_issues _ _

theorem markFailedAfterRollback_issues (tenantId : String) (jobId : UUID)
    (failureCode : DiscoveryFailureCode) (failureMessage : String) (owner : Option UUID)
    (hA : A (.update (.transition .failed true))) :
    Issues A (markFailedAfterRollback tenantId jobId failureCode failureMessage owner) :=
  Raises.all_bind issues_rollback fun _ => transition_issues _ fun _ => hA

end DiscoveryJobRepository

/-! ## Reconciliation -/

theorem setResult_issues (result : DiscoveryDeviceResultRecord)
    {values : DiscoveryDeviceResultRecord → DiscoveryDeviceResultRecord}
    (hkey : ∀ r, (values r).id = r.id) (hA : A (.change .results)) :
    Issues A (setResult result values) :=
  Raises.all_bind (issues_change (by decide) _ hkey hA) fun _ => Raises.all_pure _

theorem setRun_issues (runId : UUID) {values : DiscoveryRunRecord → DiscoveryRunRecord}
    (hkey : ∀ r, (values r).id = r.id) (hA : A (.update .run)) : Issues A (setRun runId values) :=
  issues_drop (issues_ask (.update (by decide) _ _ _ hkey hA) (.inr ⟨rfl, rfl⟩))

namespace DiscoveryFanoutService

theorem findTarget_issues (tenantId identifier : String) :
    Issues A (findTarget tenantId identifier) :=
  Raises.all_bind (issues_select _ _) fun _ => Raises.all_pure _

/-- What creating a child writes. -/
def createKinds : List Kind :=
  [.change .targets, .insert .targets, .insert .runs, .insert .jobs, .insert .results]

theorem childTarget_issues (tenantId : String) (scope : DiscoveryTargetRecord) (address : String)
    (hA : ∀ k ∈ createKinds, A k) : Issues A (childTarget tenantId scope address) := by
  refine Raises.all_bind (findTarget_issues _ _) fun found => ?_
  cases found with
  | some target =>
    exact Raises.all_bind
      (issues_change (by decide) _ (fun _ => rfl) (hA _ (by simp [createKinds]))) fun _ =>
      Raises.all_pure _
  | none =>
    refine Raises.all_bind issues_uuid4 fun id => Raises.all_bind issues_flush fun _ => ?_
    refine Raises.all_tryCatch ?_ fun e => ?_
    · exact Raises.all_bind (issues_insert (by decide) _ (hA _ (by simp [createKinds])))
        fun _ => Raises.all_pure _
    · split
      · refine Raises.all_bind (findTarget_issues _ _) fun found => ?_
        cases found with
        | some target => exact Raises.all_pure _
        | none => exact Raises.all_throw _
      · exact Raises.all_throw _

theorem createChild_issues (tenantId : String) (parent : DiscoveryJobRecord)
    (scope : DiscoveryTargetRecord) (address : String) (hA : ∀ k ∈ createKinds, A k) :
    Issues A (createChild tenantId parent scope address) := by
  refine Raises.all_bind (childTarget_issues _ _ _ hA) fun target => ?_
  refine Raises.all_bind issues_uuid4 fun runId => ?_
  refine Raises.all_bind (issues_insert (by decide) _ (hA _ (by simp [createKinds])))
    fun _ => ?_
  refine Raises.all_bind issues_flush fun _ => ?_
  refine Raises.all_bind issues_uuid4 fun correlation => ?_
  refine Raises.all_bind (create_issues _ (hA _ (by simp [createKinds]))) fun child => ?_
  refine Raises.all_bind issues_uuid4 fun resultId => ?_
  exact Raises.all_bind (issues_insert (by decide) _ (hA _ (by simp [createKinds])))
    fun _ => Raises.all_pure _

/-- What reconciling a scope writes before it commits. -/
def reconcileKinds : List Kind :=
  createKinds ++ [.update .run, .change .results, .update .reconciledChild]

theorem finalizeParentRun_issues (parent : DiscoveryJobRecord) (expectedCount : Nat)
    (results : List DiscoveryDeviceResultRecord) (hA : A (.update .run)) :
    Issues A (finalizeParentRun parent expectedCount results) := by
  refine Raises.all_bind (issues_sessionGet _ _) fun run => ?_
  cases run with
  | none => exact Raises.all_pure _
  | some run => exact Raises.all_bind issues_utcNow fun now => setRun_issues _ (fun _ => rfl) hA

theorem expectedAddresses_issues (parent : DiscoveryJobRecord)
    (target : Option DiscoveryTargetRecord) (maxTargets : Nat) (hA : A (.update .run)) :
    Issues A (expectedAddresses parent target maxTargets) := by
  refine Raises.all_bind (issues_sessionGet _ _) fun run => ?_
  cases target with
  | none => exact Raises.all_pure _
  | some target =>
    refine Raises.all_ite (fun _ => Raises.all_pure _) fun _ => ?_
    refine Raises.all_bind (issues_unwrap _) fun addresses => ?_
    cases run with
    | none => exact Raises.all_pure _
    | some run =>
      exact Raises.all_bind (setRun_issues _ (fun _ => rfl) hA) fun _ => Raises.all_pure _

theorem endChild_issues (tenantId : String) (interrupted : Bool)
    (result : DiscoveryDeviceResultRecord) (hA : A (.update .reconciledChild)) :
    Issues A (endChild tenantId (outcome interrupted) result) := by
  refine Raises.all_bind (issues_sessionGet _ _) fun child => ?_
  cases child with
  | none => exact Raises.all_pure _
  | some child =>
    exact issues_doIf fun _ => Raises.all_bind issues_utcNow fun now =>
      issues_drop (issues_execute (.reconciledChild ..) hA)

theorem resultOf_issues (tenantId : String) (parent : DiscoveryJobRecord)
    (target : DiscoveryTargetRecord) (rs : Results) (address : String)
    (hA : ∀ k ∈ createKinds, A k) : Issues A (resultOf tenantId parent target rs address) := by
  unfold resultOf
  split
  · exact Raises.all_pure _
  · exact Raises.all_bind (createChild_issues _ _ _ _ hA) fun _ => Raises.all_pure _

theorem reconcileAddress_issues (tenantId : String) (parent : DiscoveryJobRecord)
    (target : DiscoveryTargetRecord) (interrupted : Bool) (rs : Results) (address : String)
    (hA : ∀ k ∈ reconcileKinds, A k) :
    Issues A (reconcileAddress tenantId parent target (outcome interrupted) rs address) := by
  refine Raises.all_bind
    (resultOf_issues _ _ _ _ _ fun k hk => hA k (by simp [reconcileKinds, hk])) fun found => ?_
  refine Raises.all_bind (endChild_issues _ _ _ (hA _ (by simp [reconcileKinds]))) fun _ => ?_
  refine Raises.all_ite (fun _ => ?_) fun _ => Raises.all_pure _
  exact Raises.all_bind issues_utcNow fun now =>
    Raises.all_bind (setResult_issues _ (fun _ => rfl) (hA _ (by simp [reconcileKinds]))) fun _ =>
      Raises.all_pure _

theorem reconcileChildren_issues (tenantId : String) (parentJobId : UUID) (interrupted : Bool)
    (maxTargets : Nat) (hA : ∀ k ∈ reconcileKinds, A k) :
    Issues A (reconcileChildren tenantId parentJobId interrupted maxTargets) := by
  have hrun : A (.update .run) := hA _ (by simp [reconcileKinds])
  refine Raises.all_bind (issues_sessionGet _ _) fun parent => ?_
  cases parent with
  | none => exact Raises.all_pure _
  | some parent =>
    refine Raises.all_ite (fun _ => Raises.all_pure _) fun _ => ?_
    refine Raises.all_bind (issues_sessionGet _ _) fun target => ?_
    refine Raises.all_bind (expectedAddresses_issues _ _ _ hrun) fun expected => ?_
    cases target with
    | none => exact Raises.all_pure _
    | some target =>
      refine Raises.all_ite (fun _ => Raises.all_pure _) fun _ => ?_
      refine Raises.all_bind (issues_select _ _) fun found => ?_
      refine Raises.all_bind
        (Raises.all_foldlM (fun rs address _ => reconcileAddress_issues _ _ _ _ rs address hA) _)
        fun rs => ?_
      refine Raises.all_bind issues_flush fun _ => ?_
      exact Raises.all_bind (finalizeParentRun_issues _ _ _ hrun) fun _ => Raises.all_pure _

/-- What `reconcile_parent_job` writes. -/
def parentKinds : List Kind := .commit :: reconcileKinds

theorem reconcileParentJob_issues (tenantId : String) (parentJobId : UUID) (interrupted : Bool)
    (maxTargets : Nat) (hA : ∀ k ∈ parentKinds, A k) :
    Issues A (reconcileParentJob tenantId parentJobId interrupted maxTargets) := by
  refine Raises.all_bind (reconcileChildren_issues _ _ _ _ fun k hk =>
    hA k (List.mem_cons_of_mem _ hk)) fun results => ?_
  cases results with
  | none => exact Raises.all_pure _
  | some results =>
    exact Raises.all_bind (issues_commit (hA _ List.mem_cons_self)) fun _ => Raises.all_pure _

end DiscoveryFanoutService

/-! ## Operations on trees -/

namespace DiscoveryJobRepository

theorem reconcileScope_issues (c : Prop) [Decidable c] (tenantId : String) (jobId targetId : UUID)
    (interrupted : Bool) (hA : ∀ k ∈ parentKinds, A k) :
    Issues A (reconcileScope c tenantId jobId targetId interrupted) := by
  refine Raises.all_bind (issues_sessionGet _ _) fun target => ?_
  cases target with
  | none => exact Raises.all_pure _
  | some target =>
    exact issues_doIf fun _ => issues_drop (reconcileParentJob_issues _ _ _ _ hA)

theorem reconcileScope_skips_issues (c : Prop) [Decidable c] (tenantId : String)
    (jobId targetId : UUID) (interrupted : Bool) (hc : ¬ c) :
    Issues A (reconcileScope c tenantId jobId targetId interrupted) := by
  refine Raises.all_bind (issues_sessionGet _ _) fun target => ?_
  cases target with
  | none => exact Raises.all_pure _
  | some target => exact issues_doIf fun h => absurd h.2 hc

/-- A cancellation request that took a job out of `queued` does not reconcile its scope: the
loaded job is `cancelled` by then. -/
theorem requestCancellation_values (job : DiscoveryJobRecord) (tenantId : String)
    (jobId requestedBy : UUID) (reason : String) (now : DateTime) :
    ((requestCancellationUpdate job tenantId jobId requestedBy reason now).values job).state ≠
      .queued := by
  simp only [requestCancellationUpdate]
  split
  · simp [DiscoveryJobRecord.release]
  · assumption

theorem requestCancellation_issues (tenantId : String) (jobId requestedBy : UUID)
    (reason : String) (hA : A (.update .requestCancellation)) :
    Issues A (requestCancellation tenantId jobId requestedBy reason) := by
  refine Raises.all_bind (get_issues _ _) fun job => ?_
  cases job with
  | none => exact Raises.all_throw _
  | some job =>
    refine Raises.all_ite (fun _ => ?_) fun hstate => ?_
    · exact Raises.all_ite (fun _ => Raises.all_pure _) fun _ => Raises.all_throw _
    refine Raises.all_ite (fun _ => Raises.all_pure _) fun _ => ?_
    refine Raises.all_bind issues_utcNow fun now => ?_
    refine Raises.all_bind (issues_execute
      (.requestCancellation job _ _ _ _ _ (by simpa using hstate)) hA) fun ids => ?_
    refine Raises.all_ite (fun _ => ?_) fun _ => ?_
    · refine Raises.all_bind issues_rollback fun _ => ?_
      refine Raises.all_bind (get_issues _ _) fun current => ?_
      cases current with
      | none => exact Raises.all_throw _
      | some current =>
        exact Raises.all_ite (fun _ => Raises.all_pure _) fun _ => Raises.all_throw _
    · refine Raises.all_bind issues_flush fun _ => ?_
      refine Raises.all_bind (reconcileScope_skips_issues _ _ _ _ _
        (requestCancellation_values _ _ _ _ _ _)) fun _ => ?_
      exact Raises.all_bind (getExisting_issues _ _) fun _ => Raises.all_pure _

theorem staleConflict_issues (current : Option DiscoveryJobRecord) (now : DateTime) :
    Issues A (staleConflict current now) := by
  cases current with
  | none => exact Raises.all_throw _
  | some current =>
    exact Raises.all_ite (fun _ => Raises.all_pure _) fun _ =>
      Raises.all_ite (fun _ => Raises.all_throw _) fun _ => Raises.all_throw _

theorem cancelRunningChildren_issues (tenantId : String) (jobId : UUID) (message : String)
    (now : DateTime) (hA : A (.update .resolveStaleChildren)) :
    Issues A (cancelRunningChildren tenantId jobId message now) :=
  Raises.all_bind (issues_select _ _) fun _ => issues_doIf fun _ =>
    issues_drop (issues_execute (.resolveStaleChildren ..) hA)

/-- What resolving a stale cancellation writes. -/
def resolveKinds : List Kind :=
  .update .resolveStaleCancellation :: .update .resolveStaleChildren :: parentKinds

theorem resolveStaleCancellation_issues (tenantId : String) (jobId : UUID)
    (hA : ∀ k ∈ resolveKinds, A k) : Issues A (resolveStaleCancellation tenantId jobId) := by
  refine Raises.all_bind (get_issues _ _) fun job => ?_
  cases job with
  | none => exact Raises.all_throw _
  | some job =>
    refine Raises.all_ite (fun _ => Raises.all_pure _) fun _ => ?_
    refine Raises.all_bind (issues_raiseIf _ _) fun _ => ?_
    refine Raises.all_bind (issues_raiseIf _ _) fun _ => ?_
    refine Raises.all_bind (issues_raiseIf _ _) fun _ => ?_
    refine Raises.all_bind issues_utcNow fun now => ?_
    refine Raises.all_bind (issues_raiseIf _ _) fun _ => ?_
    refine Raises.all_bind (issues_execute (.resolveStale ..)
      (hA _ (by simp [resolveKinds, resolveStaleUpdate]))) fun ids => ?_
    refine Raises.all_ite (fun _ => ?_) fun _ => ?_
    · refine Raises.all_bind issues_rollback fun _ => ?_
      exact Raises.all_bind (get_issues _ _) fun current => staleConflict_issues _ _
    · refine Raises.all_bind (cancelRunningChildren_issues _ _ _ _
        (hA _ (by simp [resolveKinds]))) fun _ => ?_
      refine Raises.all_bind issues_flush fun _ => ?_
      exact Raises.all_bind (reconcileScope_issues _ _ _ _ _ fun k hk =>
        hA k (by simp [resolveKinds, hk])) fun _ => getExisting_issues _ _

/-- What ending the jobs of a leased tree writes. -/
def endKinds : List Kind :=
  [.update .queuedChild, .update (.transition .cancelled false),
    .update (.transition .failed false)]

/-- What ending a leased tree and reconciling its scope writes. -/
def treeKinds : List Kind := endKinds ++ parentKinds

theorem treeTransition_issues (tenantId : String) (jobId owner : UUID) (cancel : Bool)
    (job : DiscoveryJobRecord) (message : String) (hA : ∀ k ∈ endKinds, A k) :
    Issues A (treeTransition tenantId jobId owner (treeOutcome cancel job message)) := by
  refine transition_issues _ fun _ => ?_
  cases cancel with
  | true => exact hA _ (by simp [endKinds, treeOutcome])
  | false => exact hA _ (by simp [endKinds, treeOutcome])

theorem endTreeChild_issues (tenantId : String) (owner : UUID) (cancel : Bool)
    (job : DiscoveryJobRecord) (message : String) (child : DiscoveryJobRecord)
    (hA : ∀ k ∈ endKinds, A k) :
    Issues A (endTreeChild tenantId owner (treeOutcome cancel job message) child) := by
  refine Raises.all_ite (fun _ => ?_) fun _ => ?_
  · exact Raises.all_bind issues_utcNow fun now => issues_drop
      (issues_execute (.queuedChild ..) (hA _ (by simp [endKinds, queuedChildUpdate])))
  · exact issues_doIf fun _ => issues_drop (treeTransition_issues _ _ _ _ _ _ hA)

theorem reconcileOwnedTree_issues (tenantId : String) (jobId owner : UUID) (message : String)
    (hA : ∀ k ∈ treeKinds, A k) : Issues A (reconcileOwnedTree tenantId jobId owner message) := by
  have hend : ∀ k ∈ endKinds, A k := fun k hk => hA k (by simp [treeKinds, hk])
  refine Raises.all_bind (get_issues _ _) fun job => ?_
  cases job with
  | none => exact Raises.all_pure _
  | some job =>
    refine Raises.all_bind (cancellationRequested_issues _ _) fun cancel => ?_
    refine Raises.all_bind (issues_select _ _) fun children => ?_
    refine Raises.all_bind
      (Raises.all_forM fun child _ => endTreeChild_issues _ _ _ _ _ child hend) fun _ => ?_
    refine Raises.all_bind (treeTransition_issues _ _ _ _ _ _ hend) fun terminal => ?_
    exact Raises.all_bind (reconcileScope_issues _ _ _ _ _ fun k hk =>
      hA k (by simp [treeKinds, hk])) fun _ => Raises.all_pure _

theorem recoverExpiredOwnedJob_issues (tenantId : String) (jobId : UUID) (staleBefore : DateTime)
    (hA : ∀ k ∈ treeKinds, A k) :
    Issues A (recoverExpiredOwnedJob tenantId jobId staleBefore) := by
  refine Raises.all_ite (fun _ => Raises.all_pure _) fun _ => ?_
  refine Raises.all_bind (get_issues _ _) fun job => ?_
  split
  · exact Raises.all_pure _
  · exact reconcileOwnedTree_issues _ _ _ _ hA

theorem abandonOwnedJob_issues (tenantId : String) (jobId owner : UUID) (message : String)
    (hA : ∀ k ∈ treeKinds, A k) : Issues A (abandonOwnedJob tenantId jobId owner message) := by
  refine Raises.all_ite (fun _ => Raises.all_pure _) fun _ => ?_
  refine Raises.all_bind (ownedRunningJob_issues _ _ _) fun job => ?_
  cases job with
  | none => exact Raises.all_pure _
  | some job => exact reconcileOwnedTree_issues _ _ _ _ hA

end DiscoveryJobRepository

end Discovery
end NetOps
