import NetOps.Discovery.ExecutionStatements
import NetOps.Discovery.Samples

/-!
# Discovery.Cancellation

No operator cancellation is lost, as long as the updates that do not look for one meet none.

A worker leaves `running` through many exits. Success and `mark_failed_after_rollback` ask for a
missing request in their `WHERE`, and `finalise_cancellation` and `resolve_stale_cancellation` end
in `cancelled`. Three exits fail a job without asking: the transition of `_fail_owned_job` and of
`_reconcile_owned_tree`, and the updates of a child by id. A request that is committed before one
of them runs is overwritten.
-/

namespace NetOps
namespace Discovery

open Conc DiscoveryJobRepository DiscoveryFanoutService DiscoveryExecutionService DiscoveryJobWorker

/-! ## The worker and its operators -/

/-- What runs beside each other: the parts of a worker, and the requests of operators. -/
inductive WorkerCall where
  | runOwnedJob (tenantId : String) (jobId owner : UUID) (leaseSeconds : DateTime)
  | executeDiscoveryJob (a : OwnedJob)
  | execute (a : DiscoveryExecutionService.ExecuteArgs)
  | runChild (a : ScopeArgs) (owner : UUID) (child : DiscoveryJobRecord)
      (result : DiscoveryDeviceResultRecord)
  | heartbeat (tenantId : String) (jobId owner : UUID) (leaseSeconds : DateTime) (beats : Nat)
  | failOwnedJob (tenantId : String) (jobId owner : UUID) (e : Exn)
  | recoverExpiredJobs
  | claimQueuedJobs (claimLimit : Nat) (leaseSeconds : DateTime)
  | requestCancellation (tenantId : String) (jobId requestedBy : UUID) (reason : String)
  | commit
  | rollback

def WorkerCall.script (rt : Runtime) : WorkerCall → Prog lang Unit
  | .runOwnedJob t j o l => Discovery.script (DiscoveryJobWorker.runOwnedJob rt t j o l)
  | .executeDiscoveryJob a => Discovery.script (Discovery.executeDiscoveryJob rt a)
  | .execute a => Discovery.script (DiscoveryExecutionService.execute rt a)
  | .runChild a o c r => Discovery.script (DiscoveryFanoutService.runChild rt a o c r)
  | .heartbeat t j o l n => Discovery.script (DiscoveryJobWorker.heartbeat t j o l n)
  | .failOwnedJob t j o e => Discovery.script (DiscoveryJobWorker.failOwnedJob t j o e)
  | .recoverExpiredJobs => Discovery.script DiscoveryJobWorker.recoverExpiredJobs
  | .claimQueuedJobs n l => Discovery.script (DiscoveryJobWorker.claimQueuedJobs n l)
  | .requestCancellation t j b r =>
    Discovery.script (DiscoveryJobRepository.requestCancellation t j b r)
  | .commit => Discovery.script Discovery.commit
  | .rollback => Discovery.script Discovery.rollback

/-- A transition that does not ask for a missing request ends in `failed` or `cancelled`. -/
def Kind.endsGuarded : Kind → Bool
  | .update (.transition s false) => s == .failed || s == .cancelled
  | _ => true

theorem workerKinds_guarded : ∀ k ∈ workerKinds, k.endsGuarded = true := by decide

theorem WorkerCall.stated {A : Kind → Prop} (hA : ∀ k ∈ workerKinds, A k)
    (hcollect : ∀ jobId, A (.collect jobId)) (rt : Runtime) (c : WorkerCall) :
    (c.script rt).All (Stated A) := by
  have howned : ∀ k ∈ ownedKinds, A k := fun k hk => hA k (owned_mem hk)
  have hexec : ∀ k ∈ executeKinds, A k := fun k hk => howned k (by simp [ownedKinds, hk])
  have hclaim : A (.update .claim) := howned _ (by simp [ownedKinds])
  have hcommit : A .commit := hexec _ (by simp [executeKinds, cancelKinds])
  cases c with
  | runOwnedJob t j o l => exact script_stated (runOwnedJob_issues hA hcollect rt t j o l)
  | executeDiscoveryJob a => exact script_stated (executeDiscoveryJob_issues howned hcollect rt a)
  | execute a =>
    exact script_stated (DiscoveryExecutionService.execute_issues hexec hcollect rt a hclaim)
  | runChild a o c r =>
    refine script_stated (runChild_issues (fun k hk => ?_) hcollect rt a o c r)
    obtain rfl | hk := List.mem_cons.1 hk
    · exact hclaim
    · exact hexec k hk
  | heartbeat t j o l n => exact script_stated (heartbeat_issues hA t j o l n)
  | failOwnedJob t j o e =>
    exact script_stated (failOwnedJob_issues t j o e fun k hk => hA k (by simp [workerKinds, hk]))
  | recoverExpiredJobs => exact script_stated (recoverExpiredJobs_issues hA)
  | claimQueuedJobs n l => exact script_stated (claimQueuedJobs_issues hA n l)
  | requestCancellation t j b r =>
    exact script_stated (requestCancellation_issues t j b r
      (hexec _ (by simp [executeKinds, workKinds])))
  | commit => exact script_stated (issues_commit hcommit)
  | rollback => exact script_stated issues_rollback

theorem WorkerCall.issued {A : Kind → Prop} (hA : ∀ k ∈ workerKinds, A k)
    (hcollect : ∀ jobId, A (.collect jobId)) (rt : Runtime) (c : WorkerCall) :
    (c.script rt).All (Issued A) :=
  (WorkerCall.stated hA hcollect rt c).mono fun _ h => h.1

/-- Any task may run any call in any session. -/
def workerStart (rt : Runtime) {Sid Tid : Type} (_ : Tid) (_ : Sid) (p : Prog lang Unit) : Prop :=
  ∃ c : WorkerCall, p = c.script rt

/-! ## What stays of a request -/

/-- The job runs under a cancellation request, or has ended as cancelled. -/
def UnderCancellation (r : DiscoveryJobRecord) : Prop :=
  r.cancellationRequestedAt.isSome = true ∧ (r.state = .running ∨ r.state = .cancelled)

/-- The later version is under cancellation if the earlier one is. -/
def KeepsCancellation (r r' : DiscoveryJobRecord) : Prop :=
  UnderCancellation r → UnderCancellation r'

theorem KeepsCancellation.trans (a b c : DiscoveryJobRecord) (h : KeepsCancellation a b)
    (h' : KeepsCancellation b c) : KeepsCancellation a c := fun hu => h' (h hu)

/-- The sites that end a job without a look at its cancellation request. -/
def Site.ignoresRequest : Site → Bool
  | .transition s false => s.isTerminal
  | .queuedChild | .reconciledChild => true
  | _ => false

/-- Every job `UPDATE` of a worker keeps a job under cancellation, except the ones that end it
otherwise without a look at the request, and those do if there is none. -/
theorem JobStatement.keepsCancellation {u : JobUpdate} (hu : JobStatement u)
    (hsite : (Kind.update u.site).endsGuarded = true) {r : DiscoveryJobRecord}
    (hr : u.filter r = true)
    (hid : u.site.ignoresRequest = true → (u.values r).state ≠ .cancelled →
      r.cancellationRequestedAt = none) :
    KeepsCancellation r (u.values r) := by
  intro hc
  have hnot : u.site.ignoresRequest = true → (u.values r).state = .cancelled := by
    intro hs
    by_contra hne
    simp [UnderCancellation, hid hs hne] at hc
  obtain ⟨hreq, hstate⟩ := hc
  cases hu with
  | claim =>
    simp only [claimUpdate, Bool.and_eq_true, beq_iff_eq] at hr
    simp [hr] at hstate
  | renewLease => exact ⟨hreq, hstate⟩
  | transition a state now h =>
    obtain ⟨_, _, target, _, _, require, _⟩ := a
    cases require with
    | true => simp [transitionUpdate] at hr; simp [hr] at hreq
    | false =>
      have htarget : target = .cancelled := by
        obtain rfl | rfl : target = .failed ∨ target = .cancelled := by
          simpa [Kind.endsGuarded, transitionUpdate] using hsite
        · have hs := hnot rfl
          simp [transitionUpdate, DiscoveryJobStatus.isTerminal, DiscoveryJobRecord.release] at hs
        · rfl
      subst htarget
      exact ⟨hreq, .inr rfl⟩
  | requestCancellation job tenantId jobId requestedBy reason now h =>
    simp only [requestCancellationUpdate, Bool.and_eq_true, beq_iff_eq] at hr ⊢
    split
    · exact ⟨rfl, .inr rfl⟩
    · exact ⟨rfl, hstate⟩
  | resolveStale => exact ⟨hreq, .inr rfl⟩
  | resolveStaleChildren => exact ⟨hreq, .inr rfl⟩
  | queuedChild => exact ⟨hreq, .inr (hnot rfl)⟩
  | reconciledChild => exact ⟨hreq, .inr (hnot rfl)⟩
  | recordSelection => exact ⟨hreq, hstate⟩

/-! ## Runs -/

section

variable {Sid Tid : Type} [DecidableEq Sid]

/-- An `UPDATE` that ends a job otherwise than as cancelled, without a look at its cancellation
request, finds none. -/
def RequestRespected (σ : Discovering Sid Tid) (t : Tid) (c : Statement) : Prop :=
  ∀ u ∈ jobUpdate? c, u.site.ignoresRequest = true →
    ∀ r ∈ (seenJobs σ.store (σ.task t).sid).rows, u.filter r = true →
      (u.values r).state ≠ .cancelled → r.cancellationRequestedAt = none

instance (σ : Discovering Sid Tid) (t : Tid) (c : Statement) :
    Decidable (RequestRespected σ t c) :=
  inferInstanceAs (Decidable (∀ u ∈ jobUpdate? c, _ → ∀ r ∈ _, _))

/-- No cancellation is lost in every run of a worker and its operators in which the updates that
ignore the request find none: a job whose request was committed while it ran ends as cancelled or
not at all. -/
theorem cancellation_not_lost [DecidableEq Tid] {rt : Runtime} {σ₀ σ₁ σ₂ : Discovering Sid Tid}
    (h₀ : σ₀.Initial (workerStart rt))
    (h₁ : Sys.Steps (workerStart rt) RequestRespected σ₀ σ₁)
    (h₂ : Sys.Steps (workerStart rt) RequestRespected σ₁ σ₂)
    {jobId : UUID} {r : DiscoveryJobRecord} (hr : (σ₁.store.db .jobs).get jobId = some r)
    (hrun : r.state = .running) (hreq : r.cancellationRequestedAt.isSome = true) :
    ∃ r', (σ₂.store.db .jobs).get jobId = some r' ∧
      (r'.state.isTerminal = true → r'.state = .cancelled) := by
  obtain ⟨r', hr', hkeep⟩ := jobs_keep (R := KeepsCancellation) (fun _ h => h)
    KeepsCancellation.trans (by
      rintro t s p ⟨c, rfl⟩
      exact c.issued workerKinds_guarded (fun _ => rfl) rt)
    (fun σ t u hu hA hc r hk hf =>
      hu.keepsCancellation hA hf fun hs hne => hc u rfl hs r hk hf hne)
    h₀ h₁ h₂ hr
  refine ⟨r', hr', fun hterm => ?_⟩
  obtain ⟨_, hstate | hstate⟩ := hkeep ⟨hreq, .inl hrun⟩
  · simp [hstate, DiscoveryJobStatus.isTerminal] at hterm
  · exact hstate

end

/-! ## A request while a child fails -/

section

open Samples

/-- No collectors; messages as they are. -/
def noCollectors : Runtime := ⟨⟨[]⟩, id⟩

/-- Session 0 executes the scope job; session 1 requests its cancellation and commits; session 2
resolves the cancellation of a job whose worker is gone. -/
def requestCalls : Fin 4 → Fin 2 × WorkerCall
  | 0 => ⟨⟨0, Nat.two_pos⟩, .runOwnedJob tenant 21 worker 120⟩
  | 1 => ⟨⟨1, Nat.one_lt_two⟩, .requestCancellation tenant 21 7 "stop"⟩
  | 2 => ⟨⟨1, Nat.one_lt_two⟩, .commit⟩
  | 3 => ⟨⟨1, Nat.one_lt_two⟩, .recoverExpiredJobs⟩

def requestRace : Discovering (Fin 2) (Fin 4) where
  store := store (tables [scopeJob] [])
  task t := ⟨(requestCalls t).1, (requestCalls t).2.script noCollectors⟩

theorem requestRace_initial : requestRace.Initial (workerStart noCollectors) where
  log _ _ := rfl
  dirty _ := rfl
  task t := .inr ⟨(requestCalls t).2, rfl⟩

/-- The outside world at time 1000, where a child coroutine loses its database connection. -/
def brokenChild : (x : Ext) → Ext.Answer x
  | .gather _ _ => .error (.db .operational)
  | x => Samples.world 1000 41 x

/-- Task `t` issues `count` statements. -/
def acts (t : Fin 4) (count : Nat) : Sys.Move Discovery.world (Fin 4) := ⟨t, count, brokenChild⟩

/-- The committed scope job: its state, and whether its cancellation is requested. -/
def requestState (σ : Discovering (Fin 2) (Fin 4)) : Option (DiscoveryJobStatus × Bool) :=
  ((σ.store.db .jobs).get 21).map fun r => (r.state, r.cancellationRequestedAt.isSome)

/-- The fan-out waits for its children; the cancellation of the scope is requested. -/
def requested : List (Sys.Move Discovery.world (Fin 4)) := [acts 0 24, acts 1 6, acts 2 1]

/-- Without the condition a requested cancellation is lost: a child raises, and
`_fail_owned_job` ends the scope job as failed although the request is committed. -/
theorem cancellation_not_lost_fails :
    ¬ ∀ (σ₀ σ₁ σ₂ : Discovering (Fin 2) (Fin 4)) (jobId : UUID) (r : DiscoveryJobRecord),
      σ₀.Initial (workerStart noCollectors) →
      Sys.Steps (workerStart noCollectors) (fun _ _ _ => True) σ₀ σ₁ →
      Sys.Steps (workerStart noCollectors) (fun _ _ _ => True) σ₁ σ₂ →
      (σ₁.store.db .jobs).get jobId = some r → r.state = .running →
      r.cancellationRequestedAt.isSome = true →
      ∃ r', (σ₂.store.db .jobs).get jobId = some r' ∧
        (r'.state.isTerminal = true → r'.state = .cancelled) := by
  intro h
  obtain ⟨σ₁, h₁, hs₁⟩ := Option.map_eq_some_iff.1
    (by decide : (requestRace.runs (fun _ _ _ => True) requested).map requestState
      = some (some (.running, true)))
  obtain ⟨σ₂, h₂, hs₂⟩ := Option.map_eq_some_iff.1
    (by decide : ((requestRace.runs (fun _ _ _ => True) requested).bind
      (Sys.runs (fun _ _ _ => True) [acts 0 24])).map requestState = some (some (.failed, true)))
  rw [h₁] at h₂
  obtain ⟨r, hr, hrs⟩ := Option.map_eq_some_iff.1 hs₁
  obtain ⟨hrun, hreq⟩ := Prod.mk.inj hrs
  obtain ⟨r', hr', hend⟩ := h _ _ _ 21 r requestRace_initial (Sys.runs_steps h₁)
    (Sys.runs_steps h₂) hr hrun hreq
  obtain ⟨r'', hr'', hrs''⟩ := Option.map_eq_some_iff.1 hs₂
  rw [hr'] at hr''
  cases hr''
  obtain ⟨hfailed, _⟩ := Prod.mk.inj hrs''
  have hcancelled := hend (by rw [hfailed]; rfl)
  rw [hfailed] at hcancelled
  cases hcancelled

/-- A recovery that starts after the request ends the scope job as cancelled. -/
theorem cancellation_not_lost_recovered :
    ∃ σ₁ σ₂, requestRace.runs RequestRespected [acts 1 6, acts 2 1] = some σ₁ ∧
      σ₁.runs RequestRespected [acts 3 42] = some σ₂ ∧
      requestState σ₂ = some (.cancelled, true) ∧
      ∃ r', (σ₂.store.db .jobs).get 21 = some r' ∧
        (r'.state.isTerminal = true → r'.state = .cancelled) := by
  obtain ⟨σ₁, h₁, hs₁⟩ := Option.map_eq_some_iff.1
    (by decide : (requestRace.runs RequestRespected [acts 1 6, acts 2 1]).map requestState
      = some (some (.running, true)))
  obtain ⟨σ₂, h₂, hs₂⟩ := Option.map_eq_some_iff.1
    (by decide : ((requestRace.runs RequestRespected [acts 1 6, acts 2 1]).bind
      (Sys.runs RequestRespected [acts 3 42])).map requestState = some (some (.cancelled, true)))
  rw [h₁] at h₂
  obtain ⟨r, hr, hrs⟩ := Option.map_eq_some_iff.1 hs₁
  obtain ⟨hrun, hreq⟩ := Prod.mk.inj hrs
  exact ⟨σ₁, σ₂, h₁, h₂, hs₂, cancellation_not_lost requestRace_initial (Sys.runs_steps h₁)
    (Sys.runs_steps h₂) hr hrun hreq⟩

end

end Discovery
end NetOps
