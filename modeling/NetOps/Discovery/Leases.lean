import NetOps.Discovery.Absorbing
import NetOps.Discovery.Cancellation

/-!
# Discovery.Leases

The lease fields of a job agree with its state, whatever runs beside each other over the discovery
tables (`DiscoveryCall`): the operations of the repository with their callers' commits, the parts
of a worker, and the creation of jobs. Every operation writes the lease columns together with the
state it ends in: `claim` sets them, every terminating `UPDATE` clears them
(`DiscoveryJobRecord.release`), and the others leave the state alone.
-/

namespace NetOps
namespace Discovery

open Conc DiscoveryJobRepository DiscoveryFanoutService

/-! ## Calls -/

inductive DiscoveryCall where
  | create (a : JobRequest)
  | recordSelection (tenantId : String) (jobId : UUID)
      (selectedTransport selectedPlatform : Option String)
  | repository (c : RepositoryCall)
  | worker (c : WorkerCall)

namespace DiscoveryCall

def script (rt : Runtime) : DiscoveryCall → Prog lang Unit
  | create a => Discovery.script (DiscoveryJobRepository.create a)
  | recordSelection t j s p => Discovery.script (DiscoveryJobRepository.recordSelection t j s p)
  | repository c => c.script
  | worker c => c.script rt

/-- What a call writes, a transition of its caller's choice apart. -/
def kinds : List Kind :=
  .insert .jobs :: .update .recordSelection :: repositoryKinds ++ DiscoveryJobWorker.workerKinds

theorem stated {A : Kind → Prop} (hA : ∀ k ∈ kinds, A k)
    (hcollect : ∀ jobId, A (.collect jobId)) (rt : Runtime) (c : DiscoveryCall)
    (ht : ∀ a, c = .repository (.transition a) → a.targetState ≠ .queued →
      A (.update (.transition a.targetState a.requireNoCancellation))) :
    (c.script rt).All (Stated A) := by
  cases c with
  | create a => exact script_stated (create_issues a (hA _ (by simp [kinds])))
  | recordSelection t j s p =>
    exact script_stated (recordSelection_issues t j s p (hA _ (by simp [kinds])))
  | repository c =>
    exact c.stated (fun k hk => hA k (by simp [kinds, hk])) fun a ha => ht a (by rw [ha])
  | worker c => exact c.stated (fun k hk => hA k (by simp [kinds, hk])) hcollect rt

theorem issued {A : Kind → Prop} (hA : ∀ k ∈ kinds, A k)
    (hcollect : ∀ jobId, A (.collect jobId)) (rt : Runtime) (c : DiscoveryCall)
    (ht : ∀ a, c = .repository (.transition a) → a.targetState ≠ .queued →
      A (.update (.transition a.targetState a.requireNoCancellation))) :
    (c.script rt).All (Issued A) :=
  (stated hA hcollect rt c ht).mono fun _ h => h.1

end DiscoveryCall

/-- The job is as `create` leaves it. -/
def DiscoveryJobRecord.Created (r : DiscoveryJobRecord) : Prop :=
  ∃ (a : JobRequest) (id : UUID) (now : DateTime), r = a.record id now

/-- Every committed job is as `create` leaves it. -/
def JobsCreated {Sid Tid : Type} (σ : Discovering Sid Tid) : Prop :=
  ∀ id r, (σ.store.db .jobs).get id = some r → r.Created

/-! ## Leases -/

/-- The lease of a job and its timestamps are what its state says. -/
structure LeaseAgrees (r : DiscoveryJobRecord) : Prop where
  queued : r.state = .queued → r.executionOwner = none ∧ r.leaseExpiresAt = none ∧
    r.lastHeartbeatAt = none ∧ r.completedAt = none
  running : r.state = .running → r.executionOwner.isSome = true ∧
    r.leaseExpiresAt.isSome = true ∧ r.lastHeartbeatAt.isSome = true ∧ r.startedAt.isSome = true
  ended : r.state.isTerminal = true → r.executionOwner = none ∧ r.leaseExpiresAt = none ∧
    r.lastHeartbeatAt = none ∧ r.completedAt.isSome = true

theorem LeaseAgrees.created (a : JobRequest) (id : UUID) (now : DateTime) :
    LeaseAgrees (a.record id now) where
  queued _ := ⟨rfl, rfl, rfl, rfl⟩
  running h := by simp [JobRequest.record] at h
  ended h := by simp [JobRequest.record, DiscoveryJobStatus.isTerminal] at h

/-- A job that is released as it ends agrees. -/
theorem LeaseAgrees.release {r : DiscoveryJobRecord} {now : DateTime}
    (h : r.state.isTerminal = true) : LeaseAgrees (r.release now) where
  queued hs := by
    have hs : r.state = .queued := hs
    simp [hs, DiscoveryJobStatus.isTerminal] at h
  running hs := by
    have hs : r.state = .running := hs
    simp [hs, DiscoveryJobStatus.isTerminal] at h
  ended _ := ⟨rfl, rfl, rfl, rfl⟩

/-- A transition, if it is one, ends its job. -/
def Kind.toTerminal : Kind → Bool
  | .update (.transition s _) => s.isTerminal
  | _ => true

theorem kinds_toTerminal : ∀ k ∈ DiscoveryCall.kinds, k.toTerminal = true := by decide

theorem treeOutcome_terminal (cancel : Bool) (job : DiscoveryJobRecord) (message : String) :
    (treeOutcome cancel job message).targetState.isTerminal = true := by
  cases cancel <;> rfl

theorem outcome_terminal (interrupted : Bool) :
    (outcome interrupted).jobState.isTerminal = true := by
  cases interrupted <;> rfl

/-- Every job `UPDATE` keeps the agreement. -/
theorem JobStatement.leaseAgrees {u : JobUpdate} (hu : JobStatement u)
    (hsite : (Kind.update u.site).toTerminal = true) {r : DiscoveryJobRecord}
    (hr : u.filter r = true) (h : LeaseAgrees r) : LeaseAgrees (u.values r) := by
  cases hu with
  | claim tenantId jobId owner leaseSeconds now =>
    refine ⟨fun hs => ?_, fun _ => ⟨rfl, rfl, rfl, rfl⟩, fun hs => ?_⟩
    · simp [claimUpdate] at hs
    · simp [claimUpdate, DiscoveryJobStatus.isTerminal] at hs
  | renewLease tenantId jobId owner leaseSeconds now =>
    simp only [renewLeaseUpdate, Bool.and_eq_true, beq_iff_eq] at hr
    have hrun : r.state = .running := hr.1.2
    obtain ⟨howner, _, _, hstarted⟩ := h.running hrun
    refine ⟨fun hs => ?_, fun _ => ⟨howner, rfl, rfl, hstarted⟩, fun hs => ?_⟩
    · simp [renewLeaseUpdate, hrun] at hs
    · simp [renewLeaseUpdate, hrun, DiscoveryJobStatus.isTerminal] at hs
  | transition a state now _ =>
    have ht : a.targetState.isTerminal = true := hsite
    simp only [transitionUpdate, ht, if_true]
    exact .release ht
  | requestCancellation job tenantId jobId requestedBy reason now _ =>
    simp only [requestCancellationUpdate]
    split
    · exact .release rfl
    · exact ⟨h.queued, h.running, h.ended⟩
  | resolveStale => exact .release rfl
  | resolveStaleChildren => exact .release rfl
  | queuedChild _ _ cancel job message => exact .release (treeOutcome_terminal cancel job message)
  | reconciledChild _ _ interrupted => exact .release (outcome_terminal interrupted)
  | recordSelection => exact ⟨h.queued, h.running, h.ended⟩

section

variable {Sid Tid : Type} [DecidableEq Sid] [DecidableEq Tid]

/-- A task runs any call in any session; a transition of its own choice ends the job. -/
def endingStart (rt : Runtime) {Sid Tid : Type} (_ : Tid) (_ : Sid) (p : Prog lang Unit) : Prop :=
  ∃ c : DiscoveryCall, (∀ a, c = .repository (.transition a) → a.targetState.isTerminal = true) ∧
    p = c.script rt

/-- Lease fields agree with the state in every run that starts with created jobs: of every committed
job, and of every job as a session sees it. -/
theorem leases_agree {rt : Runtime} {σ₀ σ₁ : Discovering Sid Tid}
    (h₀ : σ₀.Initial (endingStart rt)) (hjobs : JobsCreated σ₀)
    (h₁ : Sys.Steps (endingStart rt) (fun _ _ _ => True) σ₀ σ₁) :
    (∀ id r, (σ₁.store.db .jobs).get id = some r → LeaseAgrees r) ∧
      ∀ s, ∀ r ∈ (seenJobs σ₁.store s).rows, LeaseAgrees r := by
  have hstart : ∀ (t : Tid) (s : Sid) p, endingStart rt t s p →
      p.All (Issued fun k => k.toTerminal = true) := by
    rintro t s p ⟨c, hc, rfl⟩
    exact c.issued kinds_toTerminal (fun _ => rfl) rt fun a ha _ => hc a ha
  have hold : σ₁.store.Holds (JobPred LeaseAgrees) :=
    jobs_hold LeaseAgrees.created hstart (fun σ t u hu hA _ r _ hf h => hu.leaseAgrees hA hf h) h₀
      (fun k r hr => by obtain ⟨a, id, now, rfl⟩ := hjobs k r hr; exact .created a id now) h₁
  exact ⟨hold.db .jobs, fun s r hr => hold.view_rows hr⟩

end

section

open Samples

/-- Session 0 claims the created child and commits. -/
def claimRun : Discovering (Fin 1) (Fin 2) where
  store := store (tables [deviceJob] [deviceResult])
  task
    | 0 => ⟨0, (DiscoveryCall.repository (.claim tenant 22 (some worker) 100)).script noCollectors⟩
    | 1 => ⟨0, (DiscoveryCall.repository .commit).script noCollectors⟩

theorem claimRun_initial : claimRun.Initial (endingStart noCollectors) where
  log _ _ := rfl
  dirty _ := rfl
  task
    | 0 => .inr ⟨.repository (.claim tenant 22 (some worker) 100), fun _ h => (by cases h), rfl⟩
    | 1 => .inr ⟨.repository .commit, fun _ h => (by cases h), rfl⟩

theorem claimRun_created : JobsCreated claimRun := by
  intro id r hr
  have hid : id = 22 := by
    have hk :
        id ∈ (Tbl.empty.overlay [deviceJob] : Tbl DiscoveryJobRecord (primaryKey .jobs)).keys :=
      (Tbl.dom _ id).2 (by
        have hs : ((claimRun.store.db .jobs).get id).isSome = true := by rw [hr]; rfl
        exact hs)
    simpa [Tbl.set, Tbl.empty, Tbl.overlay, primaryKey, deviceJob] using hk
  subst hid
  refine ⟨{ tenantId := tenant, targetId := 2, runId := 12, parentJobId := some 21 }, 22, 0, ?_⟩
  have h : (claimRun.store.db .jobs).get 22 = some deviceJob := rfl
  rw [h] at hr
  exact (Option.some.inj hr).symm

/-- The claim and the commit. -/
def claimMoves : List (Sys.Move Discovery.world (Fin 2)) :=
  [⟨⟨0, Nat.two_pos⟩, 5, Samples.world 10 41⟩, ⟨⟨1, Nat.one_lt_two⟩, 1, Samples.world 10 41⟩]

/-- The claimed child, with its lease. -/
theorem leases_agree_claimed :
    ∃ σ₁ r, claimRun.runs (fun _ _ _ => True) claimMoves = some σ₁ ∧
      (σ₁.store.db .jobs).get 22 = some r ∧ r.state = .running ∧ LeaseAgrees r := by
  obtain ⟨σ₁, h₁, hs⟩ := Option.map_eq_some_iff.1
    (by decide : (claimRun.runs (fun _ _ _ => True) claimMoves).map
      (fun σ => ((σ.store.db .jobs).get 22).map (·.state)) = some (some .running))
  obtain ⟨r, hr, hrun⟩ := Option.map_eq_some_iff.1 hs
  obtain ⟨hagree, _⟩ := leases_agree claimRun_initial claimRun_created (Sys.runs_steps h₁)
  exact ⟨σ₁, r, h₁, hr, hrun, hagree 22 r hr⟩

end

end Discovery
end NetOps
