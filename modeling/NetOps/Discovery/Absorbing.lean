import NetOps.Discovery.Samples

/-!
# Discovery.Absorbing

Terminal job states are absorbing, as long as the two updates by id find their child unfinished.

Every other `UPDATE` of the jobs table names a state that is not terminal in its `WHERE`, so
another session's terminal write makes it match nothing. `queuedChild` and `reconciledChild`
decide on a row that was read before and then write by id: a child that ended in between is
overwritten.
-/

namespace NetOps
namespace Discovery

open Conc DiscoveryJobRepository DiscoveryFanoutService

/-! ## Sessions of the repository -/

/-- What a session can run: an operation of the repository, `reconcile_parent_job`, or the
`commit` or `rollback` of its caller. -/
inductive RepositoryCall where
  | claim (tenantId : String) (jobId : UUID) (owner : Option UUID) (leaseSeconds : DateTime)
  | renewLease (tenantId : String) (jobId owner : UUID) (leaseSeconds : DateTime)
  | transition (a : Transition)
  | requestCancellation (tenantId : String) (jobId requestedBy : UUID) (reason : String)
  | finaliseCancellation (tenantId : String) (jobId : UUID) (owner : Option UUID)
  | resolveStaleCancellation (tenantId : String) (jobId : UUID)
  | recoverExpiredOwnedJob (tenantId : String) (jobId : UUID) (staleBefore : DateTime)
  | abandonOwnedJob (tenantId : String) (jobId owner : UUID) (failureMessage : String)
  | markFailedAfterRollback (tenantId : String) (jobId : UUID)
      (failureCode : DiscoveryFailureCode) (failureMessage : String) (owner : Option UUID)
  | reconcileParentJob (tenantId : String) (parentJobId : UUID) (interrupted : Bool)
      (maxTargets : Nat)
  | commit
  | rollback

def RepositoryCall.script : RepositoryCall → Prog lang Unit
  | .claim t j o l => Discovery.script (DiscoveryJobRepository.claim t j o l)
  | .renewLease t j o l => Discovery.script (DiscoveryJobRepository.renewLease t j o l)
  | .transition a => Discovery.script (DiscoveryJobRepository.transition a)
  | .requestCancellation t j b r =>
    Discovery.script (DiscoveryJobRepository.requestCancellation t j b r)
  | .finaliseCancellation t j o =>
    Discovery.script (DiscoveryJobRepository.finaliseCancellation t j o)
  | .resolveStaleCancellation t j =>
    Discovery.script (DiscoveryJobRepository.resolveStaleCancellation t j)
  | .recoverExpiredOwnedJob t j s =>
    Discovery.script (DiscoveryJobRepository.recoverExpiredOwnedJob t j s)
  | .abandonOwnedJob t j o m => Discovery.script (DiscoveryJobRepository.abandonOwnedJob t j o m)
  | .markFailedAfterRollback t j c m o =>
    Discovery.script (DiscoveryJobRepository.markFailedAfterRollback t j c m o)
  | .reconcileParentJob t j i n =>
    Discovery.script (DiscoveryFanoutService.reconcileParentJob t j i n)
  | .commit => Discovery.script Discovery.commit
  | .rollback => Discovery.script Discovery.rollback

/-- What a repository call writes, a transition of its caller's choice apart. -/
def repositoryKinds : List Kind :=
  [.update .claim, .update .renewLease, .update .requestCancellation,
    .update (.transition .failed true)] ++ resolveKinds ++ treeKinds

theorem RepositoryCall.stated {A : Kind → Prop} (hA : ∀ k ∈ repositoryKinds, A k)
    (c : RepositoryCall) (ht : ∀ a, c = .transition a → a.targetState ≠ .queued →
      A (.update (.transition a.targetState a.requireNoCancellation))) :
    c.script.All (Stated A) := by
  have htree : ∀ k ∈ treeKinds, A k := fun k hk => hA k (by simp [repositoryKinds, hk])
  cases c with
  | claim t j o l => exact script_stated (claim_issues t j o l (hA _ (by simp [repositoryKinds])))
  | renewLease t j o l =>
    exact script_stated (renewLease_issues t j o l (hA _ (by simp [repositoryKinds])))
  | transition a => exact script_stated (transition_issues a (ht a rfl))
  | requestCancellation t j b r =>
    exact script_stated (requestCancellation_issues t j b r (hA _ (by simp [repositoryKinds])))
  | finaliseCancellation t j o =>
    exact script_stated (finaliseCancellation_issues t j o
      (htree _ (by simp [treeKinds, endKinds])))
  | resolveStaleCancellation t j =>
    exact script_stated (resolveStaleCancellation_issues t j fun k hk =>
      hA k (by simp [repositoryKinds, hk]))
  | recoverExpiredOwnedJob t j s => exact script_stated (recoverExpiredOwnedJob_issues t j s htree)
  | abandonOwnedJob t j o m => exact script_stated (abandonOwnedJob_issues t j o m htree)
  | markFailedAfterRollback t j c m o =>
    exact script_stated (markFailedAfterRollback_issues t j c m o
      (hA _ (by simp [repositoryKinds])))
  | reconcileParentJob t j i n =>
    exact script_stated (reconcileParentJob_issues t j i n fun k hk =>
      htree k (by simp [treeKinds, hk]))
  | commit => exact script_stated (issues_commit (htree _ (by simp [treeKinds, parentKinds])))
  | rollback => exact script_stated issues_rollback

theorem RepositoryCall.issued {A : Kind → Prop} (hA : ∀ k ∈ repositoryKinds, A k)
    (c : RepositoryCall) (ht : ∀ a, c = .transition a → a.targetState ≠ .queued →
      A (.update (.transition a.targetState a.requireNoCancellation))) :
    c.script.All (Issued A) :=
  (RepositoryCall.stated hA c ht).mono fun _ h => h.1

/-- Any task may run any call in any session. -/
def repositoryStart {Sid Tid : Type} (_ : Tid) (_ : Sid) (p : Prog lang Unit) : Prop :=
  ∃ c : RepositoryCall, p = c.script

/-! ## What stays of a terminal job -/

/-- The later version keeps what a terminal job ended with. -/
def Absorbs (r r' : DiscoveryJobRecord) : Prop :=
  r.state.isTerminal = true →
    r'.state = r.state ∧ r'.failureCode = r.failureCode ∧ r'.completedAt = r.completedAt

theorem Absorbs.refl (r : DiscoveryJobRecord) : Absorbs r r := fun _ => ⟨rfl, rfl, rfl⟩

theorem Absorbs.trans (a b c : DiscoveryJobRecord) (h : Absorbs a b) (h' : Absorbs b c) :
    Absorbs a c := by
  intro ht
  obtain ⟨hs, hf, hc⟩ := h ht
  obtain ⟨hs', hf', hc'⟩ := h' (by rw [hs]; exact ht)
  exact ⟨hs'.trans hs, hf'.trans hf, hc'.trans hc⟩

/-- A job that has not ended has nothing to keep. -/
theorem Absorbs.of_active {r r' : DiscoveryJobRecord} (h : r.state.isTerminal = false) :
    Absorbs r r' := fun ht => by simp [h] at ht

/-- Every job `UPDATE` keeps what a terminal job ended with, except the two that name a child by
id only, and those do if the child has not ended. -/
theorem JobStatement.absorbs {u : JobUpdate} (hu : JobStatement u) {r : DiscoveryJobRecord}
    (hr : u.filter r = true)
    (hid : u.site = .queuedChild ∨ u.site = .reconciledChild → r.state.isTerminal = false) :
    Absorbs r (u.values r) := by
  cases hu with
  | claim =>
    simp [claimUpdate] at hr
    exact .of_active (by simp [hr, DiscoveryJobStatus.isTerminal])
  | renewLease =>
    exact .of_active (by simp [renewLeaseUpdate] at hr; simp [hr, DiscoveryJobStatus.isTerminal])
  | transition a state now h =>
    exact .of_active (by simp [transitionUpdate] at hr; rw [hr.1.1.2]; exact h)
  | requestCancellation job _ _ _ _ _ h =>
    exact .of_active (by simp [requestCancellationUpdate] at hr; rw [hr.2]; exact h)
  | resolveStale =>
    exact .of_active (by simp [resolveStaleUpdate] at hr; simp [hr, DiscoveryJobStatus.isTerminal])
  | resolveStaleChildren =>
    exact .of_active (by
      simp [resolveStaleChildrenUpdate] at hr; simp [hr, DiscoveryJobStatus.isTerminal])
  | queuedChild => exact .of_active (hid (.inl rfl))
  | reconciledChild => exact .of_active (hid (.inr rfl))
  | recordSelection => exact fun _ => ⟨rfl, rfl, rfl⟩

/-! ## Runs -/

section

variable {Sid Tid : Type} [DecidableEq Sid]

/-- A child `UPDATE` that names its row by id only finds it unfinished. -/
def ChildUnfinished (σ : Discovering Sid Tid) (t : Tid) (c : Statement) : Prop :=
  ∀ u ∈ jobUpdate? c, u.site = .queuedChild ∨ u.site = .reconciledChild →
    ∀ r ∈ (seenJobs σ.store (σ.task t).sid).rows, u.filter r = true → r.state.isTerminal = false

instance (σ : Discovering Sid Tid) (t : Tid) (c : Statement) :
    Decidable (ChildUnfinished σ t c) :=
  inferInstanceAs (Decidable (∀ u ∈ jobUpdate? c, _))

/-- Terminal states are absorbing in every run of repository calls in which the two updates by id
find their child unfinished. -/
theorem terminal_states_absorb [DecidableEq Tid] {σ₀ σ₁ σ₂ : Discovering Sid Tid}
    (h₀ : σ₀.Initial repositoryStart)
    (h₁ : Sys.Steps repositoryStart ChildUnfinished σ₀ σ₁)
    (h₂ : Sys.Steps repositoryStart ChildUnfinished σ₁ σ₂)
    {jobId : UUID} {r : DiscoveryJobRecord} (hr : (σ₁.store.db .jobs).get jobId = some r)
    (ht : r.state.isTerminal = true) :
    ∃ r', (σ₂.store.db .jobs).get jobId = some r' ∧
      r'.state = r.state ∧ r'.failureCode = r.failureCode ∧ r'.completedAt = r.completedAt := by
  obtain ⟨r', hr', h⟩ := jobs_keep (R := Absorbs) Absorbs.refl Absorbs.trans
    (by
      rintro t s p ⟨c, rfl⟩
      exact c.issued (A := fun _ => True) (fun _ _ => trivial) fun _ _ _ => trivial)
    (fun σ t u hu _ hc r hk hf => hu.absorbs hf fun hs => hc u rfl hs r hk hf)
    h₀ h₁ h₂ hr
  exact ⟨r', hr', h ht⟩

end

/-! ## A child that ends while recovery runs -/

section

open Samples

/-- Session 0 recovers the scope job; session 1 claims the child, completes it and commits. -/
def childCalls : Fin 6 → Fin 2 × RepositoryCall
  | 0 => ⟨0, .recoverExpiredOwnedJob tenant 21 1000⟩
  | 1 => ⟨1, .claim tenant 22 (some worker) 100⟩
  | 2 => ⟨1, .commit⟩
  | 3 => ⟨1, .transition {
      tenantId := tenant
      jobId := 22
      targetState := .succeeded
      expectedExecutionOwner := some worker }⟩
  | 4 => ⟨1, .commit⟩
  | 5 => ⟨0, .commit⟩

def childRace : Discovering (Fin 2) (Fin 6) where
  store := store (tables [scopeJob, deviceJob] [deviceResult])
  task t := ⟨(childCalls t).1, (childCalls t).2.script⟩

theorem childRace_initial : childRace.Initial repositoryStart where
  log _ _ := rfl
  dirty _ := rfl
  task t := .inr ⟨(childCalls t).2, rfl⟩

/-- Task `t` issues `count` statements. -/
def calls (t : Fin 6) (count : Nat) : Sys.Move Discovery.world (Fin 6) :=
  ⟨t, count, Samples.world 1000 41⟩

/-- The committed state of the child. -/
def childState (σ : Discovering (Fin 2) (Fin 6)) : Option DiscoveryJobStatus :=
  ((σ.store.db .jobs).get 22).map (·.state)

/-- The child is claimed and completed. -/
def childCompletes : List (Sys.Move Discovery.world (Fin 6)) :=
  [calls 1 5, calls 2 1, calls 3 5, calls 4 1]

/-- Without the condition a succeeded child is overwritten: recovery reads it queued, then it is
claimed, completed and committed, then recovery ends it by id. -/
theorem terminal_states_absorb_fails :
    ¬ ∀ (σ₀ σ₁ σ₂ : Discovering (Fin 2) (Fin 6)) (jobId : UUID) (r : DiscoveryJobRecord),
      σ₀.Initial repositoryStart →
      Sys.Steps repositoryStart (fun _ _ _ => True) σ₀ σ₁ →
      Sys.Steps repositoryStart (fun _ _ _ => True) σ₁ σ₂ →
      (σ₁.store.db .jobs).get jobId = some r → r.state.isTerminal = true →
      ∃ r', (σ₂.store.db .jobs).get jobId = some r' ∧
        r'.state = r.state ∧ r'.failureCode = r.failureCode ∧ r'.completedAt = r.completedAt := by
  intro h
  obtain ⟨σ₁, h₁, hs₁⟩ := Option.map_eq_some_iff.1
    (by decide : (childRace.runs (fun _ _ _ => True) (calls 0 5 :: childCompletes)).map childState
      = some (some .succeeded))
  obtain ⟨σ₂, h₂, hs₂⟩ := Option.map_eq_some_iff.1
    (by decide : ((childRace.runs (fun _ _ _ => True) (calls 0 5 :: childCompletes)).bind
      (Sys.runs (fun _ _ _ => True) [calls 0 20])).map childState = some (some .failed))
  rw [h₁] at h₂
  obtain ⟨r, hr, hrs⟩ := Option.map_eq_some_iff.1 hs₁
  obtain ⟨r', hr', hs, _⟩ := h _ _ _ 22 r childRace_initial (Sys.runs_steps h₁)
    (Sys.runs_steps h₂) hr (by rw [hrs]; rfl)
  rw [childState, hr', Option.map_some, hs, hrs] at hs₂
  exact absurd hs₂ (by decide)

/-- A recovery that starts after the child has completed leaves it as it is. -/
theorem terminal_states_absorb_late_recovery :
    ∃ σ₁ σ₂, childRace.runs ChildUnfinished childCompletes = some σ₁ ∧
      σ₁.runs ChildUnfinished [calls 0 23, calls 5 1] = some σ₂ ∧
      ∃ r r', (σ₁.store.db .jobs).get 22 = some r ∧ (σ₂.store.db .jobs).get 22 = some r' ∧
        r'.state = r.state := by
  obtain ⟨σ₁, h₁, hs₁⟩ := Option.map_eq_some_iff.1
    (by decide : (childRace.runs ChildUnfinished childCompletes).map childState
      = some (some .succeeded))
  obtain ⟨σ₂, h₂, _⟩ := Option.map_eq_some_iff.1
    (by decide : ((childRace.runs ChildUnfinished childCompletes).bind
      (Sys.runs ChildUnfinished [calls 0 23, calls 5 1])).map childState = some (some .succeeded))
  rw [h₁] at h₂
  obtain ⟨r, hr, hrs⟩ := Option.map_eq_some_iff.1 hs₁
  obtain ⟨r', hr', hs, _⟩ := terminal_states_absorb childRace_initial (Sys.runs_steps h₁)
    (Sys.runs_steps h₂) hr (by rw [hrs]; rfl)
  exact ⟨σ₁, σ₂, h₁, h₂, r, r', hr, hr', hs⟩

end

end Discovery
end NetOps
