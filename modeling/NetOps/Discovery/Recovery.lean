import NetOps.Discovery.Samples

/-!
# Discovery.Recovery

Lease recovery and lease renewal. `recover_expired_owned_job` reads the lease once; the updates
that end the job and its children re-check state and owner but not the lease. So a job is ended
only while its committed lease is expired, as long as no renewal is committed after that read
(`recovery_ends_expired`), and not otherwise (`recovery_ends_expired_fails`).
-/

namespace NetOps
namespace Discovery

open Conc DiscoveryJobRepository DiscoveryFanoutService

/-- The update sites that end a job. -/
def Site.ends : Site → Bool
  | .transition s _ => s.isTerminal
  | .queuedChild | .reconciledChild | .resolveStaleCancellation | .resolveStaleChildren => true
  | _ => false

/-! ## Renewals -/

/-- What the owner's heartbeat runs in sessions of its own. -/
inductive LeaseCall where
  | renewLease (tenantId : String) (jobId owner : UUID) (leaseSeconds : DateTime)
  | commit
  | rollback

def LeaseCall.script : LeaseCall → Prog lang Unit
  | .renewLease t j o l => Discovery.script (DiscoveryJobRepository.renewLease t j o l)
  | .commit => Discovery.script Discovery.commit
  | .rollback => Discovery.script Discovery.rollback

/-- What a heartbeat writes. -/
def Renewing (k : Kind) : Prop := k = .update .renewLease ∨ k = .commit

theorem LeaseCall.issued (c : LeaseCall) : c.script.All (Issued Renewing) := by
  cases c with
  | renewLease t j o l => exact script_all (renewLease_issues t j o l (.inl rfl))
  | commit => exact script_all (issues_commit (.inr rfl))
  | rollback => exact script_all issues_rollback

section

variable {Sid Tid : Type}

/-- Every task but the recovering one runs renewals, in sessions of its own. -/
def renewalStart (t₀ : Tid) (s₀ : Sid) (t : Tid) (s : Sid) (p : Prog lang Unit) : Prop :=
  t ≠ t₀ ∧ s ≠ s₀ ∧ ∃ c : LeaseCall, p = c.script

/-- The committed lease of the job ended before `staleBefore`. -/
def Expired (jobId : UUID) (staleBefore : DateTime) (σ : Store schema Sid) : Prop :=
  ∃ r, (σ.db .jobs).get jobId = some r ∧ r.leaseExpiresAt.any (· < staleBefore) = true

/-- Recovery is about to start in a session without an open transaction. The other tasks may be
anywhere in their renewals. -/
structure RecoveryBegins (t₀ : Tid) (s₀ : Sid) (tenantId : String) (jobId : UUID)
    (staleBefore : DateTime) (σ : Discovering Sid Tid) : Prop where
  task : σ.task t₀ = ⟨s₀, script (recoverExpiredOwnedJob tenantId jobId staleBefore)⟩
  log : ∀ t, σ.store.log s₀ t = []
  others : ∀ t, t ≠ t₀ → (σ.task t).sid ≠ s₀ ∧ (σ.task t).prog.All (Issued Renewing)

variable [DecidableEq Sid]

/-- No other task commits a version of the job whose lease is not expired. -/
def NoRenewal (t₀ : Tid) (jobId : UUID) (staleBefore : DateTime) (σ : Discovering Sid Tid)
    (t : Tid) (c : Statement) : Prop :=
  t ≠ t₀ → c.isCommit = true → ∀ r ∈ (σ.store.flush (σ.task t).sid).log (σ.task t).sid .jobs,
    r.id = jobId → r.leaseExpiresAt.any (· < staleBefore) = true

instance [DecidableEq Tid] (t₀ : Tid) (jobId : UUID) (staleBefore : DateTime)
    (σ : Discovering Sid Tid) (t : Tid) (c : Statement) :
    Decidable (NoRenewal t₀ jobId staleBefore σ t c) :=
  inferInstanceAs (Decidable (t ≠ t₀ → c.isCommit = true → ∀ r ∈ _, _))

/-- If the recovering task is about to issue an `UPDATE` that ends some job, the committed lease
of the recovered job is expired. -/
def EndsExpired (t₀ : Tid) (jobId : UUID) (staleBefore : DateTime) (σ : Discovering Sid Tid) :
    Prop :=
  ∀ u ∈ nextUpdate (σ.task t₀).prog, u.site.ends = true →
    (∃ r ∈ (seenJobs σ.store (σ.task t₀).sid).rows, u.filter r = true) →
      Expired jobId staleBefore σ.store

/-! ## The contract of recovery -/

/-- While recovery waits, nobody writes in its session, and an expired lease stays expired; in
return it ends jobs only while the lease is expired. -/
def recoveryContract (s₀ : Sid) (jobId : UUID) (staleBefore : DateTime) :
    Prog.Contract lang (Store schema Sid) where
  rely _ σ σ' :=
    σ'.log s₀ = σ.log s₀ ∧ (Expired jobId staleBefore σ → Expired jobId staleBefore σ')
  act σ c r σ' := Store.Exec s₀ σ c r σ'
  guar σ c := ∀ u ∈ jobUpdate? c, u.site.ends = true → Expired jobId staleBefore σ

variable {s₀ : Sid} {jobId : UUID} {staleBefore : DateTime} {α β : Type}

theorem Expired.exec {s : Sid} {σ σ' : Store schema Sid} {c : Statement}
    {r : Except DbError c.Ans} (h : Expired jobId staleBefore σ) (he : Store.Exec s σ c r σ')
    (hc : c ≠ .commit) : Expired jobId staleBefore σ' := by
  unfold Expired
  rw [he.db_eq hc]
  exact h

/-- Without a commit, an expired lease stays expired. -/
theorem expired_sat {m : M α} (hm : Issues (· ≠ .commit) m) {σ : Store schema Sid}
    (h : Expired jobId staleBefore σ) :
    Raises.Sat (recoveryContract s₀ jobId staleBefore) m σ
      (fun _ => Expired jobId staleBefore) (fun _ => Expired jobId staleBefore) :=
  Raises.All.sat (C := recoveryContract s₀ jobId staleBefore)
    (fun _ _ _ hr hi => hr.2 hi)
    (fun _ _ _ _ hc hi ha => hi.exec ha (hc.1.ne_commit (by simp)))
    (fun _ _ _ hi _ _ _ => hi) hm h

/-- A part of recovery before its commit, and what follows. -/
theorem expired_bind {m : M α} {f : α → M β} (hm : Issues (· ≠ .commit) m)
    {σ : Store schema Sid} (h : Expired jobId staleBefore σ)
    (hf : ∀ a σ', Expired jobId staleBefore σ' →
      Raises.Sat (recoveryContract s₀ jobId staleBefore) (f a) σ' (fun _ _ => True)
        (fun _ _ => True)) :
    Raises.Sat (recoveryContract s₀ jobId staleBefore) (m >>= f) σ (fun _ _ => True)
      (fun _ _ => True) :=
  Raises.sat_bind ((expired_sat hm h).mono hf fun _ _ _ => trivial)

theorem reconcileParentJob_sat (tenantId : String) (parentJobId : UUID) (interrupted : Bool)
    (maxTargets : Nat) {σ : Store schema Sid} (h : Expired jobId staleBefore σ) :
    Raises.Sat (recoveryContract s₀ jobId staleBefore)
      (reconcileParentJob tenantId parentJobId interrupted maxTargets) σ (fun _ _ => True)
      (fun _ _ => True) := by
  have hkinds : ∀ k ∈ reconcileKinds, k ≠ .commit := by simp [reconcileKinds, createKinds]
  refine expired_bind (reconcileChildren_issues _ _ _ _ hkinds) h fun results σ' h' => ?_
  cases results with
  | none => exact Raises.sat_pure trivial
  | some results =>
    refine Raises.sat_bind (sat_ask fun σ₁ _ => ⟨?_, fun _ _ _ => ?_, fun _ _ _ => trivial⟩)
    · intro u hu
      cases hu
    · exact Raises.sat_pure trivial

theorem reconcileScope_sat (c : Prop) [Decidable c] (tenantId : String)
    (parentJobId targetId : UUID)
    (interrupted : Bool) {σ : Store schema Sid} (h : Expired jobId staleBefore σ) :
    Raises.Sat (recoveryContract s₀ jobId staleBefore)
      (reconcileScope c tenantId parentJobId targetId interrupted) σ (fun _ _ => True)
      (fun _ _ => True) := by
  refine expired_bind (issues_sessionGet _ _) h fun target σ' h' => ?_
  cases target with
  | none => exact Raises.sat_pure trivial
  | some target =>
    unfold doIf
    dsimp only
    split
    · refine Raises.sat_bind ?_
      exact (reconcileParentJob_sat _ _ _ _ h').mono (fun _ _ _ => Raises.sat_pure trivial)
        fun _ _ _ => trivial
    · exact Raises.sat_pure trivial

theorem reconcileOwnedTree_sat (tenantId : String) (owner : UUID) (message : String)
    {σ : Store schema Sid} (h : Expired jobId staleBefore σ) :
    Raises.Sat (recoveryContract s₀ jobId staleBefore)
      (reconcileOwnedTree tenantId jobId owner message) σ (fun _ _ => True)
      (fun _ _ => True) := by
  have hend : ∀ k ∈ endKinds, k ≠ .commit := by simp [endKinds]
  refine expired_bind (get_issues _ _) h fun job σ h => ?_
  cases job with
  | none => exact Raises.sat_pure trivial
  | some job =>
    refine expired_bind (cancellationRequested_issues _ _) h fun cancel σ h => ?_
    refine expired_bind (issues_select _ _) h fun children σ h => ?_
    refine expired_bind
      (Raises.all_forM fun child _ => endTreeChild_issues _ _ _ _ _ child hend) h fun _ σ h => ?_
    refine expired_bind (treeTransition_issues _ _ _ _ _ _ hend) h fun terminal σ h => ?_
    refine Raises.sat_bind ?_
    exact (reconcileScope_sat _ _ _ _ _ h).mono (fun _ _ _ => Raises.sat_pure trivial)
      fun _ _ _ => trivial

/-- Recovery meets its contract: it goes on only after it has read an expired lease. -/
theorem recoverExpiredOwnedJob_sat (tenantId : String) {σ : Store schema Sid}
    (hlog : σ.log s₀ .jobs = []) :
    Raises.Sat (recoveryContract s₀ jobId staleBefore)
      (recoverExpiredOwnedJob tenantId jobId staleBefore) σ (fun _ _ => True)
      (fun _ _ => True) := by
  unfold recoverExpiredOwnedJob
  split
  · exact Raises.sat_pure trivial
  refine Raises.sat_bind (Raises.sat_bind (sat_ask fun σ₁ hrely => ⟨?_, fun rows σ₂ hx => ?_,
    fun _ _ _ => trivial⟩))
  · intro u hu
    cases hu
  obtain ⟨hrows, rfl⟩ := hx
  refine Raises.sat_pure ?_
  split
  · exact Raises.sat_pure trivial
  · rename_i owner howner
    obtain ⟨job, hjob, hexp⟩ := Option.bind_eq_some_iff.1 howner
    have hmem := hrows.mem_iff.1 (List.mem_of_head? hjob)
    have hview : (σ₁.view s₀) .jobs = σ₁.db .jobs := by
      have hempty : σ₁.log s₀ .jobs = [] := by rw [hrely.1, hlog]
      simp [Store.view, hempty]
    rw [hview] at hmem
    obtain ⟨hmem, hid⟩ := List.mem_filter.1 hmem
    have hid : job.id = jobId := by
      simp only [Bool.and_eq_true, beq_iff_eq] at hid
      exact hid.1
    refine reconcileOwnedTree_sat _ _ _ ⟨job, ?_, (expiredOwner_some hexp).2.2⟩
    rw [← hid]
    exact Tbl.mem_rows.1 hmem

/-! ## Runs -/

/-- What other tasks do while recovery waits is what its contract allows. -/
theorem renewal_rely {t₀ : Tid} {σ : Discovering Sid Tid} {t : Tid} {s : Sid} {c : Statement}
    {k : Except DbError c.Ans → Prog lang Unit} {r : Except DbError c.Ans}
    {store' : Store schema Sid} (htt : t ≠ t₀) (ht : σ.task t = ⟨s, .stmt c k⟩) (hs : s ≠ s₀)
    (hc : NoRenewal t₀ jobId staleBefore σ t c) (he : Store.Exec s σ.store c r store') :
    store'.log s₀ = σ.store.log s₀ ∧
      (Expired jobId staleBefore σ.store → Expired jobId staleBefore store') := by
  refine ⟨he.log_of_ne hs.symm, fun hexp => ?_⟩
  by_cases hcommit : c = .commit
  · subst hcommit
    have hlog := hc htt rfl
    rw [ht] at hlog
    cases r with
    | error e => cases e <;> cases he; exact hexp
    | ok _ =>
      obtain ⟨_, rfl⟩ := he
      obtain ⟨r, hr, hl⟩ := hexp
      rw [← Store.flush_db σ.store s] at hr
      obtain ⟨r', hr'⟩ := Tbl.overlay_get_isSome ((σ.store.flush s).log s .jobs) hr
      refine ⟨r', hr', ?_⟩
      obtain ⟨hm, hid⟩ | hr'' := Store.commit_get hr'
      · exact hlog r' hm hid
      · rw [hr] at hr''
        cases hr''
        exact hl
  · exact hexp.exec he hcommit

/-- Recovery ends jobs only while the lease is expired, in every run in which no renewal of the job
is committed once recovery has read it. -/
theorem recovery_ends_expired [DecidableEq Tid] {t₀ : Tid} {tenantId : String}
    {σ σ' : Discovering Sid Tid} (h : RecoveryBegins t₀ s₀ tenantId jobId staleBefore σ)
    (hrun : Sys.Steps (renewalStart t₀ s₀) (NoRenewal t₀ jobId staleBefore) σ σ') :
    EndsExpired t₀ jobId staleBefore σ' := by
  have hall : Sys.AllTasks (fun t s c => t ≠ t₀ → s ≠ s₀ ∧ Issued Renewing c) σ := by
    intro t
    by_cases htt : t = t₀
    · exact Prog.All.of_forall fun c hn => absurd htt hn
    · obtain ⟨hs, hp⟩ := h.others t htt
      exact hp.mono fun c hc _ => ⟨hs, hc⟩
  have hstart : ∀ t s p, renewalStart t₀ s₀ t s p →
      p.All fun c => t ≠ t₀ → s ≠ s₀ ∧ Issued Renewing c := by
    rintro t s p ⟨_, hs, c, rfl⟩
    exact c.issued.mono fun c hc _ => ⟨hs, hc⟩
  obtain ⟨p, hp, hsat⟩ := Sys.Steps.sat (C := recoveryContract s₀ jobId staleBefore)
    (Q := fun _ => True) (K := Sys.AllTasks fun t s c => t ≠ t₀ → s ≠ s₀ ∧ Issued Renewing c)
    Sys.store (fun s p hp => hp.1 rfl) (fun _ _ _ _ _ _ _ _ he => he)
    (fun _ _ => ⟨rfl, id⟩)
    (fun _ _ _ _ h₁ h₂ => ⟨h₂.1.trans h₁.1, fun hx => h₂.2 (h₁.2 hx)⟩)
    (fun σ t s c k r store' hK htt ht hc he => by
      have hP := hK t
      rw [ht] at hP
      exact ⟨fun _ => renewal_rely htt ht (hP.1 htt).1 hc he, id⟩)
    (fun _ _ _ _ _ _ _ _ _ => ⟨fun _ => ⟨rfl, id⟩, id⟩)
    (fun σ₁ hrun₁ => hall.steps hstart hrun₁)
    h.task (script_sat (recoverExpiredOwnedJob_sat tenantId (h.log _))) hrun
  intro u hu hends _
  rw [hp] at hu
  cases p with
  | pure a => cases hu
  | stmt c k => exact (hsat σ'.store ⟨rfl, id⟩).1 u hu hends

end

/-! ## A renewal between the read and the `UPDATE` -/

section

open Samples

/-- Session 0 recovers the scope job at time 1000; session 1 renews its lease and commits. -/
def renewalRace : Discovering (Fin 2) (Fin 3) where
  store := store (tables [scopeJob, deviceJob] [deviceResult])
  task
    | 0 => ⟨⟨0, Nat.two_pos⟩, script (recoverExpiredOwnedJob tenant 21 1000)⟩
    | 1 => ⟨⟨1, Nat.one_lt_two⟩, LeaseCall.script (.renewLease tenant 21 worker 120)⟩
    | 2 => ⟨⟨1, Nat.one_lt_two⟩, LeaseCall.script .commit⟩

theorem renewalRace_begins : RecoveryBegins 0 0 tenant 21 1000 renewalRace where
  task := rfl
  log _ := rfl
  others t ht := by
    match t with
    | 0 => exact absurd rfl ht
    | 1 => exact ⟨by decide, (LeaseCall.renewLease tenant 21 worker 120).issued⟩
    | 2 => exact ⟨by decide, LeaseCall.commit.issued⟩

/-- Task `t` issues `count` statements. -/
def turns (t : Fin 3) (count : Nat) : Sys.Move Discovery.world (Fin 3) :=
  ⟨t, count, Samples.world 1000 41⟩

/-- Recovery is about to end the scope job while its committed lease runs on. -/
def endsRenewed (σ : Discovering (Fin 2) (Fin 3)) : Bool :=
  (nextUpdate (σ.task 0).prog).any fun u => u.site.ends &&
    ((seenJobs σ.store ⟨0, Nat.two_pos⟩).rows.any u.filter &&
      ((σ.store.db .jobs).get 21).any fun r => r.leaseExpiresAt.any (1000 ≤ ·))

/-- Without the condition recovery ends a job whose renewed lease is committed: it has read the
expired lease, then the owner renews and commits, then the terminating `UPDATE` runs. -/
theorem recovery_ends_expired_fails :
    ¬ ∀ σ σ' : Discovering (Fin 2) (Fin 3), RecoveryBegins 0 0 tenant 21 1000 σ →
      Sys.Steps (renewalStart 0 0) (fun _ _ _ => True) σ σ' → EndsExpired 0 21 1000 σ' := by
  intro h
  obtain ⟨σ', hrun, hends⟩ := Option.map_eq_some_iff.1
    (by decide : (renewalRace.runs (fun _ _ _ => True)
      [turns 0 5, turns 1 3, turns 2 1, turns 0 4]).map
      (fun σ => decide ((σ.task 0).sid = 0) && endsRenewed σ) = some true)
  simp only [Bool.and_eq_true, decide_eq_true_eq, endsRenewed, Option.any_eq_true,
    List.any_eq_true] at hends
  obtain ⟨hsid, u, hu, hsite, ⟨r, hr, hf⟩, job, hjob, lease, hlease, hle⟩ := hends
  obtain ⟨job', hjob', hexp⟩ := h _ _ renewalRace_begins (Sys.runs_steps hrun) u hu hsite
    ⟨r, by rw [hsid]; exact hr, hf⟩
  rw [hjob] at hjob'
  cases hjob'
  rw [hlease] at hexp
  simp only [Option.any_some, decide_eq_true_eq] at hexp
  exact absurd hexp (Int.not_lt.2 hle)

/-- Without a renewal recovery is about to end the job, and its committed lease is expired. -/
theorem recovery_ends_expired_unrenewed :
    ∃ σ', renewalRace.runs (NoRenewal 0 21 1000) [turns 0 9] = some σ' ∧
      (nextUpdate (σ'.task 0).prog).map (·.site.ends) = some true ∧ EndsExpired 0 21 1000 σ' := by
  obtain ⟨σ', hrun, hnext⟩ := Option.map_eq_some_iff.1
    (by decide : (renewalRace.runs (NoRenewal 0 21 1000) [turns 0 9]).map
      (fun σ => (nextUpdate (σ.task 0).prog).map (·.site.ends)) = some (some true))
  exact ⟨σ', hrun, hnext, recovery_ends_expired renewalRace_begins (Sys.runs_steps hrun)⟩

end

end Discovery
end NetOps
