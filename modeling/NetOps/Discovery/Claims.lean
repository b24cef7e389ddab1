import NetOps.Discovery.Leases

/-!
# Discovery.Claims

A job is claimed at most once, and an execution reaches the collector only for a job that it has
claimed or owns.

`claim` is the only statement that takes a job out of `queued` and counts an attempt, it finds
only queued jobs, and nothing puts a job back. What an execution has claimed or read as its own is
read off the statements its task has issued in the run (`Obtained`), so it is about the task's own
claim, in a session it may share, and not about whoever else holds the job.
-/

namespace NetOps
namespace Discovery

open Conc DiscoveryJobRepository DiscoveryFanoutService DiscoveryExecutionService
  DiscoveryJobWorker

/-! ## Attempts -/

/-- At most one attempt, and none while the job is queued. -/
def AttemptsCount (r : DiscoveryJobRecord) : Prop :=
  r.attempts ≤ 1 ∧ (r.state = .queued → r.attempts = 0)

/-- A job that has left the queue stays out of it, with the attempts it has. -/
def LeftQueue (r r' : DiscoveryJobRecord) : Prop :=
  r.state ≠ .queued → r'.state ≠ .queued ∧ r'.attempts = r.attempts

theorem LeftQueue.trans (a b c : DiscoveryJobRecord) (h : LeftQueue a b) (h' : LeftQueue b c) :
    LeftQueue a c := by
  intro ha
  obtain ⟨hb, hab⟩ := h ha
  obtain ⟨hc, hbc⟩ := h' hb
  exact ⟨hc, hbc.trans hab⟩

/-- A transition, if it is one, does not queue its job. -/
def Kind.notQueued : Kind → Bool
  | .update (.transition s _) => s != .queued
  | _ => true

theorem kinds_notQueued : ∀ k ∈ DiscoveryCall.kinds, k.notQueued = true := by decide

/-- What an `UPDATE` other than a claim does to the state and the attempts. -/
theorem JobStatement.queue_cases {u : JobUpdate} (hu : JobStatement u)
    (hsite : (Kind.update u.site).notQueued = true) {r : DiscoveryJobRecord}
    (hr : u.filter r = true) :
    (r.state = .queued ∧ (u.values r).state = .running ∧
        (u.values r).attempts = r.attempts + 1) ∨
      ((u.values r).state = r.state ∨ (u.values r).state ≠ .queued) ∧
        (u.values r).attempts = r.attempts := by
  cases hu with
  | claim =>
    simp only [claimUpdate, Bool.and_eq_true, beq_iff_eq] at hr
    exact .inl ⟨hr.1.1.1.2, rfl, rfl⟩
  | renewLease => exact .inr ⟨.inl rfl, rfl⟩
  | transition a state now _ =>
    have ht : a.targetState ≠ .queued := by simpa [Kind.notQueued, transitionUpdate] using hsite
    simp only [transitionUpdate]
    split
    · exact .inr ⟨.inr ht, rfl⟩
    · exact .inr ⟨.inr ht, rfl⟩
  | requestCancellation job tenantId jobId requestedBy reason now _ =>
    simp only [requestCancellationUpdate]
    split
    · exact .inr ⟨.inr (by simp [DiscoveryJobRecord.release]), rfl⟩
    · exact .inr ⟨.inl rfl, rfl⟩
  | resolveStale =>
    exact .inr ⟨.inr (by simp [resolveStaleUpdate, cancelledBy, DiscoveryJobRecord.release]), rfl⟩
  | resolveStaleChildren =>
    exact .inr ⟨.inr (by
      simp [resolveStaleChildrenUpdate, cancelledBy, DiscoveryJobRecord.release]), rfl⟩
  | queuedChild _ _ cancel =>
    refine .inr ⟨.inr ?_, rfl⟩
    cases cancel <;> simp [queuedChildUpdate, treeOutcome, DiscoveryJobRecord.release]
  | reconciledChild _ _ interrupted =>
    refine .inr ⟨.inr ?_, rfl⟩
    cases interrupted <;> simp [reconciledChildUpdate, outcome, DiscoveryJobRecord.release]
  | recordSelection => exact .inr ⟨.inl rfl, rfl⟩

theorem JobStatement.attemptsCount {u : JobUpdate} (hu : JobStatement u)
    (hsite : (Kind.update u.site).notQueued = true) {r : DiscoveryJobRecord}
    (hr : u.filter r = true) (h : AttemptsCount r) : AttemptsCount (u.values r) := by
  obtain ⟨hle, hqueued⟩ := h
  rcases hu.queue_cases hsite hr with ⟨hq, hrun, hatt⟩ | ⟨hstate, hatt⟩
  · have hzero : r.attempts = 0 := hqueued hq
    exact ⟨by omega, fun hs => by simp [hrun] at hs⟩
  · refine ⟨by omega, fun hs => ?_⟩
    rcases hstate with hsame | hne
    · rw [hatt]
      exact hqueued (hsame ▸ hs)
    · exact absurd hs hne

theorem JobStatement.leftQueue {u : JobUpdate} (hu : JobStatement u)
    (hsite : (Kind.update u.site).notQueued = true) {r : DiscoveryJobRecord}
    (hr : u.filter r = true) : LeftQueue r (u.values r) := by
  intro hne
  rcases hu.queue_cases hsite hr with ⟨hq, _, _⟩ | ⟨hstate, hatt⟩
  · exact absurd hq hne
  · refine ⟨?_, hatt⟩
    rcases hstate with hsame | h
    · rwa [hsame]
    · exact h

/-- A job that is out of the queue cannot be claimed. -/
theorem claimUpdate_filter {r : DiscoveryJobRecord} (h : r.state ≠ .queued) (tenantId : String)
    (jobId owner : UUID) (leaseSeconds now : DateTime) :
    (claimUpdate tenantId jobId owner leaseSeconds now).filter r = false := by
  simp [claimUpdate, h]

/-! ## Holding a job -/

/-- The execution a worker starts for a job that is no scope. -/
def OwnedJob.execution (a : OwnedJob) : ExecuteArgs where
  tenantId := a.tenantId
  jobId := a.jobId
  executionOwner := some a.executionOwner
  leaseSeconds := a.leaseSeconds
  alreadyClaimed := a.alreadyClaimed
  leaseCallback := a.leaseCallback

/-- The execution of a child of a scope. -/
def DiscoveryFanoutService.ScopeArgs.execution (a : ScopeArgs) (owner : UUID)
    (child : DiscoveryJobRecord) : ExecuteArgs where
  tenantId := a.tenantId
  jobId := child.id
  parentJobId := some a.parentJobId
  executionOwner := some owner
  leaseSeconds := a.leaseSeconds
  leaseCallback := a.leaseCallback

/-- The one execution a call can come to. -/
def WorkerCall.execution : WorkerCall → Option ExecuteArgs
  | .runOwnedJob tenantId jobId owner leaseSeconds =>
    some (OwnedJob.execution ⟨tenantId, jobId, owner, leaseSeconds, true, true⟩)
  | .executeDiscoveryJob a => some a.execution
  | .execute a => some a
  | .runChild a owner child _ => some (a.execution owner child)
  | _ => none

def DiscoveryCall.execution : DiscoveryCall → Option ExecuteArgs
  | .worker c => c.execution
  | _ => none

/-- An `UPDATE` that matched these rows. -/
def JobUpdate.matched (u : JobUpdate) (ids : List UUID) : Exchange lang :=
  ⟨.update u.site .jobs u.filter u.values, .ok ids⟩

/-- A commit that succeeded. -/
def committed : Exchange lang := ⟨.commit, .ok ()⟩

/-- The read of the job as running under the owner, with what it found. -/
def readOwned (a : ExecuteArgs) (owner : UUID) (rows : List DiscoveryJobRecord) : Exchange lang :=
  ⟨.select .jobs fun r => r.id == a.jobId && r.tenantId == a.tenantId && r.state == .running &&
    r.executionOwner == some owner, .ok rows⟩

/-- An execution that was given no owner makes one up. -/
def madeUp : Option UUID → UUID → List (Exchange lang)
  | some _, _ => []
  | none, owner => [⟨.ext .uuid4, .ok owner⟩]

/-- What a task has to issue, and how that has to be answered, before it works on the job of an
execution under an owner: a claim of the job that matches it, and the commit of the claim; or,
when the job was claimed before, a read that finds it running under the owner. -/
inductive Obtained (a : ExecuteArgs) (owner : UUID) (xs : List (Exchange lang)) : Prop
  | claimed (now : DateTime) (ids : List UUID) (ha : a.alreadyClaimed = false)
      (hids : a.jobId ∈ ids)
      (hxs : (madeUp a.executionOwner owner ++
        [(claimUpdate a.tenantId a.jobId owner a.leaseSeconds now).matched ids,
          committed]).Sublist xs)
  | owned (rows : List DiscoveryJobRecord) (ha : a.alreadyClaimed = true) (hrows : rows ≠ [])
      (hxs : (madeUp a.executionOwner owner ++ [readOwned a owner rows]).Sublist xs)

theorem Obtained.mono {a : ExecuteArgs} {owner : UUID} {xs ys : List (Exchange lang)}
    (h : Obtained a owner xs) (hsub : xs.Sublist ys) : Obtained a owner ys := by
  cases h with
  | claimed now ids ha hids hxs => exact .claimed now ids ha hids (hxs.trans hsub)
  | owned rows ha hrows hxs => exact .owned rows ha hrows (hxs.trans hsub)

/-- The kind of a call of a collector. -/
def Kind.collects : Kind → Bool
  | .collect _ => true
  | _ => false

theorem kinds_collects : ∀ k ∈ DiscoveryCall.kinds, k.collects = false := by decide

theorem worker_collects : ∀ k ∈ workerKinds, k.collects = false :=
  fun k hk => kinds_collects k (by simp [DiscoveryCall.kinds, hk])

section

variable {Sid Tid : Type}

/-- The job is committed as running under the owner. -/
def HeldBy (jobId owner : UUID) (σ : Store schema Sid) : Prop :=
  ∃ r, (σ.db .jobs).get jobId = some r ∧ r.state = .running ∧ r.executionOwner = some owner

/-- A statement of a run of discovery code. -/
abbrev Happened (Sid Tid : Type) := Sys.Event schema world Sid Tid

/-- The session has no transaction open at the start, and nobody but the task works in it. -/
structure OwnSession (t₀ : Tid) (s₀ : Sid) (σ₀ : Store schema Sid) (es : List (Happened Sid Tid)) :
    Prop where
  log : ∀ t, σ₀.log s₀ t = []
  dirty : σ₀.dirty s₀ = []
  alone : ∀ e ∈ es, e.sid = s₀ → e.task = t₀

theorem OwnSession.of_append {t₀ : Tid} {s₀ : Sid} {σ₀ : Store schema Sid}
    {es es' : List (Happened Sid Tid)} (h : OwnSession t₀ s₀ σ₀ (es ++ es')) :
    OwnSession t₀ s₀ σ₀ es :=
  ⟨h.log, h.dirty, fun e he => h.alone e (List.mem_append_left _ he)⟩

variable [DecidableEq Sid] [DecidableEq Tid]

/-- What a task has issued in a run. -/
def issuedBy (t : Tid) (es : List (Happened Sid Tid)) : List (Exchange lang) :=
  (es.filter fun e => e.task = t).map fun e => ⟨e.stmt, e.answer⟩

omit [DecidableEq Sid] in
@[simp] theorem issuedBy_append (t : Tid) (es es' : List (Happened Sid Tid)) :
    issuedBy t (es ++ es') = issuedBy t es ++ issuedBy t es' := by
  simp [issuedBy]

omit [DecidableEq Sid] in
@[simp] theorem issuedBy_own (t : Tid) (s : Sid) (c : Statement) (r : Except DbError c.Ans)
    (σ σ' : Store schema Sid) : issuedBy t [⟨t, s, c, r, σ, σ'⟩] = [⟨c, r⟩] := by
  simp [issuedBy]

omit [DecidableEq Sid] in
theorem issuedBy_others {t : Tid} {es : List (Happened Sid Tid)} (h : ∀ e ∈ es, e.task ≠ t) :
    issuedBy t es = [] := by
  have hnone : es.filter (fun e => e.task = t) = [] :=
    List.filter_eq_nil_iff.2 fun e he => by simpa using h e he
  simp [issuedBy, hnone]

/-- The task has obtained the job of an execution, under the owner the execution was given or one
it made up; in a session of its own, the job was committed as held by that owner. -/
def Acquired (t₀ : Tid) (s₀ : Sid) (σ₀ : Store schema Sid) (a : ExecuteArgs)
    (es : List (Happened Sid Tid)) : Prop :=
  ∃ owner, (∀ o, a.executionOwner = some o → owner = o) ∧ Obtained a owner (issuedBy t₀ es) ∧
    (OwnSession t₀ s₀ σ₀ es → ∃ e ∈ es, e.task = t₀ ∧ HeldBy a.jobId owner e.after)

/-- The store and the statements so far. -/
abbrev SoFar (Sid Tid : Type) := Store schema Sid × List (Happened Sid Tid)

/-- While a call waits, other tasks go on; in return it calls a collector only for the job of its
execution, once it has acquired that job. -/
def acquireContract (t₀ : Tid) (s₀ : Sid) (σ₀ : Store schema Sid) (x : Option ExecuteArgs) :
    Prog.Contract lang (SoFar Sid Tid) where
  rely _ g g' := ∃ es, g'.2 = g.2 ++ es ∧ (∀ e ∈ es, e.task ≠ t₀) ∧
    ((∀ e ∈ es, e.sid ≠ s₀) → g'.1.log s₀ = g.1.log s₀ ∧ g'.1.dirty s₀ = g.1.dirty s₀)
  act g c r g' := Store.Exec s₀ g.1 c r g'.1 ∧ g'.2 = g.2 ++ [⟨t₀, s₀, c, r, g.1, g'.1⟩]
  guar g c := ∀ jobId, c = .ext (.callCollector jobId) →
    ∃ a, x = some a ∧ jobId = a.jobId ∧ Acquired t₀ s₀ σ₀ a g.2

variable {t₀ : Tid} {s₀ : Sid} {σ₀ : Store schema Sid} {a : ExecuteArgs} {α β : Type}

/-- What the other tasks leave as it was. -/
theorem acquire_rely {c : Statement} {g g' : SoFar Sid Tid}
    (hr : (acquireContract t₀ s₀ σ₀ (some a)).rely c g g') :
    issuedBy t₀ g'.2 = issuedBy t₀ g.2 ∧ (OwnSession t₀ s₀ σ₀ g'.2 →
      OwnSession t₀ s₀ σ₀ g.2 ∧ g'.1.log s₀ = g.1.log s₀ ∧ g'.1.dirty s₀ = g.1.dirty s₀) := by
  obtain ⟨es, he, hothers, hsame⟩ := hr
  rw [he, issuedBy_append, issuedBy_others hothers, List.append_nil]
  refine ⟨rfl, fun hown => ⟨hown.of_append, hsame fun e hmem hs => ?_⟩⟩
  exact hothers e hmem (hown.alone e (List.mem_append_right _ hmem) hs)

omit [DecidableEq Sid] in
theorem Acquired.append {es : List (Happened Sid Tid)} (h : Acquired t₀ s₀ σ₀ a es)
    (es' : List (Happened Sid Tid)) : Acquired t₀ s₀ σ₀ a (es ++ es') := by
  obtain ⟨owner, hgiven, hobtained, hheld⟩ := h
  refine ⟨owner, hgiven, hobtained.mono (by simp), fun hown => ?_⟩
  obtain ⟨e, he, htask, hby⟩ := hheld hown.of_append
  exact ⟨e, List.mem_append_left _ he, htask, hby⟩

/-- A part of the execution that calls collectors for its job only, once the job is acquired. -/
theorem acquired_sat {m : M α} (hm : Issues (fun k => ∀ j, k = .collect j → j = a.jobId) m)
    {g : SoFar Sid Tid} (h : Acquired t₀ s₀ σ₀ a g.2) :
    Raises.Sat (acquireContract t₀ s₀ σ₀ (some a)) m g (fun _ g' => Acquired t₀ s₀ σ₀ a g'.2)
      (fun _ g' => Acquired t₀ s₀ σ₀ a g'.2) := by
  refine Raises.All.sat (C := acquireContract t₀ s₀ σ₀ (some a))
    (I := fun g' => Acquired t₀ s₀ σ₀ a g'.2) ?_ ?_ (fun c g' hc hi jobId hjob => ?_) hm h
  · rintro c g₁ g₂ ⟨es, he, _⟩ hi
    rw [he]
    exact hi.append es
  · rintro c g₁ r g₂ _ hi ⟨_, he⟩
    rw [he]
    exact hi.append _
  · subst hjob
    cases hc.1 with
    | ext x hx => exact absurd rfl (hx jobId)
    | collect _ hA => exact ⟨a, rfl, hA jobId rfl, hi⟩

/-- What calls no collector. -/
theorem apart_sat {x : Option ExecuteArgs} {p : Prog lang α}
    (hp : p.All (Stated fun k => k.collects = false)) {g : SoFar Sid Tid} :
    p.Sat (acquireContract t₀ s₀ σ₀ x) g fun _ _ => True := by
  refine Prog.All.sat (C := acquireContract t₀ s₀ σ₀ x) (fun _ _ _ _ _ => trivial)
    (fun _ _ _ _ _ _ _ => trivial) (fun c g' hc _ jobId hjob => ?_) hp trivial
  subst hjob
  cases hc.1 with
  | ext y hy => exact absurd rfl (hy jobId)
  | collect _ hA => cases hA

/-- A part that calls no collector. -/
theorem collects_nothing_sat {m : M α} (hm : Issues (fun k => k.collects = false) m)
    {g : SoFar Sid Tid} :
    Raises.Sat (acquireContract t₀ s₀ σ₀ (some a)) m g (fun _ _ => True) (fun _ _ => True) := by
  refine Prog.Sat.mono (fun r _ _ => ?_) (apart_sat hm)
  cases r <;> trivial

/-! ## Acquiring a job -/

/-- The task has issued `xs`; in a session of its own, it has written no job. -/
structure Ready (t₀ : Tid) (s₀ : Sid) (σ₀ : Store schema Sid) (xs : List (Exchange lang))
    (g : SoFar Sid Tid) : Prop where
  issued : xs.Sublist (issuedBy t₀ g.2)
  clean : OwnSession t₀ s₀ σ₀ g.2 → g.1.log s₀ .jobs = [] ∧ g.1.dirty s₀ = []

/-- The task has issued `xs`; in a session of its own, it has written the claim of the job, and
nothing else of the jobs. -/
structure Claiming (t₀ : Tid) (s₀ : Sid) (σ₀ : Store schema Sid) (xs : List (Exchange lang))
    (jobId owner : UUID) (g : SoFar Sid Tid) : Prop where
  issued : xs.Sublist (issuedBy t₀ g.2)
  written : OwnSession t₀ s₀ σ₀ g.2 → (∃ v, v ∈ g.1.log s₀ .jobs) ∧
    (∀ v ∈ g.1.log s₀ .jobs, v.id = jobId ∧ v.state = .running ∧ v.executionOwner = some owner) ∧
      g.1.dirty s₀ = []

variable {xs : List (Exchange lang)}

theorem Ready.rely {g g' : SoFar Sid Tid} (h : Ready t₀ s₀ σ₀ xs g) {c : Statement}
    (hr : (acquireContract t₀ s₀ σ₀ (some a)).rely c g g') : Ready t₀ s₀ σ₀ xs g' := by
  obtain ⟨hissued, hown⟩ := acquire_rely hr
  refine ⟨by rw [hissued]; exact h.issued, fun ho => ?_⟩
  obtain ⟨ho, hlog, hdirty⟩ := hown ho
  rw [hlog, hdirty]
  exact h.clean ho

theorem Claiming.rely {jobId owner : UUID} {g g' : SoFar Sid Tid}
    (h : Claiming t₀ s₀ σ₀ xs jobId owner g) {c : Statement}
    (hr : (acquireContract t₀ s₀ σ₀ (some a)).rely c g g') :
    Claiming t₀ s₀ σ₀ xs jobId owner g' := by
  obtain ⟨hissued, hown⟩ := acquire_rely hr
  refine ⟨by rw [hissued]; exact h.issued, fun ho => ?_⟩
  obtain ⟨ho, hlog, hdirty⟩ := hown ho
  rw [hlog, hdirty]
  exact h.written ho

/-- What the task issues is appended to what it has issued. -/
theorem issuedBy_act {c : Statement} {r : Except DbError c.Ans} {g g' : SoFar Sid Tid}
    (ha : (acquireContract t₀ s₀ σ₀ (some a)).act g c r g') :
    issuedBy t₀ g'.2 = issuedBy t₀ g.2 ++ [⟨c, r⟩] := by
  rw [ha.2, issuedBy_append, issuedBy_own]

theorem ownSession_act {c : Statement} {r : Except DbError c.Ans} {g g' : SoFar Sid Tid}
    (ha : (acquireContract t₀ s₀ σ₀ (some a)).act g c r g') (h : OwnSession t₀ s₀ σ₀ g'.2) :
    OwnSession t₀ s₀ σ₀ g.2 := by
  rw [ha.2] at h
  exact h.of_append

/-- A statement that is no call of a collector is always allowed. -/
theorem acquire_guar {g : SoFar Sid Tid} {c : Statement}
    (hc : ∀ jobId, c ≠ .ext (.callCollector jobId)) :
    (acquireContract t₀ s₀ σ₀ (some a)).guar g c := fun jobId h => absurd h (hc jobId)

/-- Reads, rollbacks and flushes leave a session without jobs to write as it is. -/
theorem reads_clean {c : Statement} (hc : Issued (fun _ => False) c) {r : Except DbError c.Ans}
    {σ σ' : Store schema Sid} (he : Store.Exec s₀ σ c r σ')
    (h : σ.log s₀ .jobs = [] ∧ σ.dirty s₀ = []) :
    σ'.log s₀ .jobs = [] ∧ σ'.dirty s₀ = [] := by
  have aborted : (σ.abort s₀).log s₀ .jobs = [] ∧ (σ.abort s₀).dirty s₀ = [] :=
    ⟨by simp [Store.abort], h.2⟩
  have discarded : (σ.discard s₀).log s₀ .jobs = [] ∧ (σ.discard s₀).dirty s₀ = [] := by
    simp [Store.discard]
  cases hc with
  | select t p =>
    cases r with
    | ok rows => rw [he.2]; exact h
    | error e => cases e <;> cases he; exact aborted
  | get t id =>
    cases r with
    | ok row => rw [he.2]; exact h
    | error e => cases e <;> cases he; exact aborted
  | rollback =>
    cases r with
    | ok _ => cases he; exact discarded
    | error e => cases he
  | ext x hx =>
    cases r with
    | ok _ => cases he; exact h
    | error e => cases he
  | flush =>
    cases r with
    | ok _ => rw [he.2, Store.flush_of_clean h.2]; exact h
    | error e => cases e <;> cases he; exact discarded
  | commit hA => exact hA.elim
  | collect _ hA => exact hA.elim
  | job _ hA => exact hA.elim
  | newJob _ _ _ hA => exact hA.elim
  | update _ _ _ _ _ hA => exact hA.elim
  | insert _ _ hA => exact hA.elim
  | change _ _ _ _ hA => exact hA.elim

/-- A part that only reads. -/
theorem ready_reads {m : M α} (hm : Issues (fun _ => False) m) {g : SoFar Sid Tid}
    (h : Ready t₀ s₀ σ₀ xs g) :
    Raises.Sat (acquireContract t₀ s₀ σ₀ (some a)) m g (fun _ => Ready t₀ s₀ σ₀ xs)
      (fun _ => Ready t₀ s₀ σ₀ xs) := by
  refine Raises.All.sat (C := acquireContract t₀ s₀ σ₀ (some a)) (fun _ _ _ hr hi => hi.rely hr)
    (fun c g₁ r g₂ hc hi ha => ?_) (fun c g₁ hc _ jobId hjob => ?_) hm h
  · refine ⟨?_, fun ho => reads_clean hc.1 ha.1 (hi.clean (ownSession_act ha ho))⟩
    rw [issuedBy_act ha]
    exact hi.issued.trans (List.sublist_append_left _ _)
  · subst hjob
    cases hc.1 with
    | ext x hx => exact absurd rfl (hx jobId)
    | collect _ hA => exact hA.elim

/-- The claim that matched is written. -/
theorem ready_claim {tenantId : String} {jobId owner : UUID} {leaseSeconds now : DateTime}
    {g : SoFar Sid Tid} (h : Ready t₀ s₀ σ₀ xs g) :
    Raises.Sat (acquireContract t₀ s₀ σ₀ (some a))
      (claimUpdate tenantId jobId owner leaseSeconds now).execute g
      (fun ids g' => ids ≠ [] → jobId ∈ ids ∧ Claiming t₀ s₀ σ₀
        (xs ++ [(claimUpdate tenantId jobId owner leaseSeconds now).matched ids])
        jobId owner g')
      (fun _ _ => True) := by
  refine sat_ask fun g₁ hr => ⟨acquire_guar (by simp), ?_, fun _ _ _ => trivial⟩
  rintro ids g₂ hact hids
  obtain ⟨_, hids', hstore⟩ := hact.1
  have h₁ := h.rely hr
  have hmatch : ∀ r ∈ ((g₁.1.view s₀) .jobs).rows.filter
      (claimUpdate tenantId jobId owner leaseSeconds now).filter, r.id = jobId := by
    intro r hr
    have hf := (List.mem_filter.1 hr).2
    simp only [claimUpdate, Bool.and_eq_true, beq_iff_eq] at hf
    exact hf.1.1.1.1.1
  obtain ⟨id, hid⟩ := List.exists_mem_of_ne_nil _ hids
  rw [hids'] at hid
  obtain ⟨r, hr, hkey⟩ := List.mem_map.1 hid
  refine ⟨?_, ?_, fun ho => ?_⟩
  · have hmem : r.id ∈ ids := by
      rw [hids']
      exact List.mem_map_of_mem hr
    rwa [hmatch r hr] at hmem
  · rw [issuedBy_act hact]
    exact h₁.issued.append (.refl _)
  · obtain ⟨hempty, hdirty⟩ := h₁.clean (ownSession_act hact ho)
    have hlog : g₂.1.log s₀ .jobs =
        (((g₁.1.view s₀) .jobs).rows.filter
          (claimUpdate tenantId jobId owner leaseSeconds now).filter).map
            (claimUpdate tenantId jobId owner leaseSeconds now).values := by
      rw [hstore]
      simp [Store.write, hempty]
    refine ⟨⟨_, by rw [hlog]; exact List.mem_map_of_mem hr⟩, fun v hv => ?_, ?_⟩
    · rw [hlog] at hv
      obtain ⟨r', hr', rfl⟩ := List.mem_map.1 hv
      exact ⟨hmatch r' hr', rfl, rfl⟩
    · rw [hstore]
      exact hdirty

theorem claiming_flush {jobId owner : UUID} {g : SoFar Sid Tid}
    (h : Claiming t₀ s₀ σ₀ xs jobId owner g) :
    Raises.Sat (acquireContract t₀ s₀ σ₀ (some a)) flush g
      (fun _ => Claiming t₀ s₀ σ₀ xs jobId owner) (fun _ _ => True) := by
  refine sat_ask fun g₁ hr => ⟨acquire_guar (by simp), ?_, fun _ _ _ => trivial⟩
  rintro _ g₂ hact
  have h₁ := h.rely hr
  refine ⟨?_, fun ho => ?_⟩
  · rw [issuedBy_act hact]
    exact h₁.issued.trans (List.sublist_append_left _ _)
  · have hw := h₁.written (ownSession_act hact ho)
    obtain ⟨_, hstore⟩ := hact.1
    rw [hstore, Store.flush_of_clean hw.2.2]
    exact hw

theorem claiming_getExisting {tenantId : String} {jobId owner : UUID} {g : SoFar Sid Tid}
    (h : Claiming t₀ s₀ σ₀ xs jobId owner g) :
    Raises.Sat (acquireContract t₀ s₀ σ₀ (some a)) (getExisting tenantId jobId) g
      (fun job g' => job.id = jobId ∧ Claiming t₀ s₀ σ₀ xs jobId owner g')
      (fun _ _ => True) := by
  refine Raises.sat_bind (Raises.sat_bind
    (sat_ask fun g₁ hr => ⟨acquire_guar (by simp), ?_, fun _ _ _ => trivial⟩))
  rintro rows g₂ hact
  refine Raises.sat_pure ?_
  have h₁ := h.rely hr
  obtain ⟨hrows, hstore⟩ := hact.1
  have h₂ : Claiming t₀ s₀ σ₀ xs jobId owner g₂ := by
    refine ⟨?_, fun ho => ?_⟩
    · rw [issuedBy_act hact]
      exact h₁.issued.trans (List.sublist_append_left _ _)
    · rw [hstore]
      exact h₁.written (ownSession_act hact ho)
  cases hjob : rows.head? with
  | none => exact Raises.sat_throw trivial
  | some job =>
    have hmem := (List.mem_filter.1 (hrows.mem_iff.1 (List.mem_of_head? hjob))).2
    simp only [Bool.and_eq_true, beq_iff_eq] at hmem
    exact Raises.sat_pure ⟨hmem.1, h₂⟩

/-- A claim that is committed holds the job. -/
theorem claiming_commit {owner : UUID} {g : SoFar Sid Tid}
    (h : Claiming t₀ s₀ σ₀ xs a.jobId owner g) :
    Raises.Sat (acquireContract t₀ s₀ σ₀ (some a)) commit g
      (fun _ g' => (xs ++ [committed]).Sublist (issuedBy t₀ g'.2) ∧
        (OwnSession t₀ s₀ σ₀ g'.2 → ∃ e ∈ g'.2, e.task = t₀ ∧ HeldBy a.jobId owner e.after))
      (fun _ _ => True) := by
  refine sat_ask fun g₁ hr => ⟨acquire_guar (by simp), ?_, fun _ _ _ => trivial⟩
  rintro _ g₂ hact
  have h₁ := h.rely hr
  refine ⟨?_, fun ho => ?_⟩
  · rw [issuedBy_act hact]
    exact h₁.issued.append (.refl _)
  · obtain ⟨⟨v, hv⟩, hlog, hdirty⟩ := h₁.written (ownSession_act hact ho)
    obtain ⟨_, hstore⟩ := hact.1
    refine ⟨_, by rw [hact.2]; exact List.mem_append_right _ (List.mem_singleton_self _), rfl, ?_⟩
    obtain ⟨v', hget, hv'⟩ := Tbl.overlay_get_of_mem (T := g₁.1.db .jobs) hv
    obtain ⟨_, hrun, howner⟩ := hlog v' hv'
    refine ⟨v', ?_, hrun, howner⟩
    rw [hstore, Store.flush_of_clean hdirty]
    have hid : primaryKey .jobs v = a.jobId := (hlog v hv).1
    rw [← hid]
    exact hget

theorem ready_ownerOrNew (owner : Option UUID) {g : SoFar Sid Tid}
    (h : Ready t₀ s₀ σ₀ [] g) :
    Raises.Sat (acquireContract t₀ s₀ σ₀ (some a)) (ownerOrNew owner) g
      (fun o g' => (∀ o', owner = some o' → o = o') ∧ Ready t₀ s₀ σ₀ (madeUp owner o) g')
      (fun _ _ => True) := by
  cases owner with
  | some o => exact Raises.sat_pure ⟨fun o' ho => Option.some.inj ho, h⟩
  | none =>
    refine sat_ask fun g₁ hr => ⟨acquire_guar (by simp), ?_, fun _ _ _ => trivial⟩
    rintro o g₂ hact
    have h₁ := h.rely hr
    refine ⟨fun _ ho => (by cases ho), ?_, fun ho => ?_⟩
    · rw [issuedBy_act hact]
      exact List.sublist_append_right _ _
    · have hstore : g₂.1 = g₁.1 := hact.1
      rw [hstore]
      exact h₁.clean (ownSession_act hact ho)

theorem ready_claims {owner : UUID} {g : SoFar Sid Tid} (h : Ready t₀ s₀ σ₀ xs g) :
    Raises.Sat (acquireContract t₀ s₀ σ₀ (some a))
      (claim a.tenantId a.jobId (some owner) a.leaseSeconds) g
      (fun job g' => job.id = a.jobId ∧ ∃ (now : DateTime) (ids : List UUID), a.jobId ∈ ids ∧
        Claiming t₀ s₀ σ₀
          (xs ++ [(claimUpdate a.tenantId a.jobId owner a.leaseSeconds now).matched ids])
          a.jobId owner g')
      (fun _ _ => True) := by
  unfold claim raiseIf
  refine Raises.sat_bind ?_
  split
  · exact Raises.sat_throw trivial
  refine Raises.sat_pure (Raises.sat_bind ?_)
  split
  · exact Raises.sat_throw trivial
  refine Raises.sat_pure (Raises.sat_bind (Raises.sat_pure (Raises.sat_bind ?_)))
  refine (ready_reads (get_issues _ _) h).mono (fun job g₁ h₁ => ?_) fun _ _ _ => trivial
  cases job with
  | none => exact Raises.sat_throw trivial
  | some job =>
    refine Raises.sat_bind ((ready_reads issues_utcNow h₁).mono (fun now g₂ h₂ => ?_)
      fun _ _ _ => trivial)
    refine Raises.sat_bind ((ready_claim h₂).mono (fun ids g₃ h₃ => ?_) fun _ _ _ => trivial)
    split
    · refine Raises.sat_bind
        (sat_ask fun _ _ => ⟨acquire_guar (by simp), ?_, fun _ _ h => h.1.elim⟩)
      exact fun _ _ _ => Raises.sat_throw trivial
    · rename_i hids
      obtain ⟨hmem, h₃⟩ := h₃ (by simpa using hids)
      refine Raises.sat_bind ((claiming_flush h₃).mono (fun _ g₄ h₄ => ?_) fun _ _ _ => trivial)
      exact (claiming_getExisting h₄).mono (fun _ _ hj => ⟨hj.1, now, ids, hmem, hj.2⟩)
        fun _ _ _ => trivial

/-- The job a task reads as its own. -/
theorem ready_owned {owner : UUID} (ho : ∀ o, a.executionOwner = some o → owner = o)
    (ha : a.alreadyClaimed = true) {g : SoFar Sid Tid}
    (h : Ready t₀ s₀ σ₀ (madeUp a.executionOwner owner) g) :
    Raises.Sat (acquireContract t₀ s₀ σ₀ (some a)) (ownedRunningJob a.tenantId a.jobId owner) g
      (fun job g' => ∀ r, job = some r → r.id = a.jobId ∧ Acquired t₀ s₀ σ₀ a g'.2)
      (fun _ _ => True) := by
  refine Raises.sat_bind (sat_ask fun g₁ hr => ⟨acquire_guar (by simp), ?_, fun _ _ _ => trivial⟩)
  rintro rows g₂ hact
  have h₁ := h.rely hr
  obtain ⟨hrows, hstore⟩ := hact.1
  refine Raises.sat_pure fun r hjob => ?_
  obtain ⟨hmem, hf⟩ := List.mem_filter.1 (hrows.mem_iff.1 (List.mem_of_head? hjob))
  simp only [Bool.and_eq_true, beq_iff_eq] at hf
  obtain ⟨⟨⟨hid, _⟩, hrun⟩, howner⟩ := hf
  refine ⟨hid, owner, ho, ?_, fun hown => ?_⟩
  · refine .owned rows ha (List.ne_nil_of_mem (List.mem_of_head? hjob)) ?_
    rw [issuedBy_act hact]
    exact h₁.issued.append (.refl _)
  · have hview : (g₁.1.view s₀) .jobs = g₁.1.db .jobs := by
      simp [Store.view, (h₁.clean (ownSession_act hact hown)).1]
    rw [hview] at hmem
    refine ⟨_, by rw [hact.2]; exact List.mem_append_right _ (List.mem_singleton_self _), rfl,
      r, ?_, hrun, howner⟩
    rw [hstore, ← hid]
    exact Tbl.mem_rows.1 hmem

theorem acquire_sat {owner : UUID} (ho : ∀ o, a.executionOwner = some o → owner = o)
    {g : SoFar Sid Tid} (h : Ready t₀ s₀ σ₀ (madeUp a.executionOwner owner) g) :
    Raises.Sat (acquireContract t₀ s₀ σ₀ (some a)) (acquire a owner) g
      (fun job g' => job.id = a.jobId ∧ Acquired t₀ s₀ σ₀ a g'.2) (fun _ _ => True) := by
  unfold acquire
  split
  · rename_i ha
    refine Raises.sat_bind ((ready_owned ho ha h).mono (fun job g₁ h₁ => ?_) fun _ _ _ => trivial)
    cases job with
    | none => exact Raises.sat_throw trivial
    | some job => exact Raises.sat_pure (h₁ job rfl)
  · rename_i ha
    refine Raises.sat_bind ((ready_claims h).mono (fun job g₁ h₁ => ?_) fun _ _ _ => trivial)
    obtain ⟨hid, now, ids, hmem, hclaiming⟩ := h₁
    refine Raises.sat_bind ((claiming_commit hclaiming).mono (fun _ g₂ h₂ => ?_)
      fun _ _ _ => trivial)
    refine Raises.sat_pure ⟨hid, owner, ho, ?_, h₂.2⟩
    refine .claimed now ids (by simpa using ha) hmem ?_
    simpa using h₂.1

/-! ## Executing an acquired job -/

/-- Every effect of an execution but calls of collectors for other jobs. -/
theorem executeKinds_collect (jobId : UUID) :
    ∀ k ∈ executeKinds, ∀ j, k = .collect j → j = jobId := by
  intro k hk j hj
  subst hj
  simp [executeKinds, workKinds, publishKinds, failKinds, cancelKinds, attemptKinds, resultKinds]
    at hk

/-- The context a single path starts with is about its job. -/
theorem resolveCollector_context {registry : CollectorRegistry} {job : DiscoveryJobRecord}
    {target : DiscoveryTargetRecordView} {collector : Collector} {context : CollectorContext}
    (h : resolveCollector registry job target = .ok (collector, context)) :
    context.jobId = job.id := by
  unfold resolveCollector at h
  cases hcap : requestedCapabilities job with
  | error e => simp [hcap, bind, Except.bind] at h
  | ok capabilities =>
    simp only [hcap, bind, Except.bind] at h
    split at h
    · split at h
      · cases h; rfl
      · cases h
    · split at h
      · cases h; rfl
      · cases h

/-- What the single path starts with is about the acquired job. -/
def DiscoveryExecutionService.Begun.About (jobId : UUID) : Begun → Prop
  | .finished _ => True
  | .started _ _ context _ => context.jobId = jobId

theorem begin_sat (rt : Runtime) {job : DiscoveryJobRecord} (hid : job.id = a.jobId)
    {g : SoFar Sid Tid} (h : Acquired t₀ s₀ σ₀ a g.2) :
    Raises.Sat (acquireContract t₀ s₀ σ₀ (some a)) (begin rt a job) g
      (fun b g' => b.About a.jobId ∧ Acquired t₀ s₀ σ₀ a g'.2)
      (fun _ g' => Acquired t₀ s₀ σ₀ a g'.2) := by
  have hA := executeKinds_collect a.jobId
  refine Raises.sat_bind ((acquired_sat (resolveTarget_issues _ _) h).mono (fun target g h => ?_)
    fun _ _ h => h)
  refine Raises.sat_bind ((acquired_sat (check_issues (fun k hk => hA k (handler_mem hk)) _)
    h).mono (fun _ g h => ?_)
    fun _ _ h => h)
  refine Raises.sat_bind ((acquired_sat (issues_raiseIf _ _) h).mono (fun _ g h => ?_)
    fun _ _ h => h)
  split
  · refine Raises.sat_bind ((acquired_sat (executeMultiTransport_issues hA _ _ ?_) h).mono
      (fun _ g h => Raises.sat_pure ⟨trivial, h⟩) fun _ _ h => h)
    exact fun j hj => (Kind.collect.inj hj).symm.trans hid
  · refine Raises.sat_bind ?_
    cases hres : resolveCollector rt.registry job target with
    | error e => exact Raises.sat_throw h
    | ok found =>
      refine Raises.sat_pure (Raises.sat_bind ((acquired_sat
        (startTransportAttempt_issues _ _ fun k hk => ?_) h).mono (fun _ g h => ?_) fun _ _ h => h))
      · exact hA k (mem_workKinds (by simp [workKinds, List.mem_append.1 hk]))
      · exact Raises.sat_pure ⟨(resolveCollector_context hres).trans hid, h⟩

theorem executeJob_sat (rt : Runtime) (owner : UUID) {job : DiscoveryJobRecord}
    (hid : job.id = a.jobId) {g : SoFar Sid Tid} (h : Acquired t₀ s₀ σ₀ a g.2) :
    Raises.Sat (acquireContract t₀ s₀ σ₀ (some a)) (executeJob rt a owner job) g
      (fun _ _ => True) (fun _ _ => True) := by
  have hA := executeKinds_collect a.jobId
  have hconclude : ∀ attempt e (g : SoFar Sid Tid), Acquired t₀ s₀ σ₀ a g.2 →
      Raises.Sat (acquireContract t₀ s₀ σ₀ (some a)) (conclude rt job a.tenantId owner attempt e) g
        (fun _ _ => True) (fun _ _ => True) := by
    intro attempt e g h
    exact (acquired_sat (conclude_issues (fun k hk => hA k (handler_mem hk)) ..) h).mono
      (fun _ _ _ => trivial) fun _ _ _ => trivial
  refine Raises.sat_bind (sat_catching ((begin_sat rt hid h).mono (fun b g hb => ?_)
    fun e g h => hconclude _ _ _ h))
  cases b with
  | finished outcome => exact Raises.sat_pure trivial
  | started w collector context attempt =>
    refine Raises.sat_tryCatch ((acquired_sat (executeSingleTransport_issues hA _ _ _ _ _ ?_)
      hb.2).mono (fun _ _ _ => trivial) fun e g h => hconclude _ _ _ h)
    exact fun j hj => (Kind.collect.inj hj).symm.trans hb.1

/-- An execution calls collectors for its job only, and only once it has acquired it. -/
theorem execute_sat (rt : Runtime) {g : SoFar Sid Tid} (h : Ready t₀ s₀ σ₀ [] g) :
    Raises.Sat (acquireContract t₀ s₀ σ₀ (some a)) (execute rt a) g (fun _ _ => True)
      (fun _ _ => True) := by
  refine Raises.sat_bind ((ready_ownerOrNew _ h).mono (fun owner g h => ?_) fun _ _ _ => trivial)
  refine Raises.sat_bind (sat_catching ((acquire_sat h.1 h.2).mono (fun job g h => ?_)
    fun e g _ => ?_))
  · exact executeJob_sat rt owner h.1 h.2
  · split
    · exact collects_nothing_sat (notAcquired_issues _)
    · exact Raises.sat_throw trivial
    · contradiction

/-! ## The calls that execute a job -/

/-- After a commit a session is without jobs to write. -/
theorem ready_commit {g : SoFar Sid Tid} :
    Raises.Sat (acquireContract t₀ s₀ σ₀ (some a)) commit g (fun _ => Ready t₀ s₀ σ₀ [])
      (fun _ _ => True) := by
  refine sat_ask fun g₁ hr => ⟨acquire_guar (by simp), ?_, fun _ _ _ => trivial⟩
  rintro _ g₂ ⟨⟨_, hstore⟩, _⟩
  refine ⟨List.nil_sublist _, fun _ => ?_⟩
  rw [hstore]
  simp [Store.commit, Store.flush, Store.clean]

theorem executeChild_sat (rt : Runtime) {sa : ScopeArgs} {owner : UUID}
    {child : DiscoveryJobRecord} (result : DiscoveryDeviceResultRecord) {g : SoFar Sid Tid} :
    Raises.Sat (acquireContract t₀ s₀ σ₀ (some (sa.execution owner child)))
      (executeChild rt sa owner child result) g (fun _ _ => True) (fun _ _ => True) := by
  refine Raises.sat_bind ((collects_nothing_sat issues_utcNow).mono (fun now g _ => ?_)
    fun _ _ _ => trivial)
  refine Raises.sat_bind (Raises.Sat.mono (fun r g _ => ?_) (fun _ _ _ => trivial)
    (collects_nothing_sat ?_))
  rotate_left
  · exact issues_setResult result (fun _ => rfl) (by decide)
  refine Raises.sat_bind (ready_commit.mono (fun _ g h => ?_) fun _ _ _ => trivial)
  refine Raises.sat_bind ((execute_sat rt h).mono (fun outcome g _ => ?_) fun _ _ _ => trivial)
  refine collects_nothing_sat (Raises.all_bind (refreshResult_issues _) fun r => ?_)
  refine Raises.all_bind issues_utcNow fun now => ?_
  exact Raises.all_bind (issues_setResult _ (fun _ => rfl) (by decide)) fun _ =>
    issues_commit rfl

theorem runChild_sat (rt : Runtime) {sa : ScopeArgs} {owner : UUID}
    {child : DiscoveryJobRecord} (result : DiscoveryDeviceResultRecord) {g : SoFar Sid Tid} :
    Raises.Sat (acquireContract t₀ s₀ σ₀ (some (sa.execution owner child)))
      (runChild rt sa owner child result) g (fun _ _ => True) (fun _ _ => True) := by
  have hcancel : ∀ g : SoFar Sid Tid,
      Raises.Sat (acquireContract t₀ s₀ σ₀ (some (sa.execution owner child)))
        (cancelChild sa.parentJobId child result) g (fun _ _ => True) (fun _ _ => True) :=
    fun g => collects_nothing_sat (cancelChild_issues (by decide) ..)
  refine Raises.sat_bind ((collects_nothing_sat (cancellationRequested_issues _ _)).mono
    (fun requested g _ => ?_) fun _ _ _ => trivial)
  split
  · exact hcancel g
  · refine Raises.sat_bind ((collects_nothing_sat (cancellationRequested_issues _ _)).mono
      (fun requested g _ => ?_) fun _ _ _ => trivial)
    split
    · exact hcancel g
    · exact executeChild_sat rt result

theorem executeDiscoveryJob_sat (rt : Runtime) {oa : OwnedJob} {g : SoFar Sid Tid}
    (h : Ready t₀ s₀ σ₀ [] g) :
    Raises.Sat (acquireContract t₀ s₀ σ₀ (some oa.execution)) (executeDiscoveryJob rt oa) g
      (fun _ _ => True) (fun _ _ => True) := by
  have howned : ∀ k ∈ ownedKinds, k.collects = false :=
    fun k hk => worker_collects k (owned_mem hk)
  have hclose : ∀ r (g : SoFar Sid Tid),
      Raises.Sat (acquireContract t₀ s₀ σ₀ (some oa.execution))
        (do rollback; unwrap r) g (fun (_ : Option DiscoveryJobRecord) _ => True)
        (fun _ _ => True) :=
    fun r g => collects_nothing_sat (Raises.all_bind issues_rollback fun _ => issues_unwrap r)
  refine Raises.sat_bind (sat_catching (Raises.Sat.mono (Q := fun _ _ => True)
    (E := fun _ _ => True) (fun _ g _ => hclose _ g) (fun _ g _ => hclose _ g) ?_))
  refine Raises.sat_bind ((ready_reads (get_issues _ _) h).mono (fun job g h => ?_)
    fun _ _ _ => trivial)
  cases job with
  | none => exact Raises.sat_pure trivial
  | some job =>
    dsimp only
    split
    · exact Raises.sat_pure trivial
    · refine Raises.sat_bind ((ready_reads (findTargetById_issues _ _) h).mono
        (fun target g h => ?_) fun _ _ _ => trivial)
      split
      · refine collects_nothing_sat (Raises.all_bind (issues_catching (runScope_issues howned oa))
          fun r => ?_)
        split
        · exact get_issues _ _
        · exact scopeConflict_issues howned ..
        · exact Raises.all_throw _
      · exact Raises.sat_bind ((execute_sat (a := oa.execution) rt h).mono
          (fun _ _ _ => Raises.sat_pure trivial) fun _ _ _ => trivial)

theorem runOwnedJob_sat (rt : Runtime) (tenantId : String) (jobId owner : UUID)
    (leaseSeconds : DateTime) {g : SoFar Sid Tid} (h : Ready t₀ s₀ σ₀ [] g) :
    Raises.Sat (acquireContract t₀ s₀ σ₀
        (WorkerCall.runOwnedJob tenantId jobId owner leaseSeconds).execution)
      (runOwnedJob rt tenantId jobId owner leaseSeconds) g (fun _ _ => True) (fun _ _ => True) := by
  have hafter : ∀ a (r : Except Exn (Option DiscoveryJobRecord)) (g : SoFar Sid Tid),
      Raises.Sat (acquireContract t₀ s₀ σ₀ (some a)) (do
          afterExecution tenantId jobId owner r
          let lost ← ask (.ext .leaseLost)
          doIf (lost = true) (abandonIfOwned tenantId jobId owner)) g
        (fun _ _ => True) (fun _ _ => True) := by
    intro a r g
    refine collects_nothing_sat (Raises.all_bind ?_ fun _ => Raises.all_bind
      (issues_ext _ (by simp)) fun lost => issues_doIf fun _ => abandonIfOwned_issues _ _ _
        fun k hk => worker_collects k (tree_mem hk))
    cases r with
    | ok job => exact Raises.all_pure _
    | error e =>
      exact Raises.all_bind (issues_ext _ (by simp)) fun lost => issues_doIf fun _ =>
        failOwnedJob_issues _ _ _ _ fun k hk => worker_collects k (by simp [workerKinds, hk])
  exact Raises.sat_bind (sat_catching ((executeDiscoveryJob_sat rt h).mono
    (fun _ g _ => hafter _ _ g) fun _ g _ => hafter _ _ g))

/-- Every call keeps the contract of its execution. -/
theorem DiscoveryCall.acquire_sat (rt : Runtime) (c : DiscoveryCall) {g : SoFar Sid Tid}
    (h : Ready t₀ s₀ σ₀ [] g) :
    (c.script rt).Sat (acquireContract t₀ s₀ σ₀ c.execution) g fun _ _ => True := by
  cases c with
  | create a => exact apart_sat (script_stated (create_issues a (by decide)))
  | recordSelection t j s p =>
    exact apart_sat (script_stated (recordSelection_issues t j s p rfl))
  | repository c =>
    exact apart_sat (c.stated (fun k hk => kinds_collects k (by simp [kinds, hk]))
      fun _ _ _ => rfl)
  | worker c =>
    cases c with
    | runOwnedJob t j o l => exact script_sat (runOwnedJob_sat rt t j o l h)
    | executeDiscoveryJob a => exact script_sat (executeDiscoveryJob_sat rt h)
    | execute a => exact script_sat (execute_sat rt h)
    | runChild a o c r => exact script_sat (runChild_sat rt r)
    | heartbeat t j o l n =>
      exact apart_sat (script_stated (heartbeat_issues worker_collects t j o l n))
    | failOwnedJob t j o e =>
      exact apart_sat (script_stated (failOwnedJob_issues t j o e
        fun k hk => worker_collects k (by simp [workerKinds, hk])))
    | recoverExpiredJobs =>
      exact apart_sat (script_stated (recoverExpiredJobs_issues worker_collects))
    | claimQueuedJobs n l =>
      exact apart_sat (script_stated (claimQueuedJobs_issues worker_collects n l))
    | requestCancellation t j b r =>
      exact apart_sat (script_stated (requestCancellation_issues t j b r rfl))
    | commit => exact apart_sat (script_stated (issues_commit rfl))
    | rollback => exact apart_sat (script_stated issues_rollback)

end

/-! ## Runs -/

section

variable {Sid Tid : Type}

/-- Any task runs any call in any session. -/
def callStart (rt : Runtime) (_ : Tid) (_ : Sid) (p : Prog lang Unit) : Prop :=
  ∃ c : DiscoveryCall, p = c.script rt

/-- Every task but `t₀` runs anything, in any session. -/
def besideStart (t₀ : Tid) (t : Tid) (_ : Sid) (_ : Prog lang Unit) : Prop := t ≠ t₀

/-- No claim of the job matches a row, whichever session issues it. -/
def Unclaimable (jobId : UUID) (σ : Store schema Sid) : Prop :=
  ∀ s tenantId owner leaseSeconds now, ∀ r ∈ (seenJobs σ s).rows,
    (claimUpdate tenantId jobId owner leaseSeconds now).filter r = false

/-- The collector a task is about to call is one for job `jobId`. -/
def AboutToCollect (σ : Discovering Sid Tid) (t : Tid) (jobId : UUID) : Prop :=
  ∃ k, (σ.task t).prog = .stmt (.ext (.callCollector jobId)) k

variable [DecidableEq Sid] [DecidableEq Tid]

/-- In a run that starts with created jobs, a committed job counts at most one attempt, and once
it has left the queue it keeps its attempts and cannot be claimed. -/
theorem attempts_at_most_one {rt : Runtime} {σ₀ σ₁ σ₂ : Discovering Sid Tid}
    (h₀ : σ₀.Initial (callStart rt)) (hjobs : JobsCreated σ₀)
    (h₁ : Sys.Steps (callStart rt) (fun _ _ _ => True) σ₀ σ₁)
    (h₂ : Sys.Steps (callStart rt) (fun _ _ _ => True) σ₁ σ₂) {jobId : UUID}
    {r : DiscoveryJobRecord} (hr : (σ₁.store.db .jobs).get jobId = some r) :
    r.attempts ≤ 1 ∧ (r.state ≠ .queued → Unclaimable jobId σ₂.store ∧
      ∃ r', (σ₂.store.db .jobs).get jobId = some r' ∧ r'.attempts = r.attempts) := by
  have hstart : ∀ (t : Tid) (s : Sid) p, callStart rt t s p →
      p.All (Issued fun k => k.notQueued = true) := by
    rintro t s p ⟨c, rfl⟩
    exact c.issued kinds_notQueued (fun _ => rfl) rt fun a _ ha => by
      simpa [Kind.notQueued] using ha
  have hcount : σ₁.store.Holds (JobPred AttemptsCount) := by
    refine jobs_hold (fun _ _ _ => ⟨Nat.zero_le 1, fun _ => rfl⟩) hstart
      (fun σ t u hu hA _ r _ hf h => hu.attemptsCount hA hf h) h₀ (fun k r hr => ?_) h₁
    obtain ⟨a, id, now, rfl⟩ := hjobs k r hr
    exact ⟨Nat.zero_le 1, fun _ => rfl⟩
  refine ⟨(hcount.db .jobs jobId r hr).1, fun hne => ?_⟩
  have hrefl : ∀ r, LeftQueue r r := fun r h => ⟨h, rfl⟩
  obtain ⟨hinv, hgrew⟩ := jobs_inv hrefl LeftQueue.trans hstart
    (fun σ t u hu hA _ r _ hf => hu.leftQueue hA hf) h₀ h₁ h₂
  obtain ⟨r', hr', hleft⟩ := hgrew .jobs jobId r hr
  obtain ⟨hne', hatt⟩ := hleft hne
  refine ⟨fun s tenantId owner leaseSeconds now v hv => ?_, r', hr', hatt⟩
  by_cases hid : v.id = jobId
  · have hget : (seenJobs σ₂.store s).get jobId = some v := by
      rw [← hid]
      exact Tbl.mem_rows.1 hv
    exact claimUpdate_filter (seen_keeps hrefl hinv hr' hget hne').1 ..
  · simp [claimUpdate, hid]

/-- A call is about to call a collector for the job of its execution only, once it has acquired that
job. -/
theorem collects_acquired {rt : Runtime} {c : DiscoveryCall} {t₀ : Tid} {s₀ : Sid}
    {σ₀ σ₁ : Discovering Sid Tid} {es : List (Happened Sid Tid)}
    (h₀ : σ₀.task t₀ = ⟨s₀, c.script rt⟩)
    (h₁ : Sys.Runs (besideStart t₀) (fun _ _ _ => True) σ₀ es σ₁) {jobId : UUID}
    (hcollect : AboutToCollect σ₁ t₀ jobId) :
    ∃ a, c.execution = some a ∧ jobId = a.jobId ∧ Acquired t₀ s₀ σ₀.store a es := by
  have hready : Ready t₀ s₀ σ₀.store [] (σ₀.store, ([] : List (Happened Sid Tid))) :=
    ⟨List.nil_sublist _, fun hown => ⟨hown.log _, hown.dirty⟩⟩
  obtain ⟨p, hp, hsat⟩ := h₁.sat (C := acquireContract t₀ s₀ σ₀.store c.execution)
    (Q := fun _ => True) (K := fun _ => True) (fun es σ => (σ.store, es)) (fun _ _ hp => hp rfl)
    (fun _ _ _ _ _ _ _ _ _ he => ⟨he, rfl⟩)
    (fun _ g => ⟨[], by simp⟩)
    (fun _ g g' g'' h h' => by
      obtain ⟨es, he, hothers, hsame⟩ := h
      obtain ⟨es', he', hothers', hsame'⟩ := h'
      refine ⟨es ++ es', by rw [he', he, List.append_assoc], ?_, fun hs => ?_⟩
      · exact fun e hmem => (List.mem_append.1 hmem).elim (hothers e) (hothers' e)
      · obtain ⟨hlog, hdirty⟩ := hsame fun e hmem => hs e (List.mem_append_left _ hmem)
        obtain ⟨hlog', hdirty'⟩ := hsame' fun e hmem => hs e (List.mem_append_right _ hmem)
        exact ⟨hlog'.trans hlog, hdirty'.trans hdirty⟩)
    (fun es σ t s c k r store' _ htt ht _ he => by
      refine ⟨fun _ => ⟨[⟨t, s, c, r, σ.store, store'⟩], rfl, by simpa using htt, fun hs => ?_⟩, id⟩
      have hne : s ≠ s₀ := by simpa using hs
      exact ⟨he.log_of_ne hne.symm, he.dirty_of_ne hne.symm⟩)
    (fun _ _ _ _ _ _ _ _ _ _ => ⟨fun _ => ⟨[], by simp⟩, id⟩)
    (fun _ _ => trivial) h₀ (c.acquire_sat rt hready)
  obtain ⟨k, hk⟩ := hcollect
  rw [hp] at hk
  dsimp only at hk
  subst hk
  exact (hsat (σ₁.store, es) ⟨[], by simp⟩).1 jobId rfl

/-- Network work at most once. In every run that starts with created jobs a job counts at most
one claim, and is never claimed again. In every run beside any other programs, a call of the
worker, of the API or of a fan-out that is about to call a collector for a job has claimed that
job before, or has read it as its own. -/
theorem claimed_at_most_once (rt : Runtime) :
    (∀ σ₀ σ₁ σ₂ : Discovering Sid Tid, σ₀.Initial (callStart rt) → JobsCreated σ₀ →
      Sys.Steps (callStart rt) (fun _ _ _ => True) σ₀ σ₁ →
      Sys.Steps (callStart rt) (fun _ _ _ => True) σ₁ σ₂ →
      ∀ jobId r, (σ₁.store.db .jobs).get jobId = some r →
        r.attempts ≤ 1 ∧ (r.state ≠ .queued → Unclaimable jobId σ₂.store ∧
          ∃ r', (σ₂.store.db .jobs).get jobId = some r' ∧ r'.attempts = r.attempts)) ∧
    ∀ (c : DiscoveryCall) (t₀ : Tid) (s₀ : Sid) (σ₀ σ₁ : Discovering Sid Tid)
      (es : List (Happened Sid Tid)), σ₀.task t₀ = ⟨s₀, c.script rt⟩ →
      Sys.Runs (besideStart t₀) (fun _ _ _ => True) σ₀ es σ₁ →
      ∀ jobId, AboutToCollect σ₁ t₀ jobId →
        ∃ a, c.execution = some a ∧ jobId = a.jobId ∧ Acquired t₀ s₀ σ₀.store a es :=
  ⟨fun _ _ _ h₀ hjobs h₁ h₂ _ _ hr => attempts_at_most_one h₀ hjobs h₁ h₂ hr,
    fun _ _ _ _ _ _ h₀ h₁ _ hc => collects_acquired h₀ h₁ hc⟩

end

section

open Samples

/-- A collector that reports nothing. -/
def labCollector : Collector where
  name := "lab"
  capabilities := []
  parser := none
  healthCheck _ := .done (.ok ())
  collect _ := .done (.ok [])
  normalize _ _ := .ok false

def labRuntime : Runtime := ⟨⟨[("lab", labCollector)]⟩, id⟩

/-- Session 0 works on the child while session 1 claims the same child and commits; the last task
commits session `last`. -/
def rivalCalls (work : WorkerCall) (last : Fin 2) : Fin 4 → Fin 2 × DiscoveryCall
  | 0 => ⟨⟨0, Nat.two_pos⟩, .worker work⟩
  | 1 => ⟨⟨1, Nat.one_lt_two⟩, .repository (.claim tenant 22 (some worker) 100)⟩
  | 2 => ⟨⟨1, Nat.one_lt_two⟩, .repository .commit⟩
  | 3 => ⟨last, .repository .commit⟩

def rivalRun (work : WorkerCall) (last : Fin 2) : Discovering (Fin 2) (Fin 4) where
  store := store (tables [scopeJob, deviceJob] [deviceResult])
  task t := ⟨(rivalCalls work last t).1, (rivalCalls work last t).2.script labRuntime⟩

def rivalMove (t : Fin 4) (count : Nat) : Sys.Move Discovery.world (Fin 4) :=
  ⟨t, count, Samples.world 10 41⟩

/-- An execution that makes up its owner. -/
def looseExecution : ExecuteArgs := { tenantId := tenant, jobId := 22 }

/-- The scope of the child. -/
def scopeArgs : ScopeArgs where
  tenantId := tenant
  parentJobId := 21
  executionOwner := some worker

/-- The job of the collector the program is about to call. -/
def collecting : Prog lang Unit → Option UUID
  | .stmt (.ext (.callCollector jobId)) _ => some jobId
  | _ => none

theorem aboutToCollect_of {Sid Tid : Type} {σ : Discovering Sid Tid} {t : Tid} {jobId : UUID}
    (h : collecting (σ.task t).prog = some jobId) : AboutToCollect σ t jobId := by
  unfold collecting at h
  split at h
  · rename_i j k hp
    cases h
    exact ⟨k, hp⟩
  · cases h

/-- The rival's claim comes between the read and the claim of the execution, and again after its
commit. -/
def executionMoves (executing rival : Fin 4) : List (Sys.Move Discovery.world (Fin 4)) :=
  [rivalMove executing 3, rivalMove rival 2, rivalMove executing 4, rivalMove rival 2,
    rivalMove executing 9]

/-- Another coroutine of the session commits between the claim of the child and its own commit. -/
def coroutineMoves (executing other : Fin 4) : List (Sys.Move Discovery.world (Fin 4)) :=
  [rivalMove executing 13, rivalMove other 1, rivalMove executing 13]

/-- The claimed child counts one attempt and cannot be claimed again; an execution with a session
of its own, and a child of a scope in a session it shares, have claimed it when they are about to
call the collector. -/
theorem claimed_at_most_once_claimed :
    (∃ σ₁ r, claimRun.runs (fun _ _ _ => True) claimMoves = some σ₁ ∧
      (σ₁.store.db .jobs).get 22 = some r ∧ r.attempts = 1 ∧ Unclaimable 22 σ₁.store) ∧
    (∃ (σ₁ : Discovering (Fin 2) (Fin 4)) (es : List (Happened (Fin 2) (Fin 4))) (owner : UUID),
      Sys.Runs (besideStart 0) (fun _ _ _ => True) (rivalRun (.execute looseExecution) 1) es σ₁ ∧
        AboutToCollect σ₁ 0 22 ∧ Obtained looseExecution owner (issuedBy 0 es) ∧
        ∃ e ∈ es, e.task = 0 ∧ HeldBy 22 owner e.after) ∧
    ∃ (σ₁ : Discovering (Fin 2) (Fin 4)) (es : List (Happened (Fin 2) (Fin 4))),
      Sys.Runs (besideStart 0) (fun _ _ _ => True)
        (rivalRun (.runChild scopeArgs worker deviceJob deviceResult) 0) es σ₁ ∧
        AboutToCollect σ₁ 0 22 ∧
        Obtained (scopeArgs.execution worker deviceJob) worker (issuedBy 0 es) := by
  have h₀ : claimRun.Initial (callStart noCollectors) :=
    ⟨fun _ _ => rfl, fun _ => rfl, fun t => match t with
      | 0 => .inr ⟨.repository (.claim tenant 22 (some worker) 100), rfl⟩
      | 1 => .inr ⟨.repository .commit, rfl⟩⟩
  refine ⟨?_, ?_, ?_⟩
  · obtain ⟨σ₁, h₁, hs⟩ := Option.map_eq_some_iff.1
      (by decide : (claimRun.runs (fun _ _ _ => True) claimMoves).map
        (fun σ => ((σ.store.db .jobs).get 22).map fun r => (r.state, r.attempts))
          = some (some (.running, 1)))
    obtain ⟨r, hr, hrun⟩ := Option.map_eq_some_iff.1 hs
    obtain ⟨hstate, hatt⟩ := Prod.mk.inj hrun
    obtain ⟨_, hleft⟩ := (claimed_at_most_once noCollectors).1 claimRun σ₁ σ₁ h₀ claimRun_created
      (Sys.runs_steps h₁) .refl 22 r hr
    exact ⟨σ₁, r, h₁, hr, hatt, (hleft (by simp [hstate])).1⟩
  · obtain ⟨σ₁, h₁, hs⟩ := Option.map_eq_some_iff.1
      (by decide : ((rivalRun (.execute looseExecution) 1).runs (fun _ _ _ => True)
        (executionMoves 0 1)).map (fun σ => collecting (σ.task 0).prog) = some (some 22))
    have hsteps : Sys.Steps (fun _ _ _ => False) (fun _ _ _ => True)
        (rivalRun (.execute looseExecution) 1) σ₁ := Sys.runs_steps h₁
    obtain ⟨es, hrun⟩ := hsteps.runs
    have halone : ∀ e ∈ es, e.sid = 0 → e.task = 0 :=
      (hrun.session_of (fun _ _ _ h => h.elim) (by decide)).1
    have hbeside : Sys.Runs (besideStart 0) (fun _ _ _ => True)
        (rivalRun (.execute looseExecution) 1) es σ₁ := hrun.mono fun _ _ _ h => h.elim
    obtain ⟨a, ha, _, owner, _, hobtained, hheld⟩ := (claimed_at_most_once labRuntime).2
      (.worker (.execute looseExecution)) 0 0 _ σ₁ es rfl hbeside 22 (aboutToCollect_of hs)
    cases ha
    exact ⟨σ₁, es, owner, hbeside, aboutToCollect_of hs, hobtained,
      hheld ⟨fun _ => rfl, rfl, halone⟩⟩
  · obtain ⟨σ₁, h₁, hs⟩ := Option.map_eq_some_iff.1
      (by decide : ((rivalRun (.runChild scopeArgs worker deviceJob deviceResult) 0).runs
        (fun _ _ _ => True) (coroutineMoves 0 3)).map (fun σ => collecting (σ.task 0).prog)
          = some (some 22))
    have hsteps : Sys.Steps (besideStart 0) (fun _ _ _ => True)
        (rivalRun (.runChild scopeArgs worker deviceJob deviceResult) 0) σ₁ := Sys.runs_steps h₁
    obtain ⟨es, hrun⟩ := hsteps.runs
    obtain ⟨a, ha, _, owner, howner, hobtained, _⟩ := (claimed_at_most_once labRuntime).2
      (.worker (.runChild scopeArgs worker deviceJob deviceResult)) 0 0 _ σ₁ es rfl hrun 22
      (aboutToCollect_of hs)
    cases ha
    rw [howner worker rfl] at hobtained
    exact ⟨σ₁, es, hrun, aboutToCollect_of hs, hobtained⟩

end

end Discovery
end NetOps
