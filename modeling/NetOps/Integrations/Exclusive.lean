import NetOps.Integrations.NetBoxSync

/-!
# Integrations.Exclusive

When the synchronisation with NetBox is exclusive and truthful, under any interleaving of requests
and background tasks, any choice of connections, and calls that raise.

* `fails_inv`, `fails_beside`: a statement that raises keeps the invariant, and the others their
  connections, their critical section and their jobs.
* `sat_synchronizeInventory`, `sat_runNetboxSyncBackground`: a request is in its critical section
  when it creates a job; a background task marks its job as its snapshot is.
* `sync_exclusive`: if every unlock is on the connection that has the lock, and nothing raises
  between the commit of a snapshot and the end of its task, then in every state at most one job is
  active, no ended request has the lock, and every finished job says what became of its snapshot.
-/

namespace NetOps
namespace Integrations

open Conc Conc.Raises History
open Discovery (UUID)

variable {Tid Conn : Type} {i j : Tid} {g g' : World Tid Conn} {job : UUID}

/-! ## What is known of the world -/

/-- The transaction of the task is on the connection that it took the lock on. -/
def Critical (i : Tid) (g : World Tid Conn) : Prop := ∃ c, g.conn i = some c ∧ g.took i = some c

/-- All holds of the lock are on one connection, each for a task that is not ended and that has this
connection in its transaction, or none; no connection is in two transactions. -/
structure LockInv (g : World Tid Conn) : Prop where
  single : ∀ i j c c', g.took i = some c → g.took j = some c' → c = c'
  session : ∀ i j c, g.conn i = some c → g.conn j = some c → i = j
  held : ∀ i c, g.took i = some c → g.conn i = none ∨ g.conn i = some c
  serving : ∀ i c, g.took i = some c → g.serving i = true

/-- At most one job is active, and the finished ones say what became of their snapshots; a job is
with nobody before it is there, and while it waits for its background task. -/
structure JobInv (g : World Tid Conn) : Prop where
  active : ∀ job job', g.Active job → g.Active job' → job = job'
  succeeded : ∀ job, g.jobs job = some .succeeded → g.snapshots job = true
  failed : ∀ job, g.jobs job = some .failed → g.snapshots job = false
  unborn : ∀ job, g.jobs job = none → g.holder job = none ∧ g.snapshots job = false
  waiting : ∀ job, g.waiting job = true → g.holder job = none ∧ g.jobs job = some .queued ∧
    g.snapshots job = false

def SyncInv (g : World Tid Conn) : Prop := LockInv g ∧ JobInv g

theorem SyncInv.synchronised (hinv : SyncInv g) : g.Synchronised := by
  refine ⟨hinv.2.active, hinv.1.serving, fun job status hstatus hended => ?_⟩
  cases status with
  | queued => exact (hended trivial).elim
  | running => exact (hended trivial).elim
  | succeeded => exact iff_of_true rfl (hinv.2.succeeded job hstatus)
  | failed => exact iff_of_false (by decide) (by rw [hinv.2.failed job hstatus]; decide)

/-- What other tasks do to a task. -/
structure Beside (i : Tid) (g g' : World Tid Conn) : Prop where
  conn : g'.conn i = g.conn i
  broken : g'.broken i = g.broken i
  serving : g'.serving i = g.serving i
  took : g'.took i = g.took i ∨ (g'.took i = none ∧ g.conn i = none)
  idle : Critical i g → (∀ job, ¬ g.Active job) → ∀ job, ¬ g'.Active job
  mine : ∀ job, g.holder job = some i → g'.holder job = some i ∧ g'.jobs job = g.jobs job ∧
    g'.snapshots job = g.snapshots job

theorem Critical.stays (h : Critical i g) (hbeside : Beside i g g') : Critical i g' := by
  obtain ⟨c, hconn, htook⟩ := h
  refine ⟨c, hbeside.conn.trans hconn, ?_⟩
  rcases hbeside.took with hsame | ⟨_, hnone⟩
  · exact hsame.trans htook
  · rw [hconn] at hnone
    cases hnone

theorem Beside.refl : Beside i g g :=
  ⟨rfl, rfl, rfl, .inl rfl, fun _ h => h, fun _ h => ⟨h, rfl, rfl⟩⟩

theorem Beside.trans {g'' : World Tid Conn} (h : Beside i g g') (h' : Beside i g' g'') :
    Beside i g g'' where
  conn := h'.conn.trans h.conn
  broken := h'.broken.trans h.broken
  serving := h'.serving.trans h.serving
  took := by
    rcases h'.took with hsame | ⟨hnone, hconn⟩
    · rw [hsame]
      exact h.took
    · exact .inr ⟨hnone, h.conn.symm.trans hconn⟩
  idle hcritical hidle := h'.idle (hcritical.stays h) (h.idle hcritical hidle)
  mine job hholder := by
    obtain ⟨hholder', hjobs, hsnapshots⟩ := h.mine job hholder
    obtain ⟨hholder'', hjobs', hsnapshots'⟩ := h'.mine job hholder'
    exact ⟨hholder'', hjobs'.trans hjobs, hsnapshots'.trans hsnapshots⟩

/-- What a task goes on knowing. -/
def Steady (i : Tid) (R : World Tid Conn → Prop) : Prop := ∀ g g', Beside i g g' → R g → R g'

/-- The session of the task has no lock. -/
def Free (i : Tid) (g : World Tid Conn) : Prop := g.took i = none

/-- The task has the job, with this status, and with a snapshot or without. -/
def Has (i : Tid) (job : UUID) (status : SyncStatus) (snapshot : Bool) (g : World Tid Conn) :
    Prop :=
  g.holder job = some i ∧ g.jobs job = some status ∧ g.snapshots job = snapshot

theorem steady_free : Steady i (Free i : World Tid Conn → Prop) := by
  intro g g' hbeside hfree
  rcases hbeside.took with hsame | ⟨hnone, _⟩
  · exact hsame.trans hfree
  · exact hnone

theorem steady_has {status : SyncStatus} {snapshot : Bool} :
    Steady i (Has i job status snapshot : World Tid Conn → Prop) := by
  rintro g g' hbeside ⟨hholder, hjobs, hsnapshots⟩
  obtain ⟨hholder', hjobs', hsnapshots'⟩ := hbeside.mine job hholder
  exact ⟨hholder', hjobs'.trans hjobs, hsnapshots'.trans hsnapshots⟩

theorem Steady.and {R R' : World Tid Conn → Prop} (h : Steady i R) (h' : Steady i R') :
    Steady i fun g => R g ∧ R' g :=
  fun g g' hbeside hr => ⟨h g g' hbeside hr.1, h' g g' hbeside hr.2⟩

theorem Steady.or {R R' : World Tid Conn → Prop} (h : Steady i R) (h' : Steady i R') :
    Steady i fun g => R g ∨ R' g :=
  fun g g' hbeside hr => hr.imp (h g g' hbeside) (h' g g' hbeside)

/-! ## What the statements keep -/

/-- Connections that are returned and locks that are released leave the rest as it is. -/
theorem LockInv.shrinks (hinv : LockInv g) (hconn : ∀ j c, g'.conn j = some c → g.conn j = some c)
    (htook : ∀ j c, g'.took j = some c → g.took j = some c ∧ g'.serving j = g.serving j) :
    LockInv g' where
  single i j c c' hi hj := hinv.single i j c c' (htook i c hi).1 (htook j c' hj).1
  session i j c hi hj := hinv.session i j c (hconn i c hi) (hconn j c hj)
  held i c hi := by
    cases hnow : g'.conn i with
    | none => exact .inl rfl
    | some c' =>
      have hbefore := hconn i c' hnow
      rcases hinv.held i c (htook i c hi).1 with hnone | hsome
      · rw [hnone] at hbefore
        cases hbefore
      · exact .inr (hbefore.symm.trans hsome)
  serving i c hi := (htook i c hi).2.trans (hinv.serving i c (htook i c hi).1)

/-- A session gets a connection, if it holds the lock on no other. -/
theorem LockInv.uses [DecidableEq Tid] {c : Conn} (hinv : LockInv g) (havailable : g.Available i c)
    (hsame : ∀ c', g.took i = some c' → c' = c) : LockInv (g.uses i c) where
  single := hinv.single
  session j k c' hj hk := by
    have hother : ∀ l, l ≠ i → g.conn l ≠ some c := by
      intro l hl hconn
      rcases havailable with hown | ⟨_, hnobody⟩
      · exact hl (hinv.session l i c hconn hown)
      · exact hnobody l hconn
    change Function.update g.conn i (some c) j = some c' at hj
    change Function.update g.conn i (some c) k = some c' at hk
    rw [Function.update_apply] at hj hk
    split at hj <;> split at hk
    · subst_vars
      rfl
    · cases hj
      exact (hother k ‹_› hk).elim
    · cases hk
      exact (hother j ‹_› hj).elim
    · exact hinv.session j k c' hj hk
  held j c' hj := by
    show Function.update g.conn i (some c) j = none ∨ Function.update g.conn i (some c) j = some c'
    rw [Function.update_apply]
    split
    · subst_vars
      rw [hsame c' hj]
      exact .inr rfl
    · exact hinv.held j c' hj
  serving := hinv.serving

theorem JobInv.congr (hinv : JobInv g) (hjobs : g'.jobs = g.jobs)
    (hsnapshots : g'.snapshots = g.snapshots) (hholder : g'.holder = g.holder)
    (hwaiting : g'.waiting = g.waiting) : JobInv g' := by
  have hactive : ∀ job, g'.Active job ↔ g.Active job := by
    intro job
    unfold World.Active
    rw [hjobs]
  refine ⟨?_, ?_, ?_, ?_, ?_⟩
  · exact fun job job' h h' => hinv.active job job' ((hactive job).1 h) ((hactive job').1 h')
  · rw [hjobs, hsnapshots]
    exact hinv.succeeded
  · rw [hjobs, hsnapshots]
    exact hinv.failed
  · rw [hjobs, hsnapshots, hholder]
    exact hinv.unborn
  · rw [hjobs, hsnapshots, hholder, hwaiting]
    exact hinv.waiting

/-- A statement that leaves the jobs as they are. -/
theorem Beside.of_jobs (hconn : g'.conn j = g.conn j) (hbroken : g'.broken j = g.broken j)
    (hserving : g'.serving j = g.serving j)
    (htook : g'.took j = g.took j ∨ (g'.took j = none ∧ g.conn j = none))
    (hjobs : g'.jobs = g.jobs) (hsnapshots : g'.snapshots = g.snapshots)
    (hholder : g'.holder = g.holder) : Beside j g g' where
  conn := hconn
  broken := hbroken
  serving := hserving
  took := htook
  idle _ hidle job := by
    unfold World.Active
    rw [hjobs]
    exact hidle job
  mine job hmine := by
    rw [hjobs, hsnapshots, hholder]
    exact ⟨hmine, rfl, rfl⟩

section Fails

variable [DecidableEq Tid] [DecidableEq Conn] {e : Raised}

@[simp] theorem fails_jobs : (g.fails i e).jobs = g.jobs := by
  unfold World.fails
  split <;> rfl

@[simp] theorem fails_snapshots : (g.fails i e).snapshots = g.snapshots := by
  unfold World.fails
  split <;> rfl

@[simp] theorem fails_holder : (g.fails i e).holder = g.holder := by
  unfold World.fails
  split <;> rfl

@[simp] theorem fails_waiting : (g.fails i e).waiting = g.waiting := by
  unfold World.fails
  split <;> rfl

@[simp] theorem fails_serving : (g.fails i e).serving = g.serving := by
  unfold World.fails
  split <;> rfl

theorem fails_conn (hj : j ≠ i) : (g.fails i e).conn j = g.conn j := by
  unfold World.fails
  split
  · exact Function.update_of_ne hj ..
  · rfl

theorem fails_broken (hj : j ≠ i) : (g.fails i e).broken j = g.broken j := by
  unfold World.fails
  split <;> exact Function.update_of_ne hj ..

theorem fails_took : (g.fails i e).took j = g.took j ∨
    ((g.fails i e).took j = none ∧ g.took j = g.conn i) := by
  unfold World.fails
  split
  · dsimp only
    split
    · exact .inr ⟨rfl, ‹_›⟩
    · exact .inl rfl
  · exact .inl rfl

theorem fails_inv (hinv : SyncInv g) : SyncInv (g.fails i e) := by
  refine ⟨hinv.1.shrinks (fun j c hconn => ?_) (fun j c htook => ⟨?_, by rw [fails_serving]⟩),
    hinv.2.congr fails_jobs fails_snapshots fails_holder fails_waiting⟩
  · by_cases hj : j = i
    · subst hj
      unfold World.fails at hconn
      split at hconn
      · change Function.update g.conn j none j = some c at hconn
        rw [Function.update_self] at hconn
        cases hconn
      · exact hconn
    · rwa [fails_conn hj] at hconn
  · rcases (fails_took : (g.fails i e).took j = _ ∨ _) with hsame | ⟨hnone, _⟩
    · rwa [hsame] at htook
    · rw [hnone] at htook
      cases htook

theorem fails_beside (hinv : SyncInv g) (hj : j ≠ i) : Beside j g (g.fails i e) := by
  refine .of_jobs (fails_conn hj) (fails_broken hj) (by rw [fails_serving]) ?_ fails_jobs
    fails_snapshots fails_holder
  rcases (fails_took : (g.fails i e).took j = _ ∨ _) with hsame | ⟨hnone, hlost⟩
  · exact .inl hsame
  cases htook : g.took j with
  | none => exact .inl hnone
  | some c =>
    -- The connection of the session of `i` is in no other transaction.
    refine .inr ⟨hnone, ?_⟩
    rw [htook] at hlost
    rcases hinv.1.held j c htook with hconn | hconn
    · exact hconn
    · exact (hj (hinv.1.session j i c hconn hlost.symm)).elim

end Fails

variable {status : SyncStatus}

theorem ends_inv [DecidableEq Tid] (hinv : SyncInv g) : SyncInv (g.ends i) := by
  refine ⟨hinv.1.shrinks (fun j c hconn => ?_) fun j c htook => ⟨htook, rfl⟩,
    hinv.2.congr rfl rfl rfl rfl⟩
  change Function.update g.conn i none j = some c at hconn
  rw [Function.update_apply] at hconn
  split at hconn
  · cases hconn
  · exact hconn

theorem ends_beside [DecidableEq Tid] (hj : j ≠ i) : Beside j g (g.ends i) :=
  .of_jobs (Function.update_of_ne hj ..) (Function.update_of_ne hj ..) rfl (.inl rfl) rfl rfl rfl

theorem creates_inv (hinv : SyncInv g) (hidle : ∀ job, ¬ g.Active job) (hnew : g.jobs job = none) :
    SyncInv (g.creates i job) := by
  have hjobs : ∀ other, (g.creates i job).jobs other =
      if other = job then some .queued else g.jobs other := fun _ => Function.update_apply ..
  have hholder : ∀ other, (g.creates i job).holder other =
      if other = job then some i else g.holder other := fun _ => Function.update_apply ..
  have honly : ∀ other, (g.creates i job).Active other → other = job := by
    rintro other ⟨status, hstatus, hactive⟩
    by_contra hne
    rw [hjobs, if_neg hne] at hstatus
    exact hidle other ⟨status, hstatus, hactive⟩
  refine ⟨⟨hinv.1.single, hinv.1.session, hinv.1.held, hinv.1.serving⟩, ?_, ?_, ?_, ?_, ?_⟩
  · exact fun other other' h h' => (honly other h).trans (honly other' h').symm
  · intro other hsucceeded
    rw [hjobs] at hsucceeded
    split at hsucceeded
    · cases hsucceeded
    · exact hinv.2.succeeded other hsucceeded
  · intro other hfailed
    rw [hjobs] at hfailed
    split at hfailed
    · cases hfailed
    · exact hinv.2.failed other hfailed
  · intro other hnone
    rw [hjobs] at hnone
    split at hnone
    · cases hnone
    · rw [hholder, if_neg ‹_›]
      exact hinv.2.unborn other hnone
  · intro other hwaiting
    obtain ⟨hfree, hqueued, hsnapshots⟩ := hinv.2.waiting other hwaiting
    have hne : other ≠ job := by
      rintro rfl
      rw [hnew] at hqueued
      cases hqueued
    rw [hholder, hjobs, if_neg hne, if_neg hne]
    exact ⟨hfree, hqueued, hsnapshots⟩

/-- A task whose transaction is on the connection that has the lock is the only one. -/
theorem Critical.unique (hinv : SyncInv g) (hi : Critical i g) (hj : Critical j g) : i = j := by
  obtain ⟨c, hconn, htook⟩ := hi
  obtain ⟨c', hconn', htook'⟩ := hj
  obtain rfl := hinv.1.single i j c c' htook htook'
  exact hinv.1.session i j c hconn hconn'

theorem creates_beside (hinv : SyncInv g) (hcritical : Critical i g) (hnew : g.jobs job = none)
    (hj : j ≠ i) : Beside j g (g.creates i job) where
  conn := rfl
  broken := rfl
  serving := rfl
  took := .inl rfl
  idle h := (hj (h.unique hinv hcritical)).elim
  mine other hmine := by
    have hne : other ≠ job := by
      rintro rfl
      rw [(hinv.2.unborn other hnew).1] at hmine
      cases hmine
    exact ⟨(Function.update_of_ne hne ..).trans hmine, Function.update_of_ne hne .., rfl⟩

theorem stores_active (hactive : status.Active → g.Active job) {other : UUID}
    (h : (g.stores job status).Active other) : g.Active other := by
  obtain ⟨status', hstatus, hactive'⟩ := h
  change Function.update g.jobs job (some status) other = some status' at hstatus
  rw [Function.update_apply] at hstatus
  split at hstatus
  · cases hstatus
    subst_vars
    exact hactive hactive'
  · exact ⟨status', hstatus, hactive'⟩

theorem stores_inv (hinv : SyncInv g) (hmine : g.holder job = some i)
    (hactive : status.Active → g.Active job)
    (hsucceeded : status = .succeeded → g.snapshots job = true)
    (hfailed : status = .failed → g.snapshots job = false) : SyncInv (g.stores job status) := by
  have hjobs : ∀ other, (g.stores job status).jobs other =
      if other = job then some status else g.jobs other := fun _ => Function.update_apply ..
  refine ⟨⟨hinv.1.single, hinv.1.session, hinv.1.held, hinv.1.serving⟩, ?_, ?_, ?_, ?_, ?_⟩
  · exact fun other other' h h' =>
      hinv.2.active other other' (stores_active hactive h) (stores_active hactive h')
  · intro other hstatus
    rw [hjobs] at hstatus
    split at hstatus
    · cases hstatus
      subst_vars
      exact hsucceeded rfl
    · exact hinv.2.succeeded other hstatus
  · intro other hstatus
    rw [hjobs] at hstatus
    split at hstatus
    · cases hstatus
      subst_vars
      exact hfailed rfl
    · exact hinv.2.failed other hstatus
  · intro other hnone
    rw [hjobs] at hnone
    split at hnone
    · cases hnone
    · exact hinv.2.unborn other hnone
  · intro other hwaiting
    obtain ⟨hfree, hqueued, hsnapshots⟩ := hinv.2.waiting other hwaiting
    have hne : other ≠ job := by
      rintro rfl
      rw [hmine] at hfree
      cases hfree
    refine ⟨hfree, ?_, hsnapshots⟩
    rw [hjobs, if_neg hne]
    exact hqueued

theorem stores_beside (hmine : g.holder job = some i) (hactive : status.Active → g.Active job)
    (hj : j ≠ i) : Beside j g (g.stores job status) where
  conn := rfl
  broken := rfl
  serving := rfl
  took := .inl rfl
  idle _ hidle other h := hidle other (stores_active hactive h)
  mine other hother := by
    have hne : other ≠ job := by
      rintro rfl
      rw [hmine] at hother
      cases hother
      exact hj rfl
    exact ⟨hother, Function.update_of_ne hne .., rfl⟩

theorem snaps_inv (hinv : SyncInv g) (hmine : g.holder job = some i) (hactive : g.Active job) :
    SyncInv (g.snaps job) := by
  have hsnapshots : ∀ other, (g.snaps job).snapshots other =
      if other = job then true else g.snapshots other := fun _ => Function.update_apply ..
  refine ⟨⟨hinv.1.single, hinv.1.session, hinv.1.held, hinv.1.serving⟩, hinv.2.active,
    fun other hstatus => ?_, fun other hstatus => ?_, fun other hnone => ?_,
    fun other hwaiting => ?_⟩
  · rw [hsnapshots]
    split
    · rfl
    · exact hinv.2.succeeded other hstatus
  · rw [hsnapshots]
    split
    · obtain ⟨status, hrunning, h⟩ := hactive
      subst_vars
      cases hrunning.symm.trans hstatus
      exact h.elim
    · exact hinv.2.failed other hstatus
  · have hne : other ≠ job := by
      rintro rfl
      rw [(hinv.2.unborn other hnone).1] at hmine
      cases hmine
    rw [hsnapshots, if_neg hne]
    exact hinv.2.unborn other hnone
  · have hne : other ≠ job := by
      rintro rfl
      rw [(hinv.2.waiting other hwaiting).1] at hmine
      cases hmine
    rw [hsnapshots, if_neg hne]
    exact hinv.2.waiting other hwaiting

theorem snaps_beside (hmine : g.holder job = some i) (hj : j ≠ i) : Beside j g (g.snaps job) where
  conn := rfl
  broken := rfl
  serving := rfl
  took := .inl rfl
  idle _ hidle := hidle
  mine other hother := by
    have hne : other ≠ job := by
      rintro rfl
      rw [hmine] at hother
      cases hother
      exact hj rfl
    exact ⟨hother, rfl, Function.update_of_ne hne ..⟩

/-! ## A step -/

/-- What a task knows when it issues a statement. -/
def Guarantees (i : Tid) (g : World Tid Conn) : Stmt → Prop
  | .lock => Free i g ∧ g.conn i = none ∧ g.serving i = true
  | .findActive => Critical i g ∨ Free i g
  | .createJob => Critical i g ∧ ∀ job, ¬ g.Active job
  | .addTask job => Has i job .queued false g
  | .commitStatus _ .queued => False
  | .commitStatus job .running => Has i job .queued false g
  | .commitStatus job .succeeded => Has i job .running true g
  | .commitStatus job .failed => g.holder job = some i ∧
      (g.snapshots job = false ∨ g.broken i = true)
  | .addSnapshot job => Has i job .running false g
  | .close => Free i g
  | _ => True

/-- The lock is released where it was taken, and no request goes on without it; nothing raises
between the commit of a snapshot and the end of its task, but what leaves the session broken. -/
def Orderly (i : Tid) (g : World Tid Conn) : (s : Stmt) → s.Resp → Prop
  | .lock, .error e => e.operational = true → (e.broken = true ∨ e.lost = true)
  | .unlock, .ok released => g.took i = none ∨ released = true
  | .unlock, .error e => g.took i = none ∨ (e.lost = true ∧ g.conn i ≠ none)
  | .addSnapshot _, .error e => e.stored = false
  | .commitStatus _ .succeeded, .error e => e.broken = true
  | .audit _ .success, .error _ => False
  | _, _ => True

/-- The step keeps the invariant, and the other tasks can bear it. -/
def Keeps (i : Tid) (g g' : World Tid Conn) : Prop := SyncInv g' ∧ ∀ j, j ≠ i → Beside j g g'

theorem Keeps.trans {g'' : World Tid Conn} (h : Keeps i g g') (h' : Keeps i g' g'') :
    Keeps i g g'' :=
  ⟨h'.1, fun j hj => (h.2 j hj).trans (h'.2 j hj)⟩

theorem keeps_fails [DecidableEq Tid] [DecidableEq Conn] (hinv : SyncInv g) (e : Raised) :
    Keeps i g (g.fails i e) :=
  ⟨fails_inv hinv, fun _ hj => fails_beside hinv hj⟩

theorem keeps_ends [DecidableEq Tid] (hinv : SyncInv g) : Keeps i g (g.ends i) :=
  ⟨ends_inv hinv, fun _ hj => ends_beside hj⟩

/-- A commit that raises keeps what the commit keeps. -/
theorem keeps_failsCommit [DecidableEq Tid] [DecidableEq Conn] {e : Raised}
    {stored : World Tid Conn} (hinv : SyncInv g)
    (hstored : g.broken i = false → Keeps i g stored) (h : g.FailsCommit i e stored g') :
    Keeps i g g' := by
  rcases h with rfl | ⟨_, hbroken, rfl⟩
  · exact keeps_fails hinv e
  · exact (hstored hbroken).trans (keeps_fails (hstored hbroken).1 e)

/-- The session of the task gets a connection. -/
theorem keeps_uses [DecidableEq Tid] {c : Conn} (hinv : SyncInv g) (havailable : g.Available i c)
    (hsame : ∀ c', g.took i = some c' → c' = c) : Keeps i g (g.uses i c) :=
  ⟨⟨hinv.1.uses havailable hsame, hinv.2.congr rfl rfl rfl rfl⟩,
    fun _ hj => .of_jobs (Function.update_of_ne hj ..) rfl rfl (.inl rfl) rfl rfl rfl⟩

theorem keeps_creates (hinv : SyncInv g) (hguar : Guarantees i g .createJob)
    (hnew : g.jobs job = none) : Keeps i g (g.creates i job) :=
  ⟨creates_inv hinv hguar.2 hnew, fun _ hj => creates_beside hinv hguar.1 hnew hj⟩

theorem keeps_stores (hinv : SyncInv g)
    (hguar : Guarantees i g (.commitStatus job status)) (hbroken : g.broken i = false) :
    Keeps i g (g.stores job status) := by
  cases status with
  | queued => exact hguar.elim
  | running =>
    have hactive : SyncStatus.Active .running → g.Active job := fun _ => ⟨_, hguar.2.1, trivial⟩
    exact ⟨stores_inv hinv hguar.1 hactive (fun h => by cases h) (fun h => by cases h),
      fun _ hj => stores_beside hguar.1 hactive hj⟩
  | succeeded =>
    exact ⟨stores_inv hinv hguar.1 False.elim (fun _ => hguar.2.2) (fun h => by cases h),
      fun _ hj => stores_beside hguar.1 False.elim hj⟩
  | failed =>
    have hsnapshots : g.snapshots job = false := by
      rcases hguar.2 with h | h
      · exact h
      · rw [hbroken] at h
        cases h
    exact ⟨stores_inv hinv hguar.1 False.elim (fun h => by cases h) (fun _ => hsnapshots),
      fun _ hj => stores_beside hguar.1 False.elim hj⟩

theorem keeps_snaps (hinv : SyncInv g) (hguar : Guarantees i g (.addSnapshot job)) :
    Keeps i g (g.snaps job) :=
  ⟨snaps_inv hinv hguar.1 ⟨_, hguar.2.1, trivial⟩, fun _ hj => snaps_beside hguar.1 hj⟩

/-- A lock that is released. -/
theorem keeps_released [DecidableEq Tid] {k : Tid} (hinv : SyncInv g)
    (hk : k = i ∨ g.conn k = none) :
    Keeps i g { g with took := Function.update g.took k none } := by
  have htook : ∀ j, Function.update g.took k none j = g.took j ∨
      (Function.update g.took k none j = none ∧ j = k) := by
    intro j
    rw [Function.update_apply]
    split
    · exact .inr ⟨rfl, ‹_›⟩
    · exact .inl rfl
  refine ⟨⟨hinv.1.shrinks (fun _ _ h => h) (fun j c h => ⟨?_, rfl⟩),
    hinv.2.congr rfl rfl rfl rfl⟩, fun j hj => .of_jobs rfl rfl rfl ?_ rfl rfl rfl⟩
  · change Function.update g.took k none j = some c at h
    rcases htook j with hsame | ⟨hnone, _⟩
    · exact hsame.symm.trans h
    · rw [hnone] at h
      cases h
  · rcases htook j with hsame | ⟨hnone, rfl⟩
    · exact .inl hsame
    · exact .inr ⟨hnone, hk.resolve_left hj⟩

/-- Who else holds the lock on the connection has it in no transaction. -/
theorem held_elsewhere {c : Conn} {k : Tid} (hinv : SyncInv g) (havailable : g.Available i c)
    (htook : g.took k = some c) : k = i ∨ g.conn k = none := by
  rcases hinv.1.held k c htook with hconn | hconn
  · exact .inr hconn
  · rcases havailable with hown | ⟨_, hnobody⟩
    · exact .inl (hinv.1.session k i c hconn hown)
    · exact (hnobody k hconn).elim

theorem keeps_lock [DecidableEq Tid] {c : Conn} (hinv : SyncInv g) (hguar : Guarantees i g .lock)
    (havailable : g.Available i c) (honly : ∀ j c', g.took j = some c' → c' = c) :
    Keeps i g { g.uses i c with took := Function.update g.took i (some c) } := by
  obtain ⟨hinv', hbeside⟩ := keeps_uses hinv havailable (honly i)
  have htook : ∀ j c', Function.update g.took i (some c) j = some c' →
      c' = c ∧ (j = i ∨ g.took j = some c') := by
    intro j c' h
    rw [Function.update_apply] at h
    split at h
    · cases h
      exact ⟨rfl, .inl ‹_›⟩
    · exact ⟨honly j c' h, .inr h⟩
  refine ⟨⟨⟨fun j k c' c'' hj hk => ?_, hinv'.1.session, fun j c' hj => ?_, fun j c' hj => ?_⟩,
    hinv'.2.congr rfl rfl rfl rfl⟩, fun j hj => ?_⟩
  · exact (htook j c' hj).1.trans (htook k c'' hk).1.symm
  · obtain ⟨rfl, rfl | hbefore⟩ := htook j c' hj
    · exact .inr (Function.update_self ..)
    · exact hinv'.1.held j c' hbefore
  · obtain ⟨rfl, rfl | hbefore⟩ := htook j c' hj
    · exact hguar.2.2
    · exact hinv.1.serving j c' hbefore
  · exact .of_jobs (Function.update_of_ne hj ..) rfl rfl (.inl (Function.update_of_ne hj ..)) rfl
      rfl rfl

theorem keeps_unlock [DecidableEq Tid] {c : Conn} {k : Tid} (hinv : SyncInv g)
    (havailable : g.Available i c) (htook : g.took k = some c) :
    Keeps i g { g.uses i c with took := Function.update g.took k none } := by
  have hreleased := keeps_released hinv (held_elsewhere hinv havailable htook)
  refine hreleased.trans (keeps_uses hreleased.1 havailable fun c' h => ?_)
  change Function.update g.took k none i = some c' at h
  rw [Function.update_apply] at h
  split at h
  · cases h
  · exact hinv.1.single i k c' c h htook

theorem keeps_addTask (hinv : SyncInv g) (hmine : Has i job .queued false g) : Keeps i g { g with
    holder := Function.update g.holder job none
    waiting := Function.update g.waiting job true } := by
  obtain ⟨hholder, hqueued, hsnapshots⟩ := hmine
  refine ⟨⟨⟨hinv.1.single, hinv.1.session, hinv.1.held, hinv.1.serving⟩, hinv.2.active,
    hinv.2.succeeded, hinv.2.failed, fun other hnone => ?_, fun other hwaiting => ?_⟩,
    fun j hj => ⟨rfl, rfl, rfl, .inl rfl, fun _ h => h, fun other hother => ?_⟩⟩
  · obtain ⟨hfree, hsnapshot⟩ := hinv.2.unborn other hnone
    refine ⟨?_, hsnapshot⟩
    show Function.update g.holder job none other = none
    rw [Function.update_apply]
    split
    · rfl
    · exact hfree
  · change Function.update g.waiting job true other = true at hwaiting
    show Function.update g.holder job none other = none ∧ _
    rw [Function.update_apply] at hwaiting ⊢
    split at hwaiting
    · subst_vars
      exact ⟨if_pos rfl, hqueued, hsnapshots⟩
    · rw [if_neg ‹_›]
      exact hinv.2.waiting other hwaiting
  · have hne : other ≠ job := by
      rintro rfl
      rw [hholder] at hother
      cases hother
      exact hj rfl
    exact ⟨(Function.update_of_ne hne ..).trans hother, rfl, rfl⟩

theorem keeps_close [DecidableEq Tid] (hinv : SyncInv g) (hfree : Free i g) :
    Keeps i g { g.ends i with serving := Function.update g.serving i false } := by
  obtain ⟨hinv', hbeside⟩ := keeps_ends hinv
  refine ⟨⟨hinv'.1.shrinks (fun _ _ h => h) fun j c h => ⟨h, Function.update_of_ne ?_ ..⟩,
    hinv'.2.congr rfl rfl rfl rfl⟩, fun j hj => .of_jobs (Function.update_of_ne hj ..)
      (Function.update_of_ne hj ..) (Function.update_of_ne hj ..) (.inl rfl) rfl rfl rfl⟩
  rintro rfl
  cases hfree.symm.trans h

theorem sync_step [DecidableEq Tid] [DecidableEq Conn] {s : Stmt} {r : s.Resp} (hinv : SyncInv g)
    (hguar : Guarantees i g s) (horderly : Orderly i g s r)
    (hact : World.Answers i g s r g') : Keeps i g g' := by
  have hrefl : Keeps i g g := ⟨hinv, fun _ _ => .refl⟩
  cases s with
  | lock =>
    cases r with
    | error e => exact hact ▸ keeps_fails hinv e
    | ok u =>
      obtain ⟨_, c, havailable, honly, rfl⟩ := hact
      exact keeps_lock hinv hguar havailable honly
  | findActive =>
    cases r with
    | error e => exact hact ▸ keeps_fails hinv e
    | ok found =>
      obtain ⟨_, _, c, havailable, rfl⟩ := hact
      refine keeps_uses hinv havailable fun c' htook => ?_
      rcases hguar with ⟨c'', hconn, htook'⟩ | hfree
      · obtain rfl := Option.some.inj (htook'.symm.trans htook)
        rcases havailable with hown | ⟨hnone, _⟩
        · exact Option.some.inj (hconn.symm.trans hown)
        · cases hconn.symm.trans hnone
      · cases hfree.symm.trans htook
  | createJob =>
    cases r with
    | error e =>
      obtain ⟨job, hnew, hfails⟩ := hact
      exact keeps_failsCommit hinv (fun _ => keeps_creates hinv hguar hnew) hfails
    | ok job =>
      obtain ⟨_, hnew, rfl⟩ := hact
      have hcreates := keeps_creates hinv hguar hnew
      exact hcreates.trans (keeps_ends hcreates.1)
  | unlock =>
    cases r with
    | error e => exact hact ▸ keeps_fails hinv e
    | ok released =>
      obtain ⟨_, c, havailable, ⟨rfl, _, rfl⟩ | ⟨_, k, htook, _, rfl⟩⟩ := hact
      · have hfree : g.took i = none := horderly.resolve_right (by decide)
        exact keeps_uses hinv havailable fun c' h => by cases hfree.symm.trans h
      · exact keeps_unlock hinv havailable htook
  | audit job outcome => exact hact ▸ hrefl
  | addTask job => exact hact ▸ keeps_addTask hinv hguar
  | getJob job =>
    cases r with
    | error e => exact hact ▸ keeps_fails hinv e
    | ok found => exact hact.2 ▸ hrefl
  | commitStatus job status =>
    cases r with
    | error e => exact keeps_failsCommit hinv (keeps_stores hinv hguar) hact
    | ok u =>
      obtain ⟨hbroken, rfl⟩ := hact
      have hstores := keeps_stores hinv hguar hbroken
      exact hstores.trans (keeps_ends hstores.1)
  | synchronize => exact hact ▸ hrefl
  | addSnapshot job =>
    cases r with
    | error e => exact keeps_failsCommit hinv (fun _ => keeps_snaps hinv hguar) hact
    | ok u =>
      obtain ⟨_, rfl⟩ := hact
      have hsnaps := keeps_snaps hinv hguar
      exact hsnaps.trans (keeps_ends hsnaps.1)
  | rollback =>
    cases r with
    | error e => exact hact ▸ keeps_fails hinv e
    | ok u => exact hact ▸ keeps_ends hinv
  | close => exact hact ▸ keeps_close hinv hguar

/-! ## The programs -/

section Programs

variable [DecidableEq Tid] [DecidableEq Conn]

def contract (i : Tid) : Prog.Contract lang (World Tid Conn) where
  rely _ := Beside i
  act g s r g' := SyncInv g ∧ Orderly i g s r ∧ World.Answers i g s r g'
  guar := Guarantees i

theorem sat_answered {α : Type} {R : World Tid Conn → Prop} {Q : α → World Tid Conn → Prop}
    {s : Stmt} {k : s.Resp → Prog lang α} (hsteady : Steady i R) (hr : R g)
    (hguar : ∀ g', R g' → Guarantees i g' s)
    (h : ∀ g₁ r g₂, R g₁ → SyncInv g₁ → Orderly i g₁ s r → World.Answers i g₁ s r g₂ →
      (k r).Sat (contract i) g₂ Q) :
    (Prog.stmt s k).Sat (contract i) g Q := by
  intro g₁ hbeside
  have hr₁ : R g₁ := hsteady g g₁ hbeside hr
  exact ⟨hguar g₁ hr₁, fun r g₂ ⟨hinv, horderly, hact⟩ => h g₁ r g₂ hr₁ hinv horderly hact⟩

theorem free_fails {e : Raised} (h : Free i g) : Free i (g.fails j e) := by
  rcases (fails_took : (g.fails j e).took i = _ ∨ _) with hsame | ⟨hnone, _⟩
  · exact hsame.trans h
  · exact hnone

theorem has_fails {e : Raised} {status : SyncStatus} {snapshot : Bool}
    (h : Has i job status snapshot g) :
    Has i job status snapshot (g.fails j e) := by
  unfold Has
  rw [fails_holder, fails_jobs, fails_snapshots]
  exact h

theorem broken_fails {e : Raised} (h : e.broken = true ∨ e.lost = true ∨ g.broken i = true) :
    (g.fails i e).broken i = true := by
  unfold World.fails
  split
  · exact Function.update_self ..
  · show Function.update g.broken i (g.broken i || e.broken) i = true
    rw [Function.update_self]
    rcases h with h | h | h
    · rw [h, Bool.or_true]
    · exact (‹¬ e.lost = true› h).elim
    · rw [h, Bool.true_or]

/-- What a request knows once it has tried to take the lock. -/
def Locked (i : Tid) (useAdvisoryLock : Bool) (g : World Tid Conn) : Prop :=
  match useAdvisoryLock with
  | true => Critical i g
  | false => Free i g ∧ g.broken i = true

omit [DecidableEq Tid] [DecidableEq Conn] in
theorem steady_locked {useAdvisoryLock : Bool} :
    Steady i (Locked i useAdvisoryLock : World Tid Conn → Prop) := by
  intro g g' hbeside h
  cases useAdvisoryLock with
  | true => exact Critical.stays h hbeside
  | false => exact ⟨steady_free g g' hbeside h.1, hbeside.broken.trans h.2⟩

theorem sat_acquire (hfree : Free i g) (hconn : g.conn i = none) (hserving : g.serving i = true) :
    Sat (contract i) acquire g (Locked i) (fun _ => Free i) := by
  have hsteady : Steady i fun g : World Tid Conn =>
      Free i g ∧ g.conn i = none ∧ g.serving i = true :=
    fun g g' hbeside h => ⟨steady_free g g' hbeside h.1, hbeside.conn.trans h.2.1,
      hbeside.serving.trans h.2.2⟩
  refine sat_tryCatch (sat_bind (sat_answered hsteady ⟨hfree, hconn, hserving⟩ (fun _ h => h) ?_))
  rintro g₁ (e | u) g₂ h₁ _ horderly hact
  · obtain rfl : g₂ = g₁.fails i e := hact
    show Sat (contract i) (if e.operational then return false else throw e) _ _ _
    split
    · have hbroken := horderly ‹_›
      exact sat_pure ⟨free_fails h₁.1, broken_fails (hbroken.imp_right .inl)⟩
    · exact sat_throw (free_fails h₁.1)
  · obtain ⟨_, c, _, _, rfl⟩ := hact
    exact sat_pure ⟨c, Function.update_self .., Function.update_self ..⟩

theorem sat_createUnlessActive {useAdvisoryLock : Bool} (hlocked : Locked i useAdvisoryLock g) :
    Sat (contract i) createUnlessActive g
      (fun job g' => useAdvisoryLock = true ∧ Has i job .queued false g')
      (fun _ g' => useAdvisoryLock = true ∨ Free i g') := by
  have hguar : ∀ g' : World Tid Conn, Locked i useAdvisoryLock g' →
      Guarantees i g' .findActive := by
    intro g' h
    cases useAdvisoryLock with
    | true => exact .inl h
    | false => exact .inr h.1
  refine sat_bind (sat_answered steady_locked hlocked hguar ?_)
  rintro g₁ (e | found) g₂ h₁ _ _ hact
  · obtain rfl : g₂ = g₁.fails i e := hact
    cases useAdvisoryLock with
    | true => exact .inl rfl
    | false => exact .inr (free_fails h₁.1)
  obtain ⟨hbroken, hfound, c, havailable, rfl⟩ := hact
  cases useAdvisoryLock with
  | false => cases hbroken.symm.trans h₁.2
  | true =>
    cases found with
    | true =>
      show Sat (contract i) (throw alreadyRunning) _ _ _
      exact sat_throw (.inl rfl)
    | false =>
      have hcritical : Critical i (g₁.uses i c) := by
        obtain ⟨c', hconn, htook⟩ := h₁
        refine ⟨c, Function.update_self .., ?_⟩
        rcases havailable with hown | ⟨hnone, _⟩
        · exact htook.trans (hconn.symm.trans hown)
        · cases hconn.symm.trans hnone
      have hidle : ∀ job, ¬ (g₁.uses i c).Active job := by
        intro job hactive
        cases hfound.2 ⟨job, hactive⟩
      have hsteady : Steady i fun g : World Tid Conn =>
          Critical i g ∧ ∀ job, ¬ g.Active job :=
        fun g g' hbeside h => ⟨h.1.stays hbeside, hbeside.idle h.1 h.2⟩
      refine sat_answered hsteady ⟨hcritical, hidle⟩ (fun _ h => h) ?_
      rintro g₃ (e | job) g₄ _ hinv _ hact
      · exact .inl rfl
      · obtain ⟨_, hnew, rfl⟩ := hact
        exact ⟨rfl, Function.update_self .., Function.update_self .., (hinv.2.unborn job hnew).2⟩

/-- An unlock leaves the task without the lock, whatever else it knows of jobs. -/
theorem sat_releaseLock {useAdvisoryLock : Bool} {K : World Tid Conn → Prop} (hsteady : Steady i K)
    (hfails : ∀ g e, K g → K (g.fails i e))
    (huses : ∀ g c took, K g → K { g.uses i c with took := took })
    (hk : K g) (hfree : useAdvisoryLock = true ∨ Free i g) :
    Sat (contract i) (releaseLock useAdvisoryLock) g (fun _ g' => Free i g' ∧ K g')
      (fun _ => Free i) := by
  cases useAdvisoryLock with
  | false => exact sat_pure ⟨hfree.resolve_left (by decide), hk⟩
  | true =>
    refine sat_tryCatch (sat_bind (sat_answered hsteady hk (fun _ _ => trivial) ?_))
    rintro g₁ (e | released) g₂ h₁ hinv horderly hact
    · obtain rfl : g₂ = g₁.fails i e := hact
      have hfree₂ : Free i (g₁.fails i e) := by
        rcases horderly with hfree | ⟨hlost, hconn⟩
        · exact free_fails hfree
        · unfold Free World.fails
          rw [if_pos hlost]
          dsimp only
          split
          · rfl
          · -- A lock on another connection than that of the transaction is not this task's.
            rename_i hne
            cases htook : g₁.took i with
            | none => rfl
            | some c =>
              rcases hinv.1.held i c htook with hnone | hsome
              · exact (hconn hnone).elim
              · exact (hne (htook.trans hsome.symm)).elim
      show Sat (contract i) (if e.operational then return else throw e) _ _ _
      split
      · exact sat_pure ⟨hfree₂, hfails _ _ h₁⟩
      · exact sat_throw hfree₂
    · obtain ⟨_, c, _, ⟨rfl, _, rfl⟩ | ⟨_, k, htook, hown, rfl⟩⟩ := hact
      · have hfree₁ : g₁.took i = none := horderly.resolve_right (by decide)
        exact sat_pure ⟨hfree₁, huses g₁ c g₁.took h₁⟩
      · refine sat_pure ⟨?_, huses _ _ _ h₁⟩
        show Function.update g₁.took k none i = none
        rw [Function.update_apply]
        split
        · rfl
        · rename_i hne
          cases hmine : g₁.took i with
          | none => rfl
          | some c' =>
            obtain rfl := hinv.1.single i k c' c hmine htook
            exact (hne (hown hmine).symm).elim

theorem sat_synchronizeInventory (hfree : Free i g) (hconn : g.conn i = none)
    (hserving : g.serving i = true) :
    Sat (contract i) synchronizeInventory g (fun _ => Free i) (fun _ => Free i) := by
  refine sat_bind ((sat_acquire hfree hconn hserving).mono ?_ fun _ _ h => h)
  intro useAdvisoryLock g₁ h₁
  refine sat_bind (sat_tryCatch (sat_bind ((sat_createUnlessActive h₁).mono ?_ ?_)))
  · rintro job g₂ ⟨hlock, h₂⟩
    refine sat_pure (sat_bind ((sat_releaseLock steady_has (fun _ _ h => has_fails h)
      (fun _ _ _ h => h) h₂ (.inl hlock)).mono ?_ fun _ _ h => h))
    rintro _ g₃ ⟨hfree₃, hmine⟩
    refine sat_bind (sat_answered (steady_free.and steady_has) ⟨hfree₃, hmine⟩
      (fun _ _ => trivial) ?_)
    rintro g₄ (e | u) g₅ ⟨hfree₄, hmine₄⟩ _ _ hact
    · obtain rfl : g₅ = g₄ := hact
      exact hfree₄
    · obtain rfl : g₅ = g₄ := hact
      refine sat_bind (sat_answered (steady_free.and steady_has) ⟨hfree₄, hmine₄⟩
        (fun _ h => h.2) ?_)
      intro g₆ _ g₇ h₆ _ _ hact
      obtain rfl := hact
      exact sat_pure h₆.1
  · intro e g₂ h₂
    refine sat_pure (sat_bind ((sat_releaseLock (K := fun _ => True) (fun _ _ _ _ => trivial)
      (fun _ _ _ => trivial) (fun _ _ _ _ => trivial) trivial h₂).mono ?_ fun _ _ h => h))
    exact fun _ g₃ h₃ => sat_throw h₃.1

/-- The background task may mark its job as failed. -/
def Unsnapped (i : Tid) (job : UUID) (g : World Tid Conn) : Prop :=
  Free i g ∧ g.holder job = some i ∧ (g.snapshots job = false ∨ g.broken i = true)

omit [DecidableEq Tid] [DecidableEq Conn] in
theorem steady_unsnapped : Steady i (Unsnapped i job : World Tid Conn → Prop) := by
  rintro g g' hbeside ⟨hfree, hholder, hsnapshots⟩
  obtain ⟨hholder', _, hsnapshots'⟩ := hbeside.mine job hholder
  exact ⟨steady_free g g' hbeside hfree, hholder',
    hsnapshots.imp hsnapshots'.trans hbeside.broken.trans⟩

/-- A commit that raises leaves the task without the lock. -/
theorem free_failsCommit {e : Raised} (stored : World Tid Conn) (h : Free i g) (h' : Free i stored)
    (hfails : g.FailsCommit i e stored g') : Free i g' := by
  rcases hfails with rfl | ⟨_, _, rfl⟩
  · exact free_fails h
  · exact free_fails h'

theorem sat_persistSnapshot (hfree : Free i g) (hmine : Has i job .running false g) :
    Sat (contract i) (persistSnapshot job) g
      (fun _ g' => Free i g' ∧ Has i job .running true g') (fun _ => Unsnapped i job) := by
  refine sat_tryCatch (sat_answered (steady_free.and steady_has) ⟨hfree, hmine⟩ (fun _ h => h.2) ?_)
  rintro g₁ (e | u) g₂ ⟨hfree₁, hmine₁⟩ _ horderly hact
  · have hg₂ : g₂ = g₁.fails i e := by
      rcases hact with hfails | ⟨hstored, _⟩
      · exact hfails
      · cases hstored.symm.trans horderly
    subst hg₂
    refine sat_bind (sat_answered (steady_free.and steady_has)
      ⟨free_fails hfree₁, has_fails hmine₁⟩ (fun _ _ => trivial) ?_)
    rintro g₃ (e' | u) g₄ ⟨hfree₃, hmine₃⟩ _ _ hact
    · obtain rfl : g₄ = g₃.fails i e' := hact
      exact ⟨free_fails hfree₃, (has_fails hmine₃).1, .inl (has_fails hmine₃).2.2⟩
    · obtain rfl : g₄ = g₃.ends i := hact
      show Sat (contract i) (throw e) _ _ _
      exact sat_throw ⟨hfree₃, hmine₃.1, .inl hmine₃.2.2⟩
  · obtain ⟨_, rfl⟩ := hact
    exact ⟨hfree₁, hmine₁.1, hmine₁.2.1, Function.update_self ..⟩

theorem sat_runSync (hfree : Free i g) (hmine : Has i job .running false g) :
    Sat (contract i) (runSync job) g (fun _ => Free i) (fun _ => Unsnapped i job) := by
  refine sat_bind (sat_answered (steady_free.and steady_has) ⟨hfree, hmine⟩ (fun _ _ => trivial) ?_)
  rintro g₁ (e | u) g₂ ⟨hfree₁, hmine₁⟩ _ _ hact
  · obtain rfl : g₂ = g₁ := hact
    exact ⟨hfree₁, hmine₁.1, .inl hmine₁.2.2⟩
  obtain rfl : g₂ = g₁ := hact
  refine sat_bind ((sat_persistSnapshot hfree₁ hmine₁).mono ?_ fun _ _ h => h)
  rintro _ g₃ ⟨hfree₃, hmine₃⟩
  refine sat_bind (sat_answered (steady_free.and steady_has) ⟨hfree₃, hmine₃⟩ (fun _ h => h.2) ?_)
  rintro g₄ (e | u) g₅ ⟨hfree₄, hmine₄⟩ _ horderly hact
  · have hbroken : e.broken = true := horderly
    rcases hact with rfl | ⟨_, _, rfl⟩
    · exact ⟨free_fails hfree₄, (has_fails hmine₄).1, .inr (broken_fails (.inl hbroken))⟩
    · exact ⟨free_fails hfree₄, by rw [fails_holder]; exact hmine₄.1,
        .inr (broken_fails (.inl hbroken))⟩
  · obtain ⟨_, rfl⟩ := hact
    refine sat_answered steady_free hfree₄ (fun _ _ => trivial) ?_
    rintro g₆ (e | u) g₇ hfree₆ _ horderly hact
    · exact horderly.elim
    · obtain rfl : g₇ = g₆ := hact
      exact hfree₆

theorem sat_syncFailed (h : Unsnapped i job g) :
    Sat (contract i) (syncFailed job) g (fun _ => Free i) (fun _ => Free i) := by
  have haudit : ∀ g' : World Tid Conn, Free i g' →
      Sat (contract i) (audit job .failed) g' (fun _ => Free i) (fun _ => Free i) := by
    intro g' hfree
    refine sat_answered steady_free hfree (fun _ _ => trivial) ?_
    rintro g₁ (e | u) g₂ hfree₁ _ _ hact
    · obtain rfl : g₂ = g₁ := hact
      exact hfree₁
    · obtain rfl : g₂ = g₁ := hact
      exact hfree₁
  refine sat_bind (sat_tryCatch (sat_answered steady_unsnapped h (fun _ h => h.2) ?_))
  rintro g₁ (e | u) g₂ h₁ _ _ hact
  · have hfree₂ : Free i g₂ := free_failsCommit (g₁.stores job .failed) h₁.1 h₁.1 hact
    refine sat_answered steady_free hfree₂ (fun _ _ => trivial) ?_
    rintro g₃ (e' | u) g₄ hfree₃ _ _ hact
    · obtain rfl : g₄ = g₃.fails i e' := hact
      exact free_fails hfree₃
    · obtain rfl : g₄ = g₃.ends i := hact
      exact haudit _ hfree₃
  · obtain ⟨_, rfl⟩ := hact
    exact haudit _ h₁.1

theorem sat_runNetboxSyncBackground (hfree : Free i g) (hmine : Has i job .queued false g) :
    Sat (contract i) (runNetboxSyncBackground job) g (fun _ => Free i) (fun _ => Free i) := by
  refine sat_bind (sat_answered (steady_free.and steady_has) ⟨hfree, hmine⟩ (fun _ _ => trivial) ?_)
  rintro g₁ (e | found) g₂ ⟨hfree₁, hmine₁⟩ _ _ hact
  · obtain rfl : g₂ = g₁.fails i e := hact
    exact free_fails hfree₁
  obtain ⟨hfound, rfl⟩ := hact
  rw [hmine₁.2.1] at hfound
  subst hfound
  show Sat (contract i) (commitStatus job .running >>= fun _ => _) _ _ _
  refine sat_bind (sat_answered (steady_free.and steady_has) ⟨hfree₁, hmine₁⟩ (fun _ h => h.2) ?_)
  rintro g₃ (e | u) g₄ ⟨hfree₃, hmine₃⟩ _ _ hact
  · exact free_failsCommit (g₃.stores job .running) hfree₃ hfree₃ hact
  · obtain ⟨_, rfl⟩ := hact
    have hrunning : Has i job .running false ((g₃.stores job .running).ends i) :=
      ⟨hmine₃.1, Function.update_self .., hmine₃.2.2⟩
    have hfree₄ : Free i ((g₃.stores job .running).ends i) := hfree₃
    exact sat_tryCatch ((sat_runSync hfree₄ hrunning).mono (fun _ _ h => h) fun _ _ h =>
      sat_syncFailed h)

theorem sat_inSession {α : Type} {m : Sync α}
    (h : Sat (contract i) m g (fun _ => Free i) (fun _ => Free i)) :
    (inSession m).Sat (contract i) g fun _ _ => True := by
  refine Prog.sat_bind.2 (Prog.Sat.mono (fun r g' h' => ?_) h)
  have hfree : Free i g' := by
    cases r <;> exact h'
  exact sat_answered steady_free hfree (fun _ h => h) fun _ _ _ _ _ _ _ => trivial

end Programs

/-! ## Any interleaving -/

theorem keeps_opened [DecidableEq Tid] (hinv : SyncInv g) (hfree : Free i g) :
    Keeps i g (g.opened i) := by
  obtain ⟨hinv', hbeside⟩ := keeps_ends (i := i) hinv
  refine ⟨⟨hinv'.1.shrinks (fun _ _ h => h) fun j c h => ⟨h, Function.update_of_ne ?_ ..⟩,
    hinv'.2.congr rfl rfl rfl rfl⟩, fun j hj => .of_jobs (Function.update_of_ne hj ..)
      (Function.update_of_ne hj ..) (Function.update_of_ne hj ..) (.inl rfl) rfl rfl rfl⟩
  rintro rfl
  cases hfree.symm.trans h

/-- A background task takes the job that was added. -/
theorem keeps_taken (hinv : SyncInv g) (hwaiting : g.waiting job = true) : Keeps i g { g with
    holder := Function.update g.holder job (some i)
    waiting := Function.update g.waiting job false } := by
  obtain ⟨hfree, hqueued, hsnapshots⟩ := hinv.2.waiting job hwaiting
  refine ⟨⟨⟨hinv.1.single, hinv.1.session, hinv.1.held, hinv.1.serving⟩, hinv.2.active,
    hinv.2.succeeded, hinv.2.failed, fun other hnone => ?_, fun other hother => ?_⟩,
    fun j hj => ⟨rfl, rfl, rfl, .inl rfl, fun _ h => h, fun other hother => ?_⟩⟩
  · have hne : other ≠ job := by
      rintro rfl
      cases hqueued.symm.trans hnone
    exact ⟨(Function.update_of_ne hne ..).trans (hinv.2.unborn other hnone).1,
      (hinv.2.unborn other hnone).2⟩
  · change Function.update g.waiting job false other = true at hother
    rw [Function.update_apply] at hother
    split at hother
    · cases hother
    · obtain ⟨hfree', hqueued', hsnapshots'⟩ := hinv.2.waiting other hother
      exact ⟨(Function.update_of_ne ‹_› ..).trans hfree', hqueued', hsnapshots'⟩
  · have hne : other ≠ job := by
      rintro rfl
      cases hfree.symm.trans hother
    exact ⟨(Function.update_of_ne hne ..).trans hother, rfl, rfl⟩

variable [DecidableEq Tid] [DecidableEq Conn]

theorem sync_sound : Sound World.Answers Starts Orderly contract (fun _ _ => True)
    (SyncInv : World Tid Conn → Prop) where
  rely_refl _ _ _ := .refl
  rely_trans _ _ _ _ _ := Beside.trans
  rely_done _ _ _ _ _ := trivial
  started i g p g' hinv _ hstart := by
    cases hstart with
    | request hfree =>
      have hopened := keeps_opened hinv hfree
      exact ⟨sat_inSession (sat_synchronizeInventory hfree (Function.update_self ..)
        (Function.update_self ..)), hopened.1, fun j hj _ => hopened.2 j hj⟩
    | background job hfree hwaiting =>
      have hopened := keeps_opened hinv hfree
      have htaken := hopened.trans (keeps_taken hopened.1 hwaiting)
      obtain ⟨_, hqueued, hsnapshots⟩ := hinv.2.waiting job hwaiting
      exact ⟨sat_inSession (sat_runNetboxSyncBackground hfree
        ⟨Function.update_self .., hqueued, hsnapshots⟩), htaken.1, fun j hj _ => htaken.2 j hj⟩
  answered i g s r g' hinv hguar horderly hact := by
    have hkeeps := sync_step hinv hguar horderly hact
    exact ⟨⟨hinv, horderly, hact⟩, hkeeps.1, fun j hj _ => hkeeps.2 j hj⟩

omit [DecidableEq Tid] [DecidableEq Conn] in
theorem syncInv_fresh : SyncInv ({} : World Tid Conn) := by
  refine ⟨⟨?_, ?_, ?_, ?_⟩, ⟨?_, ?_, ?_, ?_, ?_⟩⟩
  · rintro _ _ _ _ ⟨⟩
  · rintro _ _ _ ⟨⟩
  · rintro _ _ ⟨⟩
  · rintro _ _ ⟨⟩
  · rintro _ _ ⟨_, ⟨⟩, _⟩
  · rintro _ ⟨⟩
  · rintro _ ⟨⟩
  · exact fun _ _ => ⟨rfl, rfl⟩
  · rintro _ ⟨⟩

theorem sync_exclusive (turns : List ((Tid × Turn lang) × SyncPool Tid Conn))
    (hrun : Run SyncPool.Step SyncPool.fresh turns)
    (horderly : Throughout (Pool.Meets Orderly) SyncPool.fresh turns) :
    Throughout (fun _ _ c' => c'.state.Synchronised) SyncPool.fresh turns :=
  sync_sound.throughout
    (fun _ _ _ hfine hstep hmeets => (sync_sound.step hfine hstep hmeets).1.synchronised)
    ⟨syncInv_fresh, fun _ => trivial⟩ hrun horderly

/-! ## An unlock on this connection and on another -/

/-- Nothing raises; the session gets the connection `c`, and the job is 7. -/
def smooth (i c : Bool) (g : World Bool Bool) : (s : Stmt) → s.Resp × World Bool Bool
  | .lock => (.ok (), { g.uses i c with took := Function.update g.took i (some c) })
  | .findActive => (.ok false, g.uses i c)
  | .createJob => (.ok 7, (g.creates i 7).ends i)
  | .unlock => if g.took i = some c
    then (.ok true, { g.uses i c with took := Function.update g.took i none })
    else (.ok false, g.uses i c)
  | .audit _ _ => (.ok (), g)
  | .addTask job => ((), { g with
      holder := Function.update g.holder job none
      waiting := Function.update g.waiting job true })
  | .getJob job => (.ok (g.jobs job).isSome, g)
  | .commitStatus job status => (.ok (), (g.stores job status).ends i)
  | .synchronize => (.ok (), g)
  | .addSnapshot job => (.ok (), (g.snaps job).ends i)
  | .rollback => (.ok (), g.ends i)
  | .close => ((), { g.ends i with serving := Function.update g.serving i false })

def proceed (c : Bool) : Move lang Bool (World Bool Bool) := .answer true (smooth true c)

/-- A request takes the lock on the connection `true`, and unlocks on `c`. -/
def unlocksOn (c : Bool) : List (Move lang Bool (World Bool Bool)) :=
  [.start true (inSession synchronizeInventory) (World.opened · true), proceed true, proceed true,
    proceed true, proceed c, proceed c, proceed c, proceed c]

theorem run_unlocksOn (c : Bool) :
    Run SyncPool.Step SyncPool.fresh
      ((SyncPool.fresh : SyncPool Bool Bool).play (unlocksOn c)) := by
  refine Pool.run_start rfl (.request rfl) ?_
  refine Pool.run_answer rfl ⟨rfl, true, .inr ⟨rfl, ?_⟩, ?_, rfl⟩ ?_
  · intro j
    cases j <;> exact fun h => by cases h
  · intro j c' h
    cases h
  refine Pool.run_answer rfl ⟨rfl, ?_, true, .inl rfl, rfl⟩ ?_
  · refine iff_of_false (fun h => by cases h) ?_
    rintro ⟨_, _, ⟨⟩, _⟩
  refine Pool.run_answer rfl ⟨rfl, rfl, rfl⟩ ?_
  cases c with
  | true =>
    refine Pool.run_answer rfl
      ⟨rfl, true, .inr ⟨rfl, ?_⟩, .inr ⟨rfl, true, rfl, fun _ => rfl, rfl⟩⟩ ?_
    · intro j
      cases j <;> exact fun h => by cases h
    refine Pool.run_answer rfl rfl ?_
    refine Pool.run_answer rfl rfl ?_
    exact Pool.run_answer rfl rfl trivial
  | false =>
    refine Pool.run_answer rfl ⟨rfl, false, .inr ⟨rfl, ?_⟩, .inl ⟨rfl, ?_, rfl⟩⟩ ?_
    · intro j
      cases j <;> exact fun h => by cases h
    · intro j
      cases j <;> exact fun h => by cases h
    refine Pool.run_answer rfl rfl ?_
    refine Pool.run_answer rfl rfl ?_
    exact Pool.run_answer rfl rfl trivial

theorem unlocks_here : Throughout (fun _ _ c' => c'.state.Synchronised) SyncPool.fresh
    ((SyncPool.fresh : SyncPool Bool Bool).play (unlocksOn true)) := by
  refine sync_exclusive _ (run_unlocksOn true) ?_
  exact ⟨trivial, trivial, trivial, trivial, .inr rfl, trivial, trivial, trivial, trivial⟩

/-- The request ends, and its lock stays. -/
theorem unlocks_elsewhere : ¬ ∀ (turns : List ((Bool × Turn lang) × SyncPool Bool Bool)),
    Run SyncPool.Step SyncPool.fresh turns →
      Throughout (fun _ _ c' => c'.state.Synchronised) SyncPool.fresh turns := by
  intro h
  have hsynchronised := h _ (run_unlocksOn false)
  have hlast := hsynchronised.2.2.2.2.2.2.2.1.released true true rfl
  cases hlast

end Integrations
end NetOps
