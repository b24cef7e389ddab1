import NetOps.Conc.Tasks
import NetOps.Discovery.Records

/-!
# Collectors.Runtime

The collector runtime (`collectors/runtime`): jobs are submitted to a priority queue, and executed
from it (`run_next`) or by name (`run_job`). The coordinator of the orchestration
(`orchestration/coordinator.py`) submits a job for each context and runs it by name.

* `step_keeps`, `step_breaks`: a call keeps that every submitted job is executed once, from the
  queue, exactly if it runs no submitted job by name.
* `executed_once_iff`: so it goes for every sequence of calls.
-/

namespace NetOps
namespace Collectors
namespace Runtime

open Conc Conc.Raises History
open Discovery (UUID)

variable {C S : Type}

/-! ## Calls -/

/-- A job, of a context. -/
structure CollectorJob (C : Type) where
  id : UUID
  context : C
  priority : Int

/-- The parts of a result that the coordinator uses. -/
structure CollectorExecutionResult (S : Type) where
  jobId : UUID
  snapshot : Option S

inductive Raised where
  | hook (message : String)
  | execution (message : String)

/-- What the runtime awaits; `create` is the constructor of a job, which draws its id. -/
inductive Stmt (C : Type) where
  | startup
  | shutdown
  | create (context : C) (priority : Int)
  | put (job : CollectorJob C)
  | get
  | execute (job : CollectorJob C)

abbrev Stmt.Resp (S : Type) : Stmt C → Type
  | .startup => Except Raised Unit
  | .shutdown => Except Raised Unit
  | .create _ _ => CollectorJob C
  | .put _ => Unit
  | .get => CollectorJob C
  | .execute _ => Except Raised (CollectorExecutionResult S)

abbrev lang (C S : Type) : Lang := ⟨Stmt C, Stmt.Resp S⟩

abbrev Engine (C S α : Type) := Raises (lang C S) Raised α

def start : Engine C S Unit := ExceptT.mk (Prog.issue (L := lang C S) .startup)

def stop : Engine C S Unit := ExceptT.mk (Prog.issue (L := lang C S) .shutdown)

def create (context : C) (priority : Int) : Engine C S (CollectorJob C) :=
  ExceptT.lift (Prog.issue (L := lang C S) (.create context priority))

def put (job : CollectorJob C) : Engine C S Unit :=
  ExceptT.lift (Prog.issue (L := lang C S) (.put job))

/-- `CollectorScheduler.next_job`. -/
def nextJob : Engine C S (CollectorJob C) := ExceptT.lift (Prog.issue (L := lang C S) .get)

/-- `CollectorDispatcher.dispatch`. -/
def dispatch (job : CollectorJob C) : Engine C S (CollectorExecutionResult S) :=
  ExceptT.mk (Prog.issue (L := lang C S) (.execute job))

/-! ## The engine and the coordinator -/

def submit (context : C) (priority : Int) : Engine C S (CollectorJob C) := do
  let job ← create context priority
  put job
  return job

def runNext : Engine C S (CollectorExecutionResult S) := do
  let job ← nextJob
  dispatch job

def runJob (job : CollectorJob C) : Engine C S (CollectorExecutionResult S) := dispatch job

/-- The body of the loop of `collect`: the snapshots and the results so far. -/
def collectOne (sofar : List S × List (CollectorExecutionResult S)) (context : C) :
    Engine C S (List S × List (CollectorExecutionResult S)) := do
  let job ← submit context 0
  let result ← runJob job
  return (sofar.1 ++ result.snapshot.toList, sofar.2 ++ [result])

/-- `DiscoveryCoordinator.collect`; the services are stopped however the loop ends. -/
def collect (merge : List S → S) (contexts : List C) :
    Engine C S (S × List (CollectorExecutionResult S)) := do
  start
  let outcome ← tryCatch (Except.ok <$> contexts.foldlM collectOne ([], []))
    fun e => pure (.error e)
  stop
  match outcome with
  | .ok (snapshots, results) => return (merge snapshots, results)
  | .error e => throw e

/-! ## The world -/

structure Entry (C : Type) where
  priority : Int
  sequence : Nat
  job : CollectorJob C

/-- The order of the queue: by priority, then as they came. -/
def Entry.Before (entry other : Entry C) : Prop :=
  entry.priority < other.priority ∨
    (entry.priority = other.priority ∧ entry.sequence < other.sequence)

/-- The queue, with what was submitted and what was handed to the executor. -/
structure World (C : Type) where
  queue : List (Entry C) := []
  sequence : Nat := 0
  submitted : List (CollectorJob C) := []
  executed : List UUID := []
  failedStarts : Nat := 0

namespace World

def put (g : World C) (job : CollectorJob C) : World C :=
  { g with
    queue := g.queue ++ [⟨job.priority, g.sequence, job⟩]
    sequence := g.sequence + 1
    submitted := g.submitted ++ [job] }

def execute (g : World C) (job : CollectorJob C) : World C :=
  { g with executed := g.executed ++ [job.id] }

def failStart (g : World C) : World C := { g with failedStarts := g.failedStarts + 1 }

/-- How a call is answered. The queue has no bound; an empty one does not answer. -/
def Answers (g : World C) : (s : Stmt C) → s.Resp S → World C → Prop
  | .startup, .ok _, g' => g' = g
  | .startup, .error _, g' => g' = g.failStart
  | .shutdown, _, g' => g' = g
  | .create context priority, job, g' =>
    job.context = context ∧ job.priority = priority ∧ job.id ∉ g.submitted.map (·.id) ∧
      job.id ∉ g.executed ∧ g' = g
  | .put job, _, g' => g' = g.put job
  | .get, job, g' => ∃ before entry after, g.queue = before ++ entry :: after ∧
      (∀ other ∈ before ++ after, entry.Before other) ∧ job = entry.job ∧
      g' = { g with queue := before ++ after }
  | .execute job, _, g' => g' = g.execute job

end World

/-! ## Sequences of calls -/

inductive Call (C : Type) where
  | submit (context : C) (priority : Int)
  | runJob (job : CollectorJob C)
  | runNext
  | collect (contexts : List C)

def Call.program (merge : List S → S) : Call C → Engine C S Unit
  | .submit context priority => do let _ ← Runtime.submit context priority
  | .runJob job => do let _ ← Runtime.runJob job
  | .runNext => do let _ ← Runtime.runNext
  | .collect contexts => do let _ ← Runtime.collect merge contexts

/-- One call, run to its end or to where it raises. -/
def CallStep (merge : List S → S) (g : World C) (call : Call C) (g' : World C) : Prop :=
  ∃ r, (ExceptT.run (call.program merge)).Runs World.Answers g r g'

/-- Submitted jobs were executed at most once, and those that were not are the queue. -/
structure Consistent (g : World C) : Prop where
  once : ∀ job ∈ g.submitted, g.executed.count job.id ≤ 1
  queue : (g.queue.map (·.job)).Perm (g.submitted.filter fun job => job.id ∉ g.executed)

/-- The jobs are executed once, and from the queue those that were not executed. -/
structure ExecutedOnce (g : World C) (call : Call C) (g' : World C) : Prop where
  consistent : Consistent g'
  next : call = .runNext → ∀ id ∈ g'.executed.drop g.executed.length, id ∉ g.executed

/-- The call runs no submitted job by name. -/
def FromQueue (g : World C) (call : Call C) (g' : World C) : Prop :=
  match call with
  | .submit _ _ => True
  | .runNext => True
  | .runJob job => job.id ∉ g.submitted.map (·.id)
  | .collect contexts => contexts = [] ∨ g.failedStarts < g'.failedStarts

structure Inv (g : World C) : Prop extends Consistent g where
  ids : (g.submitted.map (·.id)).Nodup

variable {g g' : World C} {job : CollectorJob C}

/-- A job that is new to the runtime is submitted. -/
theorem Inv.put (h : Inv g) (hnew : job.id ∉ g.submitted.map (·.id))
    (hunknown : job.id ∉ g.executed) :
    Inv (g.put job) where
  once other hother := by
    rcases List.mem_append.1 hother with hold | hsame
    · exact h.once other hold
    · rw [List.mem_singleton.1 hsame]
      show g.executed.count job.id ≤ 1
      rw [List.count_eq_zero_of_not_mem hunknown]
      exact Nat.zero_le 1
  queue := by
    show ((g.queue ++ [_]).map _).Perm ((g.submitted ++ [job]).filter _)
    rw [List.map_append, List.filter_append]
    refine h.queue.append ?_
    show List.Perm [job] (List.filter (fun job => job.id ∉ g.executed) [job])
    simp [hunknown]
  ids := by
    show ((g.submitted ++ [job]).map _).Nodup
    rw [List.map_append, List.map_singleton]
    exact List.nodup_append.2 ⟨h.ids, List.nodup_singleton _, fun a ha b hb heq =>
      hnew (List.mem_singleton.1 hb ▸ heq ▸ ha)⟩

/-- A job that was not submitted is executed. -/
theorem Inv.executeOther (h : Inv g) (hother : job.id ∉ g.submitted.map (·.id)) :
    Inv (g.execute job) := by
  have hne : ∀ j ∈ g.submitted, j.id ≠ job.id :=
    fun j hj heq => hother (heq ▸ List.mem_map_of_mem hj)
  refine ⟨⟨fun j hj => ?_, ?_⟩, h.ids⟩
  · show (g.executed ++ [job.id]).count j.id ≤ 1
    rw [List.count_append, List.count_singleton]
    have hcount := h.once j hj
    simpa [(hne j hj).symm] using hcount
  · show (g.queue.map _).Perm (g.submitted.filter fun j => j.id ∉ g.executed ++ [job.id])
    refine h.queue.trans (List.Perm.of_eq (List.filter_congr fun j hj => ?_))
    simp [hne j hj]

/-- The next job of the queue is executed. -/
theorem Inv.executeNext {before after : List (Entry C)} {entry : Entry C} (h : Inv g)
    (hqueue : g.queue = before ++ entry :: after) :
    entry.job.id ∉ g.executed ∧
      Inv ({ g with queue := before ++ after }.execute entry.job) := by
  have hperm : (entry.job :: (before ++ after).map (·.job)).Perm
      (g.submitted.filter fun j => j.id ∉ g.executed) := by
    refine List.Perm.trans ?_ h.queue
    rw [hqueue]
    exact (List.Perm.map (fun other : Entry C => other.job) List.perm_middle).symm
  have hunexecuted : entry.job.id ∉ g.executed := by
    have hmem := hperm.mem_iff.1 List.mem_cons_self
    simpa using (List.mem_filter.1 hmem).2
  have hnodup : ((entry.job :: (before ++ after).map (·.job)).map (·.id)).Nodup :=
    (hperm.map (·.id)).nodup_iff.2 (h.ids.sublist (List.filter_sublist.map _))
  rw [List.map_cons, List.nodup_cons] at hnodup
  refine ⟨hunexecuted, ⟨fun j hj => ?_, ?_⟩, h.ids⟩
  · show (g.executed ++ [entry.job.id]).count j.id ≤ 1
    rw [List.count_append, List.count_singleton]
    by_cases hid : j.id = entry.job.id
    · rw [hid, List.count_eq_zero_of_not_mem hunexecuted]
      simp
    · have hcount := h.once j hj
      simpa [Ne.symm hid] using hcount
  · show ((before ++ after).map _).Perm
      (g.submitted.filter fun j => j.id ∉ g.executed ++ [entry.job.id])
    have hrest : ((before ++ after).map (·.job)).filter (fun j => j.id ≠ entry.job.id) =
        (before ++ after).map (·.job) := by
      refine List.filter_eq_self.2 fun j hj => ?_
      simp only [decide_not, Bool.not_eq_true', decide_eq_false_iff_not]
      exact fun heq => hnodup.1 (heq ▸ List.mem_map_of_mem hj)
    have hfiltered := hperm.filter fun j => j.id ≠ entry.job.id
    rw [List.filter_cons_of_neg (by simp), hrest, List.filter_filter] at hfiltered
    refine hfiltered.trans (List.Perm.of_eq (List.filter_congr fun j _ => ?_))
    simp [and_comm, not_or]

/-! ## What a call does -/

variable {merge : List S → S}

abbrev aloneOn (C S : Type) : Prog.Contract (lang C S) (World C) := Prog.alone World.Answers

theorem sat_submit {context : C} {priority : Int} {Q : CollectorJob C → World C → Prop}
    {E : Raised → World C → Prop}
    (h : ∀ job, job.id ∉ g.submitted.map (·.id) → job.id ∉ g.executed → Q job (g.put job)) :
    Sat (aloneOn C S) (submit context priority) g Q E := by
  refine Prog.sat_stmt ?_
  rintro job g₁ ⟨_, _, hnew, hunknown, rfl⟩
  refine Prog.sat_stmt ?_
  rintro _ g₂ rfl
  exact h job hnew hunknown

theorem sat_runJob {Q : CollectorExecutionResult S → World C → Prop} {E : Raised → World C → Prop}
    (hok : ∀ result, Q result (g.execute job)) (hraises : ∀ e, E e (g.execute job)) :
    Sat (aloneOn C S) (runJob job) g Q E := by
  refine Prog.sat_stmt ?_
  rintro (e | result) g₁ hact
  · cases hact
    exact hraises e
  · cases hact
    exact hok result

theorem sat_runNext {Q : CollectorExecutionResult S → World C → Prop} {E : Raised → World C → Prop}
    (h : ∀ before entry after, g.queue = before ++ entry :: after →
      (∀ result, Q result ({ g with queue := before ++ after }.execute entry.job)) ∧
      ∀ e, E e ({ g with queue := before ++ after }.execute entry.job)) :
    Sat (aloneOn C S) runNext g Q E := by
  refine Prog.sat_stmt ?_
  rintro job g₁ ⟨before, entry, after, hqueue, _, rfl, rfl⟩
  obtain ⟨hok, hraises⟩ := h before entry after hqueue
  exact sat_runJob hok hraises

theorem sat_stop {Q : Unit → World C → Prop} {E : Raised → World C → Prop}
    (hok : ∀ u, Q u g) (hraises : ∀ e, E e g) : Sat (aloneOn C S) stop g Q E := by
  refine Prog.sat_stmt ?_
  rintro (e | u) g₁ hact
  · cases hact
    exact hraises e
  · cases hact
    exact hok u

/-- A job that was executed is in the queue. -/
def Stale (g : World C) : Prop := ∃ entry ∈ g.queue, entry.job.id ∈ g.executed

theorem Stale.put (h : Stale g) (job : CollectorJob C) : Stale (g.put job) := by
  obtain ⟨entry, hmem, hexecuted⟩ := h
  exact ⟨entry, List.mem_append_left _ hmem, hexecuted⟩

theorem stale_execute_put (g : World C) (job : CollectorJob C) :
    Stale ((g.put job).execute job) :=
  ⟨_, List.mem_append_right _ (List.mem_singleton.2 rfl),
    List.mem_append_right _ (List.mem_singleton.2 rfl)⟩

theorem Consistent.not_stale (h : Consistent g) : ¬ Stale g := by
  rintro ⟨entry, hmem, hexecuted⟩
  have hfiltered := h.queue.mem_iff.1 (List.mem_map_of_mem hmem)
  simpa [hexecuted] using (List.mem_filter.1 hfiltered).2

/-- What a collection does once the services are started. -/
structure Collected (g : World C) (contexts : List C) (g' : World C) : Prop where
  failedStarts : g'.failedStarts = g.failedStarts
  nothing : contexts = [] → g' = g
  stale : contexts ≠ [] → Stale g'

theorem sat_collect {contexts : List C} :
    Sat (aloneOn C S) (collect merge contexts) g
      (fun _ g' => g' = g.failStart ∨ Collected g contexts g')
      (fun _ g' => g' = g.failStart ∨ Collected g contexts g') := by
  refine sat_bind (Prog.sat_stmt ?_)
  rintro (e | _) g₁ hact
  · exact .inl hact
  obtain rfl : g₁ = g := hact
  have hloop : Sat (aloneOn C S) (contexts.foldlM collectOne ([], [])) g₁
      (fun (_ : List S × List (CollectorExecutionResult S)) => Collected g₁ contexts)
      (fun _ => Collected g₁ contexts) := by
    refine sat_foldlM_list (I := fun done _ => Collected g₁ done)
      (fun done context rest sofar g₂ hl hdone => ?_) ⟨rfl, fun _ => rfl, fun h => absurd rfl h⟩
    have hcollected : ∀ all : List C, all ≠ [] → ∀ job,
        Collected g₁ all ((g₂.put job).execute job) := fun all hne job =>
      ⟨hdone.failedStarts, fun h => absurd h hne, fun _ => stale_execute_put g₂ job⟩
    refine sat_bind (sat_submit fun job _ _ => ?_)
    refine sat_bind (sat_runJob (fun result => sat_pure ?_) fun e => ?_)
    · exact hcollected _ (by simp) job
    · exact hcollected _ (by simp [hl]) job
  refine sat_bind (sat_tryCatch (sat_bind (hloop.mono (fun sofar g₂ h => sat_pure ?_)
    fun e g₂ h => sat_pure ?_)))
  · refine sat_bind (sat_stop (fun _ => ?_) fun _ => .inr h)
    exact sat_pure (.inr h)
  · refine sat_bind (sat_stop (fun _ => ?_) fun _ => .inr h)
    exact sat_throw (.inr h)

/-! ## Sequences of calls, followed -/

/-- What the program of a call leaves, the call leaves. -/
theorem CallStep.post {α : Type} {call : Call C} {m : Engine C S α} {Q : World C → Prop}
    (hstep : CallStep merge g call g') (hprogram : call.program merge = m >>= fun _ => pure ())
    (h : Sat (aloneOn C S) m g (fun _ => Q) fun _ => Q) : Q g' := by
  obtain ⟨r, hrun⟩ := hstep
  rw [hprogram] at hrun
  exact Raises.Sat.runs (sat_bind (h.mono (fun _ _ hq => sat_pure hq) fun _ _ hq => hq)) hrun

/-- A call that runs no submitted job by name keeps the invariant. -/
theorem step_keeps {call : Call C} (hinv : Inv g) (hstep : CallStep merge g call g')
    (hqueue : FromQueue g call g') : ExecutedOnce g call g' ∧ Inv g' := by
  cases call with
  | submit context priority =>
    have hpost : Inv g' := hstep.post rfl (sat_submit fun job hnew hunknown =>
      hinv.put hnew hunknown)
    exact ⟨⟨hpost.toConsistent, fun h => by cases h⟩, hpost⟩
  | runJob job =>
    have hpost : Inv g' := hstep.post rfl (sat_runJob (fun _ => hinv.executeOther hqueue)
      fun _ => hinv.executeOther hqueue)
    exact ⟨⟨hpost.toConsistent, fun h => by cases h⟩, hpost⟩
  | runNext =>
    have hpost : Inv g' ∧ ∀ id ∈ g'.executed.drop g.executed.length, id ∉ g.executed := by
      refine hstep.post (Q := fun g' => Inv g' ∧
        ∀ id ∈ g'.executed.drop g.executed.length, id ∉ g.executed) rfl
        (sat_runNext fun before entry after hsplit => ?_)
      obtain ⟨hunexecuted, hinv'⟩ := hinv.executeNext hsplit
      have hnext : Inv ({ g with queue := before ++ after }.execute entry.job) ∧
          ∀ id ∈ (g.executed ++ [entry.job.id]).drop g.executed.length, id ∉ g.executed := by
        refine ⟨hinv', fun id hid => ?_⟩
        rw [List.drop_left, List.mem_singleton] at hid
        rwa [hid]
      exact ⟨fun _ => hnext, fun _ => hnext⟩
    exact ⟨⟨hpost.1.toConsistent, fun _ => hpost.2⟩, hpost.1⟩
  | collect contexts =>
    have hpost : g' = g.failStart ∨ Collected g contexts g' := hstep.post rfl sat_collect
    have hinv' : Inv g' := by
      rcases hpost with rfl | hcollected
      · exact ⟨⟨hinv.once, hinv.queue⟩, hinv.ids⟩
      · rcases hqueue with hnone | hfailed
        · rwa [hcollected.nothing hnone]
        · rw [hcollected.failedStarts] at hfailed
          exact absurd hfailed (Nat.lt_irrefl _)
    exact ⟨⟨hinv'.toConsistent, fun h => by cases h⟩, hinv'⟩

/-- A call that runs a submitted job by name breaks it: the job stays in the queue, or is executed
again. -/
theorem step_breaks {call : Call C} (hinv : Inv g) (hstep : CallStep merge g call g')
    (hname : ¬ FromQueue g call g') : ¬ Consistent g' := by
  cases call with
  | submit context priority => exact absurd trivial hname
  | runNext => exact absurd trivial hname
  | runJob job =>
    have hpost : g' = g.execute job := hstep.post (Q := fun g' => g' = g.execute job) rfl
      (sat_runJob (fun _ => rfl) fun _ => rfl)
    obtain ⟨submitted, hmem, hid⟩ := List.mem_map.1 (not_not.1 hname)
    intro hconsistent
    rw [hpost] at hconsistent
    by_cases hexecuted : submitted.id ∈ g.executed
    · have hcount : (g.executed ++ [job.id]).count submitted.id ≤ 1 :=
        hconsistent.once submitted hmem
      have hbefore : 0 < g.executed.count submitted.id := List.count_pos_iff.2 hexecuted
      rw [List.count_append, hid, List.count_singleton_self] at hcount
      rw [hid] at hbefore
      omega
    · refine hconsistent.not_stale ?_
      have hqueued := hinv.queue.mem_iff.2 (List.mem_filter.2 ⟨hmem, by simpa using hexecuted⟩)
      obtain ⟨entry, hentry, heq⟩ := List.mem_map.1 hqueued
      refine ⟨entry, hentry, List.mem_append_right _ (List.mem_singleton.2 ?_)⟩
      rw [heq, hid]
  | collect contexts =>
    have hpost : g' = g.failStart ∨ Collected g contexts g' := hstep.post rfl sat_collect
    obtain ⟨hsome, hstarted⟩ := not_or.1 hname
    rcases hpost with rfl | hcollected
    · exact absurd (Nat.lt_succ_self _) hstarted
    · exact fun hconsistent => hconsistent.not_stale (hcollected.stale hsome)

/-- From an empty runtime, every sequence of calls executes each submitted job once, from the queue,
if and only if none of them runs a submitted job by name. -/
theorem executed_once_iff (merge : List S → S) (calls : List (Call C × World C))
    (hrun : Run (CallStep merge) {} calls) :
    Throughout ExecutedOnce {} calls ↔ Throughout FromQueue {} calls := by
  have hstart : Inv ({} : World C) := ⟨⟨by simp, by simp⟩, by simp⟩
  have hiff : ∀ (g : World C) call g', Inv g → CallStep merge g call g' →
      (ExecutedOnce g call g' ↔ FromQueue g call g') := by
    intro g call g' hinv hstep
    constructor
    · intro honce
      by_contra hname
      exact step_breaks hinv hstep hname honce.consistent
    · exact fun hqueue => (step_keeps hinv hstep hqueue).1
  refine throughout_iff hiff (fun g call g' hinv hstep honce => ?_) hstart hrun
  exact (step_keeps hinv hstep ((hiff g call g' hinv hstep).1 honce)).2

/-! ## One job -/

def oneJob : CollectorJob Unit := { id := 1, context := (), priority := 0 }

def jobSubmitted : World Unit := World.put {} oneJob

/-- The job was taken from the queue and executed. -/
def jobTaken : World Unit := { jobSubmitted with queue := [] }.execute oneJob

/-- The job was executed by name, and is still in the queue. -/
def jobNamed : World Unit := jobSubmitted.execute oneJob

/-- The job was executed by name, and then taken from the queue. -/
def jobRepeated : World Unit := { jobNamed with queue := [] }.execute oneJob

theorem submit_one (merge : List Unit → Unit) :
    CallStep merge {} (.submit () 0) jobSubmitted :=
  ⟨.ok (), oneJob, _, ⟨rfl, rfl, by simp, by simp, rfl⟩, (), _, rfl, rfl, rfl⟩

theorem next_one (merge : List Unit → Unit) : CallStep merge jobSubmitted .runNext jobTaken :=
  ⟨.ok (), oneJob, _, ⟨[], _, [], rfl, by simp, rfl, rfl⟩, .ok ⟨1, none⟩, _, rfl, rfl, rfl⟩

theorem name_one (merge : List Unit → Unit) :
    CallStep merge jobSubmitted (.runJob oneJob) jobNamed :=
  ⟨.ok (), .ok ⟨1, none⟩, _, rfl, rfl, rfl⟩

theorem next_again (merge : List Unit → Unit) : CallStep merge jobNamed .runNext jobRepeated :=
  ⟨.ok (), oneJob, _, ⟨[], _, [], rfl, by simp, rfl, rfl⟩, .ok ⟨1, none⟩, _, rfl, rfl, rfl⟩

theorem one_executed_once : Throughout ExecutedOnce ({} : World Unit)
    [(.submit () 0, jobSubmitted), (.runNext, jobTaken)] :=
  (executed_once_iff (fun _ => ()) [(.submit () 0, jobSubmitted), (.runNext, jobTaken)]
    ⟨submit_one _, next_one _, trivial⟩).2 ⟨trivial, trivial, trivial⟩

/-- A job that was run by name is run again from the queue. -/
theorem named_runs_again : ¬ ∀ calls : List (Call Unit × World Unit),
    Run (CallStep fun _ : List Unit => ()) {} calls → Throughout ExecutedOnce {} calls := by
  intro h
  have hall := h [(.submit () 0, jobSubmitted), (.runJob oneJob, jobNamed), (.runNext, jobRepeated)]
    ⟨submit_one _, name_one _, next_again _, trivial⟩
  have honce := hall.2.2.1.consistent.once oneJob (by simp [jobRepeated, jobNamed, jobSubmitted,
    World.put, World.execute])
  exact absurd honce (by decide)

end Runtime
end Collectors
end NetOps
