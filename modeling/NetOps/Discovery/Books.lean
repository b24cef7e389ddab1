import NetOps.Conc.Shared
import NetOps.Discovery.Accounting
import NetOps.Discovery.ExecutionStatements

/-!
# Discovery.Books

The books of a fan-out while its children run: which result belongs to which child and address,
and what the children's jobs and targets say of that.

* `bookFocus`: what matters of the rows, and `Book`: what the books say.
* `Tending`: a child's program leaves the books as they are, whatever the other children do in
  their session meanwhile, as long as no device reports another address (`Reported`). One lemma
  per function, up to `runChild_tending`.
-/

namespace NetOps
namespace Discovery
namespace DiscoveryFanoutService

open Conc Text DiscoveryJobRepository

/-! ## What matters -/

/-- A scope job, its target, the limit of its expansion and the addresses expected of it. -/
structure FanOut where
  job : DiscoveryJobRecord
  target : DiscoveryTargetRecord
  maxTargets : Nat
  expected : List String

/-- The name of the target of one address. -/
def FanOut.childName (b : FanOut) (address : String) : String :=
  s!"{b.target.identifier}:{address}"

/-- What a target is to the books: its name and its scope. -/
structure TargetIdentity where
  identifier : String
  scope : DiscoveryScope

/-- The children and addresses of the results, the addresses recorded with the run, what the scope
job and its children are, and its target and those with the name of a child. -/
abbrev bookFocus (b : FanOut) : Focus schema where
  What
    | .results => UUID × String
    | .runs => Except Exn (List String)
    | .jobs => JobIdentity
    | .targets => TargetIdentity
    | _ => Unit
  of
    | .results, r =>
      if r.tenantId = b.job.tenantId ∧ r.discoveryJobId = b.job.id then
        some (r.childJobId, r.address)
      else none
    | .runs, r =>
      if r.id = b.job.runId then some (expectedOf r b.target.scope b.maxTargets) else none
    | .jobs, r =>
      if r.id = b.job.id ∨ r.parentJobId = some b.job.id then some r.identity else none
    | .targets, r =>
      if r.tenantId = b.job.tenantId ∧
          (r.id = b.job.targetId ∨ r.identifier ∈ b.expected.map b.childName) then
        some ⟨r.identifier, r.scope⟩
      else none
    | .profiles, _ | .attempts, _ | .evidence, _ | .snapshots, _ => none

/-- What the books say. -/
abbrev Entries (b : FanOut) := (bookFocus b).Map

variable {b : FanOut} {W : Entries b}

/-- The target has the address. -/
def TargetAt (b : FanOut) (W : Entries b) (k : UUID) (address : String) : Prop :=
  ∃ y : TargetIdentity, W .targets k = some y ∧ y.scope.address = some address

/-- Job `k` is a child of the scope job with a run of its own, and its target has the address. -/
def ChildAt (b : FanOut) (W : Entries b) (k : UUID) (address : String) : Prop :=
  ∃ x : JobIdentity, W .jobs k = some x ∧ x.parentJobId = some b.job.id ∧
    x.runId ≠ b.job.runId ∧ TargetAt b W x.targetId address

/-- The books agree: every result is about an expected address and a child of it, no address and
no child has two, and a target with the name of a child has its address. -/
structure Book (b : FanOut) (W : Entries b) : Prop where
  root : W .jobs b.job.id = some b.job.identity
  target : W .targets b.job.targetId = some ⟨b.target.identifier, b.target.scope⟩
  run : W .runs b.job.runId = some (.ok b.expected)
  named : ∀ (k : UUID) (y : TargetIdentity), W .targets k = some y →
    ∀ a ∈ b.expected, y.identifier = b.childName a → y.scope.address = some a
  result : ∀ (i k : UUID) (a : String), W .results i = some (k, a) →
    a ∈ b.expected ∧ ChildAt b W k a
  address : ∀ (i i' k k' : UUID) (a : String), W .results i = some (k, a) →
    W .results i' = some (k', a) → i = i'
  child : ∀ (i i' k : UUID) (a a' : String), W .results i = some (k, a) →
    W .results i' = some (k, a') → i = i'
  children : ∀ (k : UUID) (x : JobIdentity), W .jobs k = some x →
    x.parentJobId = some b.job.id → ∃ i a, W .results i = some (k, a)

/-- Every expected address has its result. -/
def Full (b : FanOut) (W : Entries b) : Prop :=
  ∀ a ∈ b.expected, ∃ i k, W .results i = some (k, a)

/-! ## Rows -/

theorem book_result {r : DiscoveryDeviceResultRecord} {k : UUID} {a : String} :
    (bookFocus b).of .results r = some (k, a) ↔
      (r.tenantId = b.job.tenantId ∧ r.discoveryJobId = b.job.id) ∧ r.childJobId = k ∧
        r.address = a := by
  simp only [bookFocus, Option.ite_none_right_eq_some, Option.some.injEq, Prod.mk.injEq]

theorem book_job {r : DiscoveryJobRecord} {x : JobIdentity} :
    (bookFocus b).of .jobs r = some x ↔
      (r.id = b.job.id ∨ r.parentJobId = some b.job.id) ∧ r.identity = x := by
  simp only [bookFocus, Option.ite_none_right_eq_some, Option.some.injEq]

theorem book_run {r : DiscoveryRunRecord} {x : Except Exn (List String)} :
    (bookFocus b).of .runs r = some x ↔
      r.id = b.job.runId ∧ expectedOf r b.target.scope b.maxTargets = x := by
  simp only [bookFocus, Option.ite_none_right_eq_some, Option.some.injEq]

theorem book_target {r : DiscoveryTargetRecord} {y : TargetIdentity} :
    (bookFocus b).of .targets r = some y ↔
      (r.tenantId = b.job.tenantId ∧
        (r.id = b.job.targetId ∨ r.identifier ∈ b.expected.map b.childName)) ∧
        ⟨r.identifier, r.scope⟩ = y := by
  simp only [bookFocus, Option.ite_none_right_eq_some, Option.some.injEq]

/-! ## Statements -/

/-- No device reports another address than the one its result has. -/
def Reported (b : FanOut) (W : Entries b) : (c : Statement) → Except DbError c.Ans → Prop
  | .ext (.processPayload jobId), .ok (.ok snapshot) =>
    ∀ (i : UUID) (a : String), W .results i = some (jobId, a) →
      orElse (snapshot.managementIp.getD "") a = a
  | _, _ => True

/-- The writes that are none of the books'. -/
def offBooks : Kind → Bool
  | .update site => site != .run
  | .insert t => t == .attempts || t == .evidence || t == .snapshots
  | .change t => t == .attempts
  | _ => true

/-- An `UPDATE` of a job leaves what it is. -/
theorem update_tends {u : JobUpdate} (hu : JobStatement u) :
    Stmt.Tends (bookFocus b) W u.statement := by
  intro r _ hr
  obtain ⟨hid, htenant, htarget, hrun, hparent⟩ := hu.identity r
  have hidentity : (u.values r).identity = r.identity := by
    simp only [DiscoveryJobRecord.identity, htenant, htarget, hrun, hparent]
  refine ⟨hid, ?_⟩
  rw [← hr]
  simp only [bookFocus, hid, hparent, hidentity]

theorem stated_tends {c : Statement} (hc : Stated (fun k => offBooks k = true) c) :
    c.Tends (bookFocus b) W := by
  obtain ⟨hissued, hplaced⟩ := hc
  cases hissued with
  | job hu _ => exact update_tends hu
  | newJob a id now hA => cases hA
  | update ht site p f _ hA =>
    rcases hplaced with rfl | ⟨rfl, rfl⟩
    · exact absurd rfl ht
    · cases hA
  | @insert t ht r hA => cases t <;> first | rfl | cases hA
  | @change t ht id f hkey hA =>
    cases t <;> first | exact fun r => ⟨hkey r, fun _ hr => hr⟩ | cases hA
  | _ => trivial

/-! ## Programs of one session -/

variable {α β : Type}

/-- The program leaves the books as they are, whatever the other programs of its session do, as
long as they do too and no device reports another address; `Q` holds of what it returns. -/
abbrev Tending (b : FanOut) (W : Entries b) (m : M α) (Q : α → Prop) : Prop :=
  Raises.Sat (Prog.stateless (L := lang)
    (fun c r => Stmt.Heard (bookFocus b) W c r ∧ Reported b W c r) (Stmt.Tends (bookFocus b) W))
    m () (fun a _ => Q a) fun _ _ => True

namespace Tending

theorem bind {m : M α} {f : α → M β} {R : α → Prop} {Q : β → Prop} (h : Tending b W m R)
    (hf : ∀ a, R a → Tending b W (f a) Q) : Tending b W (m >>= f) Q :=
  Raises.sat_bind (h.mono (fun a _ ha => hf a ha) fun _ _ _ => trivial)

theorem pure {a : α} {Q : α → Prop} (h : Q a) : Tending b W (Pure.pure a) Q := h

theorem throw {e : Exn} {Q : α → Prop} : Tending b W (throw e) Q := trivial

theorem imp {m : M α} {Q Q' : α → Prop} (h : Tending b W m Q) (hQ : ∀ a, Q a → Q' a) :
    Tending b W m Q' :=
  h.mono (fun a _ => hQ a) fun _ _ _ => trivial

theorem tryCatch {m : M α} {h : Exn → M α} {Q : α → Prop} (hm : Tending b W m Q)
    (hh : ∀ e, Tending b W (h e) Q) : Tending b W (tryCatch m h) Q :=
  Raises.sat_tryCatch (hm.mono (fun _ _ hq => hq) fun e _ _ => hh e)

theorem catching {m : M α} {Q : α → Prop} (h : Tending b W m Q) :
    Tending b W (Discovery.catching m) fun r => ∀ a, r = .ok a → Q a := by
  refine tryCatch (h.bind fun a ha => pure ?_) fun e => pure ?_
  · rintro _ ⟨⟩
    exact ha
  · rintro _ ⟨⟩

theorem raiseIf (c : Prop) [Decidable c] (e : Exn) :
    Tending b W (raiseIf c e) fun _ => True := by
  unfold Discovery.raiseIf
  split
  · exact throw
  · exact pure trivial

theorem ask {c : Statement} (hc : Stmt.Tends (bookFocus b) W c) :
    Tending b W (ask c) fun a => Stmt.Heard (bookFocus b) W c (.ok a) ∧ Reported b W c (.ok a) :=
  sat_ask fun _ _ => ⟨hc, fun _ _ ha => ha, fun _ _ _ => trivial⟩

theorem of_issues {m : M α} (h : Issues (fun k => offBooks k = true) m) :
    Tending b W m fun _ => True :=
  Raises.All.sat (I := fun _ => True) (fun _ _ _ _ _ => trivial) (fun _ _ _ _ _ _ _ => trivial)
    (fun _ _ hc _ => stated_tends hc) h trivial

end Tending

/-! ## The job of a child -/

/-- The job's result is for the address, its run is its own, and its target has the address. -/
structure Enrolled (b : FanOut) (W : Entries b) (job : DiscoveryJobRecord) (address : String) :
    Prop where
  filed : ∃ i, W .results i = some (job.id, address)
  run : job.runId ≠ b.job.runId
  target : TargetAt b W job.targetId address

variable {job : DiscoveryJobRecord} {a : String}

theorem Book.enrolled (hbook : Book b W) (hfiled : ∃ i, W .results i = some (job.id, a))
    (hjob : (bookFocus b).of .jobs job = W .jobs job.id) : Enrolled b W job a := by
  obtain ⟨i, hi⟩ := hfiled
  obtain ⟨_, x, hx, _, hrun, htarget⟩ := hbook.result i job.id a hi
  rw [hx] at hjob
  obtain ⟨_, rfl⟩ := book_job.1 hjob
  exact ⟨⟨i, hi⟩, hrun, htarget⟩

/-- The results of the job are for its address. -/
theorem Enrolled.address (h : Enrolled b W job a) (hbook : Book b W) {i : UUID} {a' : String}
    (hi : W .results i = some (job.id, a')) : a' = a := by
  obtain ⟨i', hi'⟩ := h.filed
  have heq := hbook.child i i' job.id a' a hi hi'
  rw [heq, hi', Option.some.injEq, Prod.mk.injEq] at hi
  exact hi.2.symm

theorem get_tending (tenantId : String) (jobId : UUID) :
    Tending b W (get tenantId jobId) fun found => ∀ job, found = some job →
      job.id = jobId ∧ (bookFocus b).of .jobs job = W .jobs job.id := by
  refine (Tending.ask (c := .select .jobs _) trivial).bind fun rows hrows => ?_
  refine Tending.pure fun job hjob => ?_
  obtain ⟨hp, hof⟩ := hrows.1.1 job (List.mem_of_mem_head? hjob)
  simp only [Bool.and_eq_true, beq_iff_eq] at hp
  exact ⟨hp.1, hof⟩

theorem getExisting_tending (tenantId : String) (jobId : UUID) :
    Tending b W (getExisting tenantId jobId) fun job =>
      job.id = jobId ∧ (bookFocus b).of .jobs job = W .jobs job.id := by
  refine (get_tending tenantId jobId).bind fun found hfound => ?_
  cases found with
  | some job => exact Tending.pure (hfound job rfl)
  | none => exact Tending.throw

theorem claim_tending (tenantId : String) (jobId : UUID) (owner : Option UUID)
    (leaseSeconds : DateTime) :
    Tending b W (claim tenantId jobId owner leaseSeconds) fun job =>
      job.id = jobId ∧ (bookFocus b).of .jobs job = W .jobs job.id := by
  refine (Tending.raiseIf _ _).bind fun _ _ => (Tending.raiseIf _ _).bind fun _ _ => ?_
  refine (Tending.of_issues (issues_ownerOrNew owner)).bind fun owner _ => ?_
  refine (get_tending tenantId jobId).bind fun found _ => ?_
  cases found with
  | none => exact Tending.throw
  | some job =>
    refine (Tending.of_issues issues_utcNow).bind fun now _ => ?_
    refine (Tending.of_issues (issues_execute (.claim ..) rfl)).bind fun ids _ => ?_
    dsimp only
    split
    · exact (Tending.of_issues issues_rollback).bind fun _ _ => Tending.throw
    · exact (Tending.of_issues issues_flush).bind fun _ _ => getExisting_tending tenantId jobId

/-! ## The result of a child -/

variable {f : DiscoveryDeviceResultRecord → DiscoveryDeviceResultRecord}

/-- The change of a result that keeps what the books say of it. -/
theorem keepsResult_keeps (hf : KeepsResult f) (id : UUID) :
    Change.Keeps (bookFocus b) (⟨.results, id, f⟩ : Change schema) := by
  intro r
  refine ⟨hf.id r, ?_⟩
  simp only [bookFocus, hf.tenantId, hf.discoveryJobId, hf.childJobId, hf.address]

theorem setResult_tending (hf : KeepsResult f) (result : DiscoveryDeviceResultRecord) :
    Tending b W (setResult result f) fun _ => True :=
  (Tending.ask (c := .change .results result.id f) ((keepsResult_keeps hf _).tends W)).bind
    fun _ _ => Tending.pure trivial

/-- The change of a result that gives it the address. -/
structure Readdresses (a : String)
    (f : DiscoveryDeviceResultRecord → DiscoveryDeviceResultRecord) : Prop where
  id : ∀ r, (f r).id = r.id
  tenantId : ∀ r, (f r).tenantId = r.tenantId
  discoveryJobId : ∀ r, (f r).discoveryJobId = r.discoveryJobId
  childJobId : ∀ r, (f r).childJobId = r.childJobId
  address : ∀ r, (f r).address = a

/-- A result of the job gets the address it has. -/
theorem readdress_tending (hbook : Book b W) (hjob : Enrolled b W job a) (hf : Readdresses a f)
    {result : DiscoveryDeviceResultRecord} (hchild : result.childJobId = job.id)
    (hresult : (bookFocus b).of .results result = W .results result.id) :
    Tending b W (setResult result f) fun _ => True := by
  refine (Tending.ask (c := .change .results result.id f) fun r => ?_).bind fun _ _ =>
    Tending.pure trivial
  refine ⟨hf.id r, fun _ hr => ?_⟩
  cases hW : W .results result.id with
  | none =>
    rw [← hW, ← hr]
    rw [hW] at hr
    simp only [bookFocus, ite_eq_right_iff, reduceCtorEq] at hr
    simp only [bookFocus, hf.tenantId, hf.discoveryJobId]
    rw [if_neg hr, if_neg hr]
  | some entry =>
    obtain ⟨k, a'⟩ := entry
    rw [hW] at hr hresult
    obtain ⟨hroot, hk, _⟩ := book_result.1 hr
    obtain ⟨_, hk', _⟩ := book_result.1 hresult
    have ha : a' = a := by
      refine hjob.address hbook (i := result.id) ?_
      rw [hW, ← hchild, hk']
    refine book_result.2 ⟨?_, ?_, ?_⟩
    · rw [hf.tenantId, hf.discoveryJobId]
      exact hroot
    · rw [hf.childJobId, hk]
    · rw [hf.address, ha]

open DiscoveryExecutionService MultiTransportDiscoveryOrchestrator

/-- The result of the job is found. -/
theorem findDeviceResult_tending {tenantId : String} (htenant : tenantId = b.job.tenantId)
    (hjob : Enrolled b W job a) :
    Tending b W (findDeviceResult tenantId job.id) fun found => ∃ result, found = some result ∧
      result.childJobId = job.id ∧ (bookFocus b).of .results result = W .results result.id := by
  refine (Tending.ask (c := .select .results _) trivial).bind ?_
  rintro rows ⟨⟨hrows, hall⟩, _⟩
  obtain ⟨i, hi⟩ := hjob.filed
  obtain ⟨r, _, hof, hin⟩ := hall i _ hi
  obtain ⟨⟨hr, _⟩, hk, _⟩ := book_result.1 hof
  have hmem : r ∈ rows := hin (by simp [hk, hr, htenant])
  obtain ⟨result, rest, rfl⟩ := List.exists_cons_of_ne_nil (List.ne_nil_of_mem hmem)
  obtain ⟨hp, hresult⟩ := hrows result List.mem_cons_self
  simp only [Bool.and_eq_true, beq_iff_eq] at hp
  exact Tending.pure ⟨result, rfl, hp.1, hresult⟩

/-- What the execution of a job is told of its target. -/
structure Aimed (b : FanOut) (target : DiscoveryTargetRecordView) (a : String) : Prop where
  tenant : target.tenantId = b.job.tenantId
  address : target.address = a

variable {target : DiscoveryTargetRecordView}

theorem resolveTarget_tending (hjob : Enrolled b W job a) (tenantId : String) :
    Tending b W (resolveTarget job tenantId) fun target => Aimed b target a := by
  refine (Tending.ask (c := .get .targets job.targetId) trivial).bind ?_
  rintro found ⟨⟨hfound, _⟩, _⟩
  cases found with
  | none => exact Tending.throw
  | some row =>
    dsimp only
    split
    · exact Tending.throw
    · obtain ⟨y, hy, haddress⟩ := hjob.target
      obtain ⟨_, hof⟩ := hfound row rfl
      rw [hy] at hof
      obtain ⟨⟨htenant, _⟩, rfl⟩ := book_target.1 hof
      exact Tending.pure ⟨htenant, Option.some.inj haddress⟩

theorem attemptResult_tending (hjob : Enrolled b W job a) (htarget : Aimed b target a) :
    Tending b W (attemptResult job target) fun _ => True := by
  refine (findDeviceResult_tending htarget.tenant hjob).bind ?_
  rintro _ ⟨result, rfl, _⟩
  exact Tending.pure trivial

theorem startTransportAttempt_tending (hjob : Enrolled b W job a) (htarget : Aimed b target a) :
    Tending b W (startTransportAttempt job target) fun _ => True :=
  (attemptResult_tending hjob htarget).bind fun _ _ =>
    Tending.of_issues (DiscoveryTransportAttemptRepository.start_issues _ _ _ _ _ (by decide))

theorem processPayload_tending (hjob : Enrolled b W job a) :
    Tending b W (processPayload job.id) fun snapshot =>
      orElse (snapshot.managementIp.getD "") a = a := by
  refine (Tending.ask (c := .ext (.processPayload job.id)) trivial).bind ?_
  rintro answer ⟨_, hreported⟩
  cases answer with
  | error e => exact Tending.throw
  | ok snapshot =>
    obtain ⟨i, hi⟩ := hjob.filed
    exact Tending.pure (hreported i a hi)

/-- A discovered device gives its result the address it has. -/
theorem recordDeviceResult_tending (hbook : Book b W) (hjob : Enrolled b W job a)
    (htarget : Aimed b target a) {snapshot : ProcessedSnapshot}
    (hsnapshot : orElse (snapshot.managementIp.getD "") a = a) (selectedTransport : Option String)
    (resultState : DiscoveryResultState) :
    Tending b W (recordDeviceResult job target snapshot selectedTransport resultState)
      fun _ => True := by
  refine (findDeviceResult_tending htarget.tenant hjob).bind ?_
  rintro _ ⟨result, rfl, hchild, hresult⟩
  refine (Tending.of_issues issues_utcNow).bind fun now _ => ?_
  refine (readdress_tending hbook hjob ?_ hchild hresult).bind fun _ _ => Tending.pure trivial
  refine ⟨fun _ => rfl, fun _ => rfl, fun _ => rfl, fun _ => rfl, fun r => ?_⟩
  change orElse (snapshot.managementIp.getD "") target.address = a
  rw [htarget.address, hsnapshot]

theorem ensureDeviceResultForFailure_tending (hbook : Book b W) (hjob : Enrolled b W job a)
    (htarget : Aimed b target a) (code : DiscoveryFailureCode) (message : Option String)
    (selectedTransport : Option String) :
    Tending b W (ensureDeviceResultForFailure job target code message selectedTransport)
      fun _ => True := by
  refine (findDeviceResult_tending htarget.tenant hjob).bind ?_
  rintro _ ⟨result, rfl, hchild, hresult⟩
  refine (Tending.of_issues issues_utcNow).bind fun now _ => ?_
  refine (readdress_tending hbook hjob ?_ hchild hresult).bind fun _ _ =>
    Tending.of_issues issues_flush
  exact ⟨fun _ => rfl, fun _ => rfl, fun _ => rfl, fun _ => rfl, fun _ => htarget.address⟩

theorem startDeviceResult_tending (hjob : Enrolled b W job a) {tenantId : String}
    (htenant : tenantId = b.job.tenantId) (parentJobId : Option UUID) :
    Tending b W (startDeviceResult tenantId job target parentJobId) fun _ => True := by
  refine (findDeviceResult_tending htenant hjob).bind ?_
  rintro _ ⟨result, rfl, _⟩
  refine (Tending.of_issues issues_utcNow).bind fun now _ => ?_
  refine (setResult_tending ?_ result).bind fun _ _ =>
    (Tending.of_issues issues_flush).bind fun _ _ => Tending.pure trivial
  exact ⟨fun _ => rfl, fun _ => rfl, fun _ => rfl, fun _ => rfl, fun _ => rfl⟩

/-- The run of a child is not the run of the scope job. -/
theorem finalizeSingleDeviceRun_tending {runId : UUID} (hrun : runId ≠ b.job.runId)
    (resultState : DiscoveryResultState) :
    Tending b W (finalizeSingleDeviceRun runId resultState) fun _ => True := by
  refine (Tending.of_issues (issues_sessionGet .runs runId)).bind fun run _ => ?_
  cases run with
  | none => exact Tending.pure trivial
  | some run =>
    refine (Tending.of_issues issues_utcNow).bind fun now _ => ?_
    refine (Tending.ask (c := .update .run .runs _ _) fun r hr hof => ?_).bind fun _ _ =>
      Tending.pure trivial
    have hother : ¬ r.id = b.job.runId := by
      rw [beq_iff_eq.1 hr]
      exact hrun
    refine ⟨rfl, ?_⟩
    rw [← hof]
    exact (if_neg hother).trans (if_neg hother).symm

/-! ## The multi-transport path -/

theorem check_tending (w : Watch) : Tending b W (raiseIfCancelled w) fun _ => True :=
  Tending.of_issues (raiseIfCancelled_issues w rfl)

/-- The work of a child. -/
structure Working (b : FanOut) (W : Entries b) (w : Work) (a : String) : Prop where
  tenant : w.tenantId = b.job.tenantId
  job : Enrolled b W w.job a
  target : Aimed b w.target a

variable {w : Work}

theorem publishDiscovered_tending (hbook : Book b W) (hw : Working b W w a)
    (result : DiscoveryDeviceResultRecord) (collector : Collector)
    (mt : MultiTransportDiscoveryResult) (payload : PyDict) :
    Tending b W (publishDiscovered w result collector mt payload) fun _ => True := by
  refine (Tending.of_issues (recordSelection_issues _ _ _ _ rfl)).bind fun _ _ => ?_
  refine (check_tending _).bind fun _ _ => ?_
  refine (Tending.of_issues (createEvidence_issues _ _ _ rfl)).bind fun _ _ => ?_
  refine (Tending.of_issues (issues_commit rfl)).bind fun _ _ => ?_
  refine (check_tending _).bind fun _ _ => ?_
  refine (processPayload_tending hw.job).bind fun snapshot hsnapshot => ?_
  refine (check_tending _).bind fun _ _ => ?_
  refine (Tending.of_issues (addLiveSnapshot_issues _ _ _ rfl)).bind fun _ _ => ?_
  refine (recordDeviceResult_tending hbook hw.job hw.target hsnapshot _ _).bind fun _ _ => ?_
  refine (Tending.of_issues (transition_issues _ fun _ => rfl)).bind fun completed _ => ?_
  refine (finalizeSingleDeviceRun_tending hw.job.run _).bind fun _ _ => ?_
  refine (Tending.of_issues (issues_commit rfl)).bind fun _ _ => ?_
  refine (setResult_tending ?_ result).bind fun _ _ =>
    (Tending.of_issues issues_flush).bind fun _ _ => Tending.pure trivial
  exact ⟨fun _ => rfl, fun _ => rfl, fun _ => rfl, fun _ => rfl, fun _ => rfl⟩

theorem failChain_tending (hbook : Book b W) (hw : Working b W w a)
    (result : DiscoveryDeviceResultRecord) (mt : MultiTransportDiscoveryResult) :
    Tending b W (failChain w result mt) fun _ => True := by
  refine (setResult_tending ?_ result).bind fun _ _ => ?_
  · exact ⟨fun _ => rfl, fun _ => rfl, fun _ => rfl, fun _ => rfl, fun _ => rfl⟩
  refine (Tending.of_issues (markFailedAfterRollback_issues _ _ _ _ _ rfl)).bind
    fun failed _ => ?_
  refine (finalizeSingleDeviceRun_tending hw.job.run _).bind fun _ _ => ?_
  refine (ensureDeviceResultForFailure_tending hbook hw.job hw.target _ _ _).bind fun _ _ => ?_
  exact (Tending.of_issues (issues_commit rfl)).bind fun _ _ => Tending.pure trivial

theorem concludeChain_tending (hbook : Book b W) (hw : Working b W w a)
    (result : DiscoveryDeviceResultRecord) (configs : List TransportAttemptConfig)
    (last : Collector) (mt : MultiTransportDiscoveryResult) :
    Tending b W (concludeChain w result configs last mt) fun _ => True := by
  unfold concludeChain
  split
  · refine (Tending.catching (publishDiscovered_tending hbook hw _ _ _ _)).bind fun r _ => ?_
    split
    · exact Tending.pure trivial
    · exact Tending.throw
    · exact Tending.throw
    · exact failChain_tending hbook hw _ _
  · exact failChain_tending hbook hw _ _

theorem executeMultiTransport_tending (hbook : Book b W) (hw : Working b W w a) (rt : Runtime) :
    Tending b W (executeMultiTransport rt w) fun _ => True := by
  refine (Tending.of_issues (resolveTransportPolicy_issues _)).bind fun policy _ => ?_
  refine (startDeviceResult_tending hw.job hw.tenant _).bind fun result _ => ?_
  refine (Tending.of_issues (recordUnsupportedCredentials_issues _ _ _ (by decide))).bind
    fun _ _ => ?_
  dsimp only
  split
  · exact (Tending.of_issues (issues_commit rfl)).bind fun _ _ => Tending.throw
  · refine (Tending.of_issues (discoverWithFallback_issues _ _
      (by decide) fun c hc => ?_)).bind fun mt _ => ?_
    · obtain ⟨hcheck, _⟩ := chainConfig_check hc
      exact ⟨by rw [hcheck]; exact raiseIfCancelled_issues _ rfl, rfl⟩
    · refine (Tending.of_issues (issues_commit rfl)).bind fun _ _ => ?_
      refine (setResult_tending ?_ result).bind fun _ _ => concludeChain_tending hbook hw _ _ _ _
      exact ⟨fun _ => rfl, fun _ => rfl, fun _ => rfl, fun _ => rfl, fun _ => rfl⟩

/-! ## The single-transport path -/

theorem executeSingleTransport_tending (hbook : Book b W) (hw : Working b W w a) (owner : UUID)
    (collector : Collector) (context : CollectorContext)
    (attempt : DiscoveryTransportAttemptRecord) :
    Tending b W (executeSingleTransport w owner collector context attempt) fun _ => True := by
  have hcheck : Issues (fun k => offBooks k = true) (raiseIfCancelled w.watch) :=
    raiseIfCancelled_issues _ rfl
  refine (check_tending _).bind fun _ _ => ?_
  refine (Tending.of_issues (callCollector_issues hcheck rfl _)).bind fun _ _ => ?_
  refine (check_tending _).bind fun _ _ => ?_
  refine (Tending.of_issues (callCollector_issues hcheck rfl _)).bind fun payload _ => ?_
  refine (Tending.of_issues (DiscoveryTransportAttemptRepository.finish_issues _ _ _ _
    (by decide))).bind fun _ _ => ?_
  refine (Tending.of_issues (recordSelection_issues _ _ _ _ rfl)).bind fun _ _ => ?_
  refine (check_tending _).bind fun _ _ => ?_
  refine (Tending.of_issues (createEvidence_issues _ _ _ rfl)).bind fun _ _ => ?_
  refine (Tending.of_issues (issues_commit rfl)).bind fun _ _ => ?_
  refine (check_tending _).bind fun _ _ => ?_
  refine (processPayload_tending hw.job).bind fun snapshot hsnapshot => ?_
  refine (check_tending _).bind fun _ _ => ?_
  refine (Tending.of_issues (addLiveSnapshot_issues _ _ _ rfl)).bind fun _ _ => ?_
  refine (recordDeviceResult_tending hbook hw.job hw.target hsnapshot _ _).bind fun _ _ => ?_
  refine (check_tending _).bind fun _ _ => ?_
  refine (Tending.of_issues (transition_issues _ fun _ => rfl)).bind fun completed _ => ?_
  exact (Tending.of_issues (issues_commit rfl)).bind fun _ _ => Tending.pure trivial

/-! ## execute -/

theorem acquire_tending (args : ExecuteArgs) (owner : UUID)
    (hclaimed : args.alreadyClaimed = false) :
    Tending b W (acquire args owner) fun job =>
      job.id = args.jobId ∧ (bookFocus b).of .jobs job = W .jobs job.id := by
  unfold acquire
  rw [if_neg (by simp [hclaimed])]
  refine (claim_tending _ _ _ _).bind fun job hjob => ?_
  exact (Tending.of_issues (issues_commit rfl)).bind fun _ _ => Tending.pure hjob

/-- What `begin` leaves to the single path. -/
def BegunAt (b : FanOut) (W : Entries b) (a : String) : Begun → Prop
  | .finished _ => True
  | .started w _ _ _ => Working b W w a

theorem begin_tending (hbook : Book b W) (hjob : Enrolled b W job a) (rt : Runtime)
    {args : ExecuteArgs} (htenant : args.tenantId = b.job.tenantId) :
    Tending b W (begin rt args job) (BegunAt b W a) := by
  refine (resolveTarget_tending hjob _).bind fun target htarget => ?_
  have hw : Working b W ⟨args.tenantId, job, target, args.watch⟩ a := ⟨htenant, hjob, htarget⟩
  refine (check_tending _).bind fun _ _ => (Tending.raiseIf _ _).bind fun _ _ => ?_
  dsimp only
  split
  · exact (executeMultiTransport_tending hbook hw rt).bind fun _ _ => Tending.pure trivial
  · refine (Tending.of_issues (issues_unwrap _)).bind fun _ _ => ?_
    exact (startTransportAttempt_tending hjob htarget).bind fun _ _ => Tending.pure hw

theorem finishStarted_tending (attempt : Option DiscoveryTransportAttemptRecord)
    (result : AttemptResult) (code : DiscoveryFailureCode) (message : Option String) :
    Tending b W (finishStarted attempt result code message) fun _ => True := by
  cases attempt with
  | none => exact Tending.pure trivial
  | some attempt =>
    exact Tending.of_issues
      (DiscoveryTransportAttemptRepository.finish_issues _ _ _ _ (by decide))

theorem cancelDeviceResult_tending (hjob : Enrolled b W job a) (tenantId : String) :
    Tending b W (cancelDeviceResult job tenantId) fun _ => True := by
  refine (resolveTarget_tending hjob _).bind fun target htarget => ?_
  refine (findDeviceResult_tending htarget.tenant hjob).bind ?_
  rintro _ ⟨result, rfl, _⟩
  refine (Tending.of_issues issues_utcNow).bind fun now _ => ?_
  refine (setResult_tending ?_ result).bind fun _ _ => Tending.of_issues issues_flush
  exact ⟨fun _ => rfl, fun _ => rfl, fun _ => rfl, fun _ => rfl, fun _ => rfl⟩

theorem concludeCancelled_tending (hjob : Enrolled b W job a) (tenantId : String) (owner : UUID)
    (attempt : Option DiscoveryTransportAttemptRecord) :
    Tending b W (concludeCancelled job tenantId owner attempt) fun _ => True := by
  refine (finishStarted_tending _ _ _ _).bind fun _ _ => ?_
  refine ((cancelDeviceResult_tending hjob tenantId).tryCatch fun _ => Tending.pure trivial).bind
    fun _ _ => ?_
  refine (Tending.of_issues (finaliseCancellation_issues _ _ _ rfl)).bind fun _ _ => ?_
  exact (Tending.of_issues (issues_commit rfl)).bind fun _ _ => Tending.pure trivial

theorem persistFailure_tending (hbook : Book b W) (hjob : Enrolled b W job a)
    (htarget : Aimed b target a) (tenantId : String) (owner : UUID) (code : DiscoveryFailureCode)
    (message : String) :
    Tending b W (persistFailure job tenantId owner target code message) fun _ => True := by
  refine (Tending.of_issues (markFailedAfterRollback_issues _ _ _ _ _ rfl)).bind
    fun failed _ => ?_
  refine (ensureDeviceResultForFailure_tending hbook hjob htarget _ _ _).bind fun _ _ => ?_
  exact (Tending.of_issues (issues_commit rfl)).bind fun _ _ => Tending.pure trivial

theorem concludeFailed_tending (hbook : Book b W) (hjob : Enrolled b W job a) (rt : Runtime)
    (tenantId : String) (owner : UUID) (attempt : Option DiscoveryTransportAttemptRecord)
    (e : Exn) : Tending b W (concludeFailed rt job tenantId owner attempt e) fun _ => True := by
  refine (Tending.of_issues (cancellationRequested_issues _ _)).bind fun requested _ => ?_
  dsimp only
  split
  · refine (finishStarted_tending _ _ _ _).bind fun _ _ => ?_
    refine (Tending.of_issues (finaliseCancellation_issues _ _ _ rfl)).bind fun _ _ => ?_
    exact (Tending.of_issues (issues_commit rfl)).bind fun _ _ => Tending.pure trivial
  · refine (finishStarted_tending _ _ _ _).bind fun _ _ => ?_
    refine (resolveTarget_tending hjob _).bind fun target htarget => ?_
    refine (Tending.catching (persistFailure_tending hbook hjob htarget _ _ _ _)).bind
      fun r _ => ?_
    split
    · exact Tending.pure trivial
    · exact (Tending.of_issues issues_rollback).bind fun _ _ => Tending.throw

theorem conclude_tending (hbook : Book b W) (hjob : Enrolled b W job a) (rt : Runtime)
    (tenantId : String) (owner : UUID) (attempt : Option DiscoveryTransportAttemptRecord)
    (e : Exn) : Tending b W (conclude rt job tenantId owner attempt e) fun _ => True := by
  unfold conclude
  split
  · exact concludeCancelled_tending hjob _ _ _
  · exact Tending.of_issues (concludeLeaseLost_issues _ _)
  · exact concludeFailed_tending hbook hjob _ _ _ _ _

theorem executeJob_tending (hbook : Book b W) (hjob : Enrolled b W job a) (rt : Runtime)
    {args : ExecuteArgs} (htenant : args.tenantId = b.job.tenantId) (owner : UUID) :
    Tending b W (executeJob rt args owner job) fun _ => True := by
  refine (Tending.catching (begin_tending hbook hjob rt htenant)).bind fun r hr => ?_
  split
  · exact conclude_tending hbook hjob _ _ _ _ _
  · exact Tending.pure trivial
  · rename_i w collector context attempt
    exact (executeSingleTransport_tending hbook (hr _ rfl) _ _ _ _).tryCatch fun e =>
      conclude_tending hbook hjob _ _ _ _ _

theorem execute_tending (hbook : Book b W) (rt : Runtime) {args : ExecuteArgs}
    (htenant : args.tenantId = b.job.tenantId) (hclaimed : args.alreadyClaimed = false)
    (hfiled : ∃ i, W .results i = some (args.jobId, a)) :
    Tending b W (execute rt args) fun _ => True := by
  refine (Tending.of_issues (issues_ownerOrNew _)).bind fun owner _ => ?_
  refine (Tending.catching (acquire_tending args owner hclaimed)).bind fun r hr => ?_
  split
  · exact Tending.of_issues (notAcquired_issues _)
  · exact Tending.throw
  · rename_i job
    obtain ⟨hid, hof⟩ := hr job rfl
    rw [← hid] at hfiled
    exact executeJob_tending hbook (hbook.enrolled hfiled hof) rt htenant owner

/-! ## The coroutine of a child -/

theorem cancelChild_tending (parentJobId : UUID) (child : DiscoveryJobRecord)
    (result : DiscoveryDeviceResultRecord) :
    Tending b W (cancelChild parentJobId child result) fun _ => True := by
  refine (Tending.of_issues (loadedParent_issues _)).bind fun parent _ => ?_
  have hstate : Tending b W (cancelledState parent child) fun _ => True := by
    unfold cancelledState
    split
    · exact Tending.of_issues (requestChildCancellation_issues _ _ _ rfl)
    · exact Tending.pure trivial
  refine hstate.bind fun state _ => ?_
  cases state with
  | none => exact Tending.pure trivial
  | some state =>
    refine (Tending.of_issues issues_utcNow).bind fun now _ => ?_
    refine (setResult_tending ?_ result).bind fun _ _ => Tending.of_issues (issues_commit rfl)
    exact ⟨fun _ => rfl, fun _ => rfl, fun _ => rfl, fun _ => rfl, fun _ => rfl⟩

variable {args : ScopeArgs} {child : DiscoveryJobRecord}

theorem executeChild_tending (hbook : Book b W) (rt : Runtime)
    (htenant : args.tenantId = b.job.tenantId) (owner : UUID)
    (hfiled : ∃ i, W .results i = some (child.id, a)) (result : DiscoveryDeviceResultRecord) :
    Tending b W (executeChild rt args owner child result) fun _ => True := by
  refine (Tending.of_issues issues_utcNow).bind fun now _ => ?_
  refine (setResult_tending ?_ result).bind fun result _ => ?_
  · exact ⟨fun _ => rfl, fun _ => rfl, fun _ => rfl, fun _ => rfl, fun _ => rfl⟩
  refine (Tending.of_issues (issues_commit rfl)).bind fun _ _ => ?_
  refine (execute_tending hbook rt htenant rfl hfiled).bind fun outcome _ => ?_
  refine (Tending.of_issues (refreshResult_issues _)).bind fun result _ => ?_
  refine (Tending.of_issues issues_utcNow).bind fun now _ => ?_
  refine (setResult_tending ?_ result).bind fun _ _ => Tending.of_issues (issues_commit rfl)
  exact ⟨fun _ => rfl, fun _ => rfl, fun _ => rfl, fun _ => rfl, fun _ => rfl⟩

theorem runChild_tending (hbook : Book b W) (rt : Runtime)
    (htenant : args.tenantId = b.job.tenantId) (owner : UUID)
    (hfiled : ∃ i, W .results i = some (child.id, a)) (result : DiscoveryDeviceResultRecord) :
    Tending b W (runChild rt args owner child result) fun _ => True := by
  refine (Tending.of_issues (cancellationRequested_issues _ _)).bind fun requested _ => ?_
  split
  · exact cancelChild_tending _ _ _
  · refine (Tending.of_issues (cancellationRequested_issues _ _)).bind fun requested _ => ?_
    split
    · exact cancelChild_tending _ _ _
    · exact executeChild_tending hbook rt htenant owner hfiled _

end DiscoveryFanoutService
end Discovery
end NetOps
