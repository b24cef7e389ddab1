import NetOps.Discovery.TreeOver

/-!
# Discovery.Verdicts

A scope job and its run are judged by different rules over the device results: the run succeeds if
a device was discovered and none is cancelled or interrupted, the job if a device has succeeded and
nobody asked for a cancellation. So they agree if and only if both rules say the same of the
results there were (`agree_iff`), and a cancellation that is requested after the last device was
discovered makes a cancelled job with a run that has succeeded (`agree_fails`).
-/

namespace NetOps
namespace Discovery
namespace DiscoveryFanoutService

open Conc DiscoveryJobRepository

variable {Sid : Type} {s : Sid} {job : DiscoveryJobRecord} {W W' : Known job}
  {σ : Store schema Sid} {expected : List String}

/-- A device was discovered, and none is cancelled or interrupted. -/
def discoveredOnly (results : List DiscoveryDeviceResultRecord) : Bool :=
  results.any (fun r => r.resultState == some .discovered) &&
    results.all fun r => r.resultState != some .cancelled && r.resultState != some .interrupted

/-- The root is `succeeded` exactly when its run is, and ends otherwise only with a failed run. -/
def Agree (root : DiscoveryJobRecord) (run : DiscoveryRunRecord) : Prop :=
  (root.state = .succeeded ↔ run.status = .succeeded) ∧
    (root.state = .cancelled ∨ root.state = .failed → run.status = .failed)

/-- The scope job is judged by its results: its children have come to their end, and no
cancellation was requested. -/
def Ending.judged (job : DiscoveryJobRecord) : Ending → Bool
  | .afterChildren .. => !requestedIn job
  | _ => false

/-! ## The two rules -/

theorem countState_eq_zero {results : List DiscoveryDeviceResultRecord}
    {state : DiscoveryResultState} :
    countState results state = 0 ↔ results.all (fun r => r.resultState != some state) = true := by
  rw [countState, List.countP_eq_zero, List.all_eq_true]
  simp

/-- The status a summary gives its run. -/
theorem summary_status (n : Nat) (results : List DiscoveryDeviceResultRecord)
    (metadata : RunMetadata) (now : DateTime) (run : DiscoveryRunRecord) :
    (summary n results metadata now run).status =
      if discoveredOnly results then .succeeded else .failed := by
  have hany : countState results .discovered > 0 ↔
      results.any (fun r => r.resultState == some .discovered) = true := by
    rw [countState, gt_iff_lt, List.countP_pos_iff, List.any_eq_true]
  have hall : (countState results .cancelled = 0 ∧ countState results .interrupted = 0) ↔
      results.all
        (fun r => r.resultState != some .cancelled && r.resultState != some .interrupted) =
        true := by
    rw [countState_eq_zero, countState_eq_zero]
    simp only [List.all_eq_true, Bool.and_eq_true]
    exact ⟨fun h r hr => ⟨h.1 r hr, h.2 r hr⟩, fun h => ⟨fun r hr => (h r hr).1,
      fun r hr => (h r hr).2⟩⟩
  simp only [summary, discoveredOnly, hany, hall, Bool.and_eq_true]

theorem discoveredOnly_perm {results results' : List DiscoveryDeviceResultRecord}
    (h : results.Perm results') : discoveredOnly results = discoveredOnly results' := by
  unfold discoveredOnly
  rw [h.any_eq, h.all_eq]

/-- The state a verdict gives the scope job. -/
theorem verdict_state {e : Ending} {results : List DiscoveryDeviceResultRecord}
    {st : DiscoveryJobStatus} (h : e.verdict job results st) :
    (st = .succeeded ↔ e.judged job = true ∧ anySucceededOf results = true) ∧
      (st = .succeeded ∨ st = .cancelled ∨ st = .failed) := by
  have hunsuccessful : unsuccessful results st → (st = .succeeded ↔ false = true ∧
      anySucceededOf results = true) ∧ (st = .succeeded ∨ st = .cancelled ∨ st = .failed) := by
    rintro (rfl | rfl) <;> simp
  cases e with
  | afterChildren owner results' =>
    have hst : st = if requestedIn job then .cancelled
      else if anySucceededOf results then .succeeded else .failed := h
    rw [Ending.judged, hst]
    cases requestedIn job <;> cases anySucceededOf results <;> simp
  | _ => exact hunsuccessful h

/-! ## The results before -/

/-- The results of a scope job that its run succeeds with: one for every expected address, all of
them final, and a device discovered, none cancelled or interrupted. -/
structure AllDiscovered (job : DiscoveryJobRecord) (expected : List String) (db : Db schema) :
    Prop where
  there : ∀ a ∈ expected, a ∈ (rootResults job (db .results)).map (·.address)
  final : ∀ r ∈ rootResults job (db .results), Final r
  good : discoveredOnly (rootResults job (db .results)) = true

/-- The two rules say the same of what there was before the ending; where nothing is reconciled,
the run has failed already. -/
def Ending.even (job : DiscoveryJobRecord) (expected : List String) (db : Db schema)
    (e : Ending) : Prop :=
  if e.reconciles then
    (e.judged job = true ∧
      ∃ r ∈ rootResults job (db .results), Final r ∧ r.state = .job .succeeded) ↔
        AllDiscovered job expected db
  else ∃ run, (db .runs).get job.runId = some run ∧ run.status = .failed

variable {o : Outcome} {found : List DiscoveryDeviceResultRecord} {rs : Results}

/-- Results that were closed are as they were. -/
theorem settled_eq {rs : List DiscoveryDeviceResultRecord}
    (h : List.Forall₂ (Settled o) found rs) (hclosed : ∀ r ∈ found, Closed r) : rs = found := by
  induction h with
  | nil => rfl
  | @cons r r' found rs hr _ ih =>
    rw [ih fun r hr => hclosed r (List.mem_cons_of_mem _ hr)]
    rcases hr with rfl | ⟨hopen, -⟩
    · rfl
    · have hr : unfinished r = false := hclosed r List.mem_cons_self
      rw [hr] at hopen
      cases hopen

theorem settled_mem {rs : List DiscoveryDeviceResultRecord} {r' : DiscoveryDeviceResultRecord}
    (h : List.Forall₂ (Settled o) found rs) (hr' : r' ∈ rs) : ∃ r ∈ found, Settled o r r' := by
  induction h with
  | nil => cases hr'
  | cons hr _ ih =>
    rcases List.mem_cons.1 hr' with rfl | hmem
    · exact ⟨_, List.mem_cons_self, hr⟩
    · obtain ⟨r, hr, hsettled⟩ := ih hmem
      exact ⟨r, List.mem_cons_of_mem _ hr, hsettled⟩

theorem mem_settled {rs : List DiscoveryDeviceResultRecord} {r : DiscoveryDeviceResultRecord}
    (h : List.Forall₂ (Settled o) found rs) (hr : r ∈ found) : ∃ r' ∈ rs, Settled o r r' := by
  induction h with
  | nil => cases hr
  | cons hsettled _ ih =>
    rcases List.mem_cons.1 hr with rfl | hmem
    · exact ⟨_, List.mem_cons_self, hsettled⟩
    · obtain ⟨r', hr', hsettled⟩ := ih hmem
      exact ⟨r', List.mem_cons_of_mem _ hr', hsettled⟩

/-- A result with the classification that a reconciliation writes is not a good one. -/
theorem not_discoveredOnly {interrupted : Bool} {results : List DiscoveryDeviceResultRecord}
    {r : DiscoveryDeviceResultRecord} (hr : r ∈ results)
    (hstate : r.resultState = some (outcome interrupted).resultState) :
    discoveredOnly results ≠ true := by
  intro hgood
  rw [discoveredOnly, Bool.and_eq_true, List.all_eq_true] at hgood
  have hnot := hgood.2 r hr
  rw [hstate] at hnot
  cases interrupted <;> simp [outcome] at hnot

variable {W₀ : Known job} {interrupted : Bool}

/-- A reconciliation leaves good results if and only if it had nothing to write. -/
theorem Reconciled.good_iff
    (hr : Reconciled treeTables job expected (outcome interrupted) W₀ W found rs)
    (honce : (found.map (·.address)).Nodup) (hsubset : ∀ a ∈ found.map (·.address), a ∈ expected) :
    discoveredOnly rs.all = true ↔ (∀ a ∈ expected, a ∈ found.map (·.address)) ∧
      (∀ r ∈ found, Closed r) ∧ discoveredOnly found = true := by
  have hcreated : (∀ a ∈ expected, a ∈ found.map (·.address)) → rs.created = [] := by
    intro hthere
    have haddresses := hr.evolved.created
    rw [List.filter_eq_nil_iff.2 fun a ha => by simpa using hthere a ha] at haddresses
    exact List.map_eq_nil_iff.1 haddresses
  constructor
  · intro hgood
    have hnone : rs.created = [] := by
      refine List.eq_nil_iff_forall_not_mem.2 fun r hmem => ?_
      exact not_discoveredOnly (List.mem_append_right _ hmem)
        (hr.evolved.createdDone r hmem).2.1.1 hgood
    have hclosed : ∀ r ∈ found, Closed r := by
      intro r hmem
      obtain ⟨r', hr', hsettled⟩ := mem_settled hr.evolved.same hmem
      rcases hsettled with rfl | ⟨_, now, rfl⟩
      · exact hr.closed honce hsubset r' (List.mem_append_left _ hr')
      · exact absurd hgood (not_discoveredOnly (List.mem_append_left _ hr') rfl)
    refine ⟨fun a ha => ?_, hclosed, ?_⟩
    · have haddresses := hr.evolved.created
      rw [hnone, List.map_nil, eq_comm, List.filter_eq_nil_iff] at haddresses
      simpa using haddresses a ha
    · rw [Results.all, hnone, List.append_nil, settled_eq hr.evolved.same hclosed] at hgood
      exact hgood
  · rintro ⟨hthere, hclosed, hgood⟩
    rw [Results.all, hcreated hthere, List.append_nil, settled_eq hr.evolved.same hclosed]
    exact hgood

/-- A reconciliation makes no result succeed. -/
theorem Reconciled.succeeded_iff
    (hr : Reconciled treeTables job expected (outcome interrupted) W₀ W found rs)
    (honce : (found.map (·.address)).Nodup) (hsubset : ∀ a ∈ found.map (·.address), a ∈ expected) :
    anySucceededOf rs.all = true ↔ ∃ r ∈ found, Closed r ∧ r.state = .job .succeeded := by
  have hnot : ResultState.job (outcome interrupted).jobState ≠ .job .succeeded := by
    cases interrupted <;> simp [outcome]
  simp only [anySucceededOf, List.any_eq_true, beq_iff_eq]
  constructor
  · rintro ⟨r', hmem, hstate⟩
    have hclosed := hr.closed honce hsubset r' hmem
    rcases List.mem_append.1 hmem with hfound | hcreated
    · obtain ⟨r, hr', rfl | ⟨_, now, rfl⟩⟩ := settled_mem hr.evolved.same hfound
      · exact ⟨r', hr', hclosed, hstate⟩
      · exact absurd hstate hnot
    · rw [(hr.evolved.createdDone r' hcreated).2.1.2] at hstate
      exact absurd hstate hnot
  · rintro ⟨r, hmem, hclosed, hstate⟩
    obtain ⟨r', hr', rfl | ⟨hopen, -⟩⟩ := mem_settled hr.evolved.same hmem
    · exact ⟨r', List.mem_append_left _ hr', hstate⟩
    · rw [show unfinished r = false from hclosed] at hopen
      cases hopen

theorem agree_iff_status {root : DiscoveryJobRecord} {run : DiscoveryRunRecord} {good : Bool}
    (hterminal : root.state.isTerminal = true)
    (hstatus : run.status = if good then .succeeded else .failed) :
    Agree root run ↔ (root.state = .succeeded ↔ good = true) := by
  unfold Agree
  rw [hstatus]
  cases good
  · simp
  · cases hstate : root.state <;> simp_all [DiscoveryJobStatus.isTerminal]

variable [DecidableEq Sid]

/-- When an ending that no other session disturbs has ended a scope job whose
books are in order, the job and its run agree if and only if the results before were even. -/
theorem agree_iff (e : Ending) (s : Sid) (σ : Store schema Sid) (job : DiscoveryJobRecord)
    (expected : List String) (h : ScopeBegins job expected s σ) (htracks : e.tracks job σ.db)
    (hbooks : InOrder job expected σ.db) :
    Yields (treeFocus job) treeTables s (e.script job) σ fun _ σ' =>
      ∀ root run, (σ'.db .jobs).get job.id = some root → root.state.isTerminal = true →
        (σ'.db .runs).get job.runId = some run →
          (Agree root run ↔ e.even job expected σ.db) := by
  refine (ending_yields e h htracks).imp ?_
  intro _ σ' hleft root run hroot hterminal hrun
  obtain ⟨W', hdb, hshown, hleft'⟩ := hleft.ended hroot hterminal
  rw [← shown_run, hdb] at hrun
  unfold Ending.even
  split at hleft'
  · rename_i hreconciles
    rw [if_pos hreconciles]
    obtain ⟨W₁, W₂, found, rs, hmoved, ⟨interrupted, W₀, hl, -, hr⟩, hend, x, hx, hverdict⟩ :=
      hleft'
    rw [hshown] at hx
    cases hx
    have hlisted := hmoved.listed hl
    obtain ⟨honce, hsubset, -⟩ := hbooks.listed hlisted
    have hperm : (rootResults job (σ.db .results)).Perm found := hlisted.perm fun _ => rfl
    obtain ⟨metadata, now, run', hsummary⟩ := hr.run
    rw [hend.others .runs (by simp), hsummary, Option.some.injEq] at hrun
    have hstatus := summary_status expected.length rs.all metadata now run'
    rw [hrun] at hstatus
    have hstate : root.state = .succeeded ↔ e.judged job = true ∧
        ∃ r ∈ rootResults job (σ.db .results), Final r ∧ r.state = .job .succeeded := by
      have hverdict' := (verdict_state hverdict).1
      rw [hr.succeeded_iff honce hsubset] at hverdict'
      simp only [hperm.mem_iff, final_iff]
      exact hverdict'
    have hgood : AllDiscovered job expected σ.db ↔ discoveredOnly rs.all = true := by
      rw [hr.good_iff honce hsubset, ← discoveredOnly_perm hperm]
      constructor
      · rintro ⟨hthere, hfinal, hgood⟩
        exact ⟨fun a ha => (hperm.map _).mem_iff.1 (hthere a ha),
          fun r hr => final_iff.1 (hfinal r (hperm.mem_iff.2 hr)), hgood⟩
      · rintro ⟨hthere, hclosed, hgood⟩
        exact ⟨fun a ha => (hperm.map _).mem_iff.2 (hthere a ha),
          fun r hr => final_iff.2 (hclosed r (hperm.mem_iff.1 hr)), hgood⟩
    rw [hgood, ← hstate]
    exact agree_iff_status hterminal hstatus
  · rename_i hnot
    rw [if_neg hnot]
    obtain ⟨x, hx, hstate⟩ := hleft'.there
    rw [hshown] at hx
    cases hx
    replace hstate : root.state = .cancelled := hstate
    rw [hleft'.only.others .runs (by simp), shown_run] at hrun
    unfold Agree
    rw [hstate, hrun]
    constructor
    · exact fun hagree => ⟨run, rfl, hagree.2 (.inl rfl)⟩
    · rintro ⟨run', hrun', hfailed⟩
      cases hrun'
      rw [hfailed]
      simp

/-! ## A cancellation after the last device -/

/-- The target of a scope of two addresses. -/
def lateTarget : DiscoveryTargetRecord :=
  { Samples.scopeTarget with scopeCidr := some "10.0.0.0/30" }

/-- The scope job, with a cancellation request at 40. -/
def lateJob : DiscoveryJobRecord :=
  { Samples.scopeJob with
    cancellationRequestedAt := some 40
    cancellationRequestedBy := some 8
    cancellationReason := some "Change window closed." }

def lateRun : DiscoveryRunRecord :=
  { Samples.scopeRun with metadataJson := { expectedAddresses := some ["10.0.0.1", "10.0.0.2"] } }

/-- A child of the scope job that has discovered its device. -/
def lateChild (id targetId runId : UUID) : DiscoveryJobRecord :=
  { Samples.deviceJob with
    id, targetId, runId
    state := .succeeded
    startedAt := some 10
    completedAt := some 30
    attempts := 1 }

def lateResult (id childJobId : UUID) (address : String) : DiscoveryDeviceResultRecord :=
  { Samples.deviceResult with
    id, childJobId, address
    state := .job .succeeded
    resultState := some .discovered
    startedAt := some 10
    completedAt := some 30 }

def lateChildRun (id : UUID) (address : String) : DiscoveryRunRecord :=
  { Samples.deviceRun with
    id
    targetIdentifier := "lab:" ++ address
    targetAddress := some address
    status := .succeeded
    finishedAt := some 30 }

def lateJobs : List DiscoveryJobRecord := [lateJob, lateChild 22 2 12, lateChild 23 3 13]

def lateResults : List DiscoveryDeviceResultRecord :=
  [lateResult 31 22 "10.0.0.1", lateResult 32 23 "10.0.0.2"]

/-- Both devices were discovered. Then a cancellation of the running scope job was requested, and
its worker has not looked yet. -/
def lateStore : Store schema Unit :=
  Samples.store fun
    | .targets => Tbl.empty.overlay [lateTarget, Samples.deviceTarget,
        newChildTarget Samples.tenant lateTarget "lab:10.0.0.2" "10.0.0.2" 3]
    | .runs => Tbl.empty.overlay
        [lateRun, lateChildRun 12 "10.0.0.1", lateChildRun 13 "10.0.0.2"]
    | t => Samples.tables lateJobs lateResults t

theorem late_results : rootResults lateJob (lateStore.db .results) = lateResults := rfl

theorem late_begins : ScopeBegins lateJob ["10.0.0.1", "10.0.0.2"] () lateStore where
  log _ := rfl
  dirty := rfl
  root := rfl
  isRoot := rfl
  isOpen := rfl
  there := ⟨lateTarget, lateRun, rfl, rfl, rfl, rfl, rfl⟩
  notItsChild := by
    rw [late_results]
    decide

theorem late_child {k : UUID} {child : DiscoveryJobRecord}
    (h : (lateStore.db .jobs).get k = some child) (hparent : child.parentJobId = some 21) :
    k ∈ lateResults.map (·.childJobId) ∧ child.tenantId = Samples.tenant := by
  have hmem : child ∈ lateJobs := Tbl.mem_rows_of_get h
  have hkey : child.id = k := (lateStore.db .jobs).keyed _ _ h
  rw [← hkey]
  rcases hmem with _ | ⟨_, _ | ⟨_, _ | ⟨_, hnil⟩⟩⟩
  · cases hparent
  · exact ⟨by decide, rfl⟩
  · exact ⟨by decide, rfl⟩
  · cases hnil

theorem late_inOrder : InOrder lateJob ["10.0.0.1", "10.0.0.2"] lateStore.db where
  books := by
    refine ⟨?_, ?_, ⟨?_, fun k => ⟨?_, ?_⟩⟩, by decide⟩
    · rw [late_results]
      decide
    · rw [late_results]
      decide
    · rw [late_results]
      decide
    · rw [late_results]
      rintro ⟨child, hget, hparent⟩
      exact (late_child hget hparent).1
    · rw [late_results]
      intro hk
      rcases hk with _ | ⟨_, _ | ⟨_, hnil⟩⟩
      · exact ⟨_, rfl, rfl⟩
      · exact ⟨_, rfl, rfl⟩
      · cases hnil
  tenants k child hget hparent := (late_child hget hparent).2

theorem agree_iff_late :
    Yields (treeFocus lateJob) treeTables ()
      ((Ending.afterChildren Samples.worker lateResults).script lateJob) lateStore
      fun _ σ' => ∀ root run, (σ'.db .jobs).get lateJob.id = some root →
        root.state.isTerminal = true → (σ'.db .runs).get lateJob.runId = some run →
          (Agree root run ↔ (Ending.afterChildren Samples.worker lateResults).even lateJob
            ["10.0.0.1", "10.0.0.2"] lateStore.db) :=
  agree_iff (.afterChildren Samples.worker lateResults) () lateStore lateJob
    ["10.0.0.1", "10.0.0.2"] late_begins (fun id => by rw [late_results]) late_inOrder

/-- The scope job is cancelled and its run has succeeded. -/
def disagree (r : Except Exn Unit × Store schema Unit) : Bool :=
  match r.1, (r.2.db .jobs).get 21, (r.2.db .runs).get 11 with
  | .ok _, some root, some run => root.state == .cancelled && run.status == .succeeded
  | _, _, _ => false

theorem late_disagree :
    ((ExceptT.run ((Ending.afterChildren Samples.worker lateResults).script lateJob)).drive
      (Samples.world 50 60) () lateStore).map disagree = some true := by
  decide

theorem agree_fails :
    ¬ Yields (treeFocus lateJob) treeTables ()
      ((Ending.afterChildren Samples.worker lateResults).script lateJob) lateStore
      fun _ σ' => ∀ root run, (σ'.db .jobs).get lateJob.id = some root →
        (σ'.db .runs).get lateJob.runId = some run → root.state.isTerminal = true →
          Agree root run := by
  intro h
  obtain ⟨⟨r, σ'⟩, hrun, hdisagree⟩ := Option.map_eq_some_iff.1 late_disagree
  have hpost := Prog.Sat.drive (C := undisturbed (treeFocus lateJob) treeTables ())
    (fun _ _ => ⟨fun _ _ => rfl, rfl, rfl, rfl⟩)
    (fun c σ r σ' hanswer => undisturbed_answer hanswer) h hrun
  cases r with
  | error e => cases hdisagree
  | ok _ =>
    unfold disagree at hdisagree
    dsimp only at hdisagree
    split at hdisagree
    · rename_i root run _ hroot hrun'
      rw [Bool.and_eq_true, beq_iff_eq, beq_iff_eq] at hdisagree
      have hagree := hpost root run hroot hrun' (by rw [hdisagree.1]; rfl)
      have hfailed := hagree.2 (.inl hdisagree.1)
      rw [hdisagree.2] at hfailed
      cases hfailed
    · cases hdisagree

end DiscoveryFanoutService
end Discovery
end NetOps
