import NetOps.Discovery.Concluded

/-!
# Discovery.TreeOver

Ending a scope job ends its tree, if the ending reconciles it (`ends_tree_iff`). A cancellation
request that ends a queued scope job does not: the `UPDATE` has refreshed the job by the time its
state decides on the reconciliation (`ends_tree_fails`).
-/

namespace NetOps
namespace Discovery
namespace DiscoveryFanoutService

open Conc DiscoveryJobRepository

variable {Sid : Type} {s : Sid} {job : DiscoveryJobRecord}
  {W W' : Known job} {σ : Store schema Sid} {expected : List String}

/-! ## The tree of a scope job -/

/-- A result with a terminal state and a classification. -/
structure Final (r : DiscoveryDeviceResultRecord) : Prop where
  state : ∃ st : DiscoveryJobStatus, r.state = .job st ∧ st.isTerminal = true
  resultState : r.resultState.isSome

theorem final_iff {r : DiscoveryDeviceResultRecord} : Final r ↔ Closed r := by
  constructor
  · rintro ⟨⟨st, hstate, hterminal⟩, hresult⟩
    unfold Closed unfinished
    rw [hstate]
    cases st <;> simp_all [DiscoveryJobStatus.isTerminal]
  · intro h
    refine ⟨?_, h.resultState⟩
    unfold Closed unfinished at h
    cases hstate : r.state with
    | job st =>
      refine ⟨st, rfl, ?_⟩
      rw [hstate] at h
      cases st <;> simp_all [DiscoveryJobStatus.isTerminal]
    | discovering =>
      rw [hstate] at h
      simp at h

/-- No job below the scope job is queued or running, its results are final, and its run is
finished. -/
structure TreeOver (job : DiscoveryJobRecord) (db : Db schema) : Prop where
  children : ∀ k child, (db .jobs).get k = some child → child.parentJobId = some job.id →
    child.state.isTerminal = true
  results : ∀ r ∈ rootResults job (db .results), Final r
  run : ∃ run, (db .runs).get job.runId = some run ∧ run.status ≠ .started ∧
    run.finishedAt.isSome

/-- `TreeOver`, as far as is known. -/
structure OverIn (job : DiscoveryJobRecord) (W : Known job) : Prop where
  children : ∀ (k : UUID) (x : DiscoveryJobRecord), W .jobs k = some x →
    x.parentJobId = some job.id → x.state.isTerminal = true
  results : ∀ k r, W .results k = some r → Closed r
  run : ∃ run : DiscoveryRunRecord, W .runs job.runId = some run ∧ run.status ≠ .started ∧
    run.finishedAt.isSome

theorem treeOver_iff (hdb : Yields.Committed (treeFocus job) W σ) :
    TreeOver job σ.db ↔ OverIn job W := by
  constructor
  · rintro ⟨hchildren, hresults, run, hrun, hover⟩
    refine ⟨fun k x hx hparent => ?_, fun k r hr => ?_, run, ?_, hover⟩
    · rw [← hdb] at hx
      obtain ⟨child, hget, hof⟩ := Option.bind_eq_some_iff.1 hx
      obtain ⟨rfl, _⟩ := focus_job.1 hof
      exact hchildren k child hget hparent
    · rw [← hdb] at hr
      obtain ⟨r', hget, hof⟩ := Option.bind_eq_some_iff.1 hr
      obtain ⟨rfl, hroot⟩ := focus_result.1 hof
      refine final_iff.1 (hresults r (List.mem_filter.2 ⟨Tbl.mem_rows_of_get hget, ?_⟩))
      simp [hroot]
    · rw [← hdb, shown_run, hrun]
  · rintro ⟨hchildren, hresults, run, hrun, hover⟩
    refine ⟨fun k child hget hparent => ?_, fun r hr => ?_, run, ?_, hover⟩
    · refine hchildren k child.steady ?_ hparent
      rw [← hdb, Focus.shown_some hget]
      exact focus_job.2 ⟨rfl, .inr hparent⟩
    · refine final_iff.2 (hresults r.id r ?_)
      rw [← hdb]
      exact mem_rootResults.1 hr
    · rw [← shown_run, hdb, hrun]

/-! ## Before an ending -/

/-- A session with nothing open is about to end a scope job: the job is committed and has not
ended, and its scope can be expanded. -/
structure ScopeBegins (job : DiscoveryJobRecord) (expected : List String) (s : Sid)
    (σ : Store schema Sid) : Prop where
  log : ∀ t, σ.log s t = []
  dirty : σ.dirty s = []
  root : (σ.db .jobs).get job.id = some job
  isRoot : job.parentJobId = none
  isOpen : job.state.isTerminal = false
  there : ∃ target run, (σ.db .targets).get job.targetId = some target ∧
    target.tenantId = job.tenantId ∧ target.scopeType.fansOut = true ∧
    (σ.db .runs).get job.runId = some run ∧
    expectedOf run target.scope defaultMaxTargets = .ok expected
  notItsChild : ∀ r ∈ rootResults job (σ.db .results), r.childJobId ≠ job.id

/-- The books of the scope job are as expected, and its children are of its tenant. -/
structure InOrder (job : DiscoveryJobRecord) (expected : List String) (db : Db schema) : Prop where
  books : AsExpected job expected db
  tenants : ∀ k child, (db .jobs).get k = some child → child.parentJobId = some job.id →
    child.tenantId = job.tenantId

/-- What the committed tables show of the tree. -/
abbrev shownBy (job : DiscoveryJobRecord) (σ : Store schema Sid) : Known job :=
  fun t => (treeFocus job).shown (σ.db t)

namespace ScopeBegins

theorem committed : Yields.Committed (treeFocus job) (shownBy job σ) σ := fun _ _ => rfl

theorem knows (h : ScopeBegins job expected s σ) :
    σ.Knows (treeFocus job) s (shownBy job σ) [] := by
  have hstart := Store.Knows.start (F := treeFocus job) (s := s) h.dirty
  have hview : ∀ t, σ.view s t = σ.db t := fun t => by
    rw [Store.view, h.log, Tbl.overlay_nil]
  simp only [hview] at hstart
  exact hstart

theorem rootOpen (h : ScopeBegins job expected s σ) : RootOpen job (shownBy job σ) :=
  ⟨shown_job h.root, h.isOpen⟩

theorem scopeAt (h : ScopeBegins job expected s σ) :
    ScopeAt job expected defaultMaxTargets (shownBy job σ) := by
  obtain ⟨target, run, htarget, htenant, hfans, hrun, hexpected⟩ := h.there
  refine ⟨⟨job.steady, shown_job h.root, rfl⟩, ⟨target.scope, run, shown_target htarget htenant,
    hfans, shown_run.2 hrun, hexpected⟩, ?_⟩
  intro k r hr
  obtain ⟨r', hget, hof⟩ := Option.bind_eq_some_iff.1 hr
  obtain ⟨rfl, hroot⟩ := focus_result.1 hof
  exact h.notItsChild r (List.mem_filter.2 ⟨Tbl.mem_rows_of_get hget, by simp [hroot]⟩)

end ScopeBegins

namespace InOrder

theorem listed (h : InOrder job expected σ.db) {found : List DiscoveryDeviceResultRecord}
    (hl : Listed job (shownBy job σ) found) :
    (found.map (·.address)).Nodup ∧ (∀ a ∈ found.map (·.address), a ∈ expected) ∧
      ∀ k, ChildIn job (shownBy job σ) k → k ∈ found.map (·.childJobId) := by
  have hperm : (rootResults job (σ.db .results)).Perm found := hl.perm fun _ => rfl
  refine ⟨(hperm.map _).nodup_iff.1 h.books.once, fun a ha => ?_, fun k hk => ?_⟩
  · exact h.books.subset a ((hperm.map _).mem_iff.2 ha)
  · exact (hperm.map _).mem_iff.1 ((h.books.paired.mem k).1 (isChild_iff.2 hk))

theorem oneTenant (h : InOrder job expected σ.db) (hroot : (σ.db .jobs).get job.id = some job) :
    OneTenant job (shownBy job σ) := by
  intro k x hx
  obtain ⟨child, hget, hof⟩ := Option.bind_eq_some_iff.1 hx
  obtain ⟨rfl, hid | hparent⟩ := focus_job.1 hof
  · have hkey : child.id = k := (σ.db .jobs).keyed _ _ hget
    rw [← hkey, hid, hroot] at hget
    cases hget
    rfl
  · exact h.tenants k child hget hparent

end InOrder

/-! ## After an ending -/

/-- Every result that a reconciliation holds is closed, if no address had two results and all of
them were expected. -/
theorem Reconciled.closed {N : List Table} {o : Outcome} {W₀ : Known job}
    {found : List DiscoveryDeviceResultRecord} {rs : Results}
    (hr : Reconciled N job expected o W₀ W found rs) (honce : (found.map (·.address)).Nodup)
    (hsubset : ∀ a ∈ found.map (·.address), a ∈ expected) : ∀ r ∈ rs.all, Closed r := by
  intro r hmem
  rcases List.mem_append.1 hmem with hfound | hcreated
  · refine (hr.evolved.foundDone honce r hfound (hsubset _ ?_)).1
    rw [← hr.evolved.addresses]
    exact List.mem_map_of_mem hfound
  · exact (hr.evolved.createdDone r hcreated).1

/-- A reconciled tree is over. -/
theorem ReconciledFrom.over {found : List DiscoveryDeviceResultRecord} {rs : Results}
    (hr : ReconciledFrom job expected W W' found rs) (honce : (found.map (·.address)).Nodup)
    (hsubset : ∀ a ∈ found.map (·.address), a ∈ expected)
    (hpaired : ∀ k, ChildIn job W k → k ∈ found.map (·.childJobId))
    (htenants : OneTenant job W) : OverIn job W' := by
  obtain ⟨interrupted, W₀, -, hjobs, hr⟩ := hr
  have htenants' : OneTenant job W' := by
    refine hr.ledger.tenants ?_
    unfold OneTenant
    rw [hjobs]
    exact htenants
  have hended : ∀ k, ChildIn job W' k → EndedIn job W' k := by
    intro k hk
    rcases (hr.ledger.children k).1 hk with hold | hnew
    · -- a child that was there: its result was found, and its address is expected
      obtain ⟨x, hx, hparent⟩ := hold
      have hmem : k ∈ rs.found.map (·.childJobId) := by
        rw [hr.evolved.children]
        refine hpaired k ⟨x, ?_, hparent⟩
        rw [← hjobs]
        exact hx
      obtain ⟨r, hfound, rfl⟩ := List.mem_map.1 hmem
      have haddress : r.address ∈ expected := by
        refine hsubset _ ?_
        rw [← hr.evolved.addresses]
        exact List.mem_map_of_mem hfound
      refine (hr.evolved.foundDone honce r hfound haddress).2 (by simp) ?_
      rw [hx]
      rfl
    · obtain ⟨r, hcreated, rfl⟩ := List.mem_map.1 hnew
      exact (hr.evolved.createdDone r hcreated).2.2 (by simp)
  refine ⟨fun k x hx hparent => ?_, fun k r hr' => ?_, ?_⟩
  · obtain ⟨y, hy, hterminal⟩ := hended k ⟨x, hx, hparent⟩
    rw [hx] at hy
    cases hy
    exact hterminal (htenants' k x hx)
  · exact hr.closed honce hsubset r ((hr.ledger.results k r).1 hr').1
  · obtain ⟨metadata, now, run, hrun⟩ := hr.run
    refine ⟨_, hrun, ?_, rfl⟩
    simp only [summary]
    split <;> simp

/-- That a job ends that is not a child makes no difference to the tree. -/
theorem overIn_iff {k : UUID} (h : MayEnd job k W W')
    (hk : ¬ ChildIn job W k) : OverIn job W' ↔ OverIn job W := by
  have hk' : ¬ ChildIn job W' k := by
    rw [h.child]
    exact hk
  have hsame : ∀ (k' : UUID) (x : DiscoveryJobRecord), x.parentJobId = some job.id →
      (W' .jobs k' = some x ↔ W .jobs k' = some x) := by
    intro k' x hparent
    by_cases hkk : k' = k
    · subst hkk
      constructor
      · exact fun hx => absurd ⟨x, hx, hparent⟩ hk'
      · exact fun hx => absurd ⟨x, hx, hparent⟩ hk
    · rw [h.rest k' hkk]
  have hresults := h.others .results (by simp)
  have hruns := h.others .runs (by simp)
  constructor
  · rintro ⟨hchildren, hclosed, hrun⟩
    rw [hresults] at hclosed
    rw [hruns] at hrun
    exact ⟨fun k' x hx hp => hchildren k' x ((hsame k' x hp).2 hx) hp, hclosed, hrun⟩
  · rintro ⟨hchildren, hclosed, hrun⟩
    rw [← hresults] at hclosed
    rw [← hruns] at hrun
    exact ⟨fun k' x hx hp => hchildren k' x ((hsame k' x hp).1 hx) hp, hclosed, hrun⟩

theorem TreeMoved.listed {found : List DiscoveryDeviceResultRecord} (h : TreeMoved job W W')
    (hl : Listed job W' found) : Listed job W found := by
  refine ⟨hl.ids, fun k r => ?_⟩
  rw [← h.others .results (by simp)]
  exact hl.mem k r

/-- What was concluded over a tree whose books were as expected. -/
theorem InOrder.concluded {verdict : Verdict} (h : ScopeBegins job expected s σ)
    (hbooks : InOrder job expected σ.db)
    (hc : Concluded job expected verdict (shownBy job σ) W') : OverIn job W' := by
  obtain ⟨W₁, W₂, found, rs, hmoved, hr, hend, -⟩ := hc
  have hlisted : Listed job (shownBy job σ) found := by
    obtain ⟨_, _, hlisted, -⟩ := hr
    exact hmoved.listed hlisted
  obtain ⟨honce, hsubset, hpaired⟩ := hbooks.listed hlisted
  have hover : OverIn job W₂ := by
    refine hr.over honce hsubset (fun k hk => hpaired k ?_)
      (hmoved.oneTenant (hbooks.oneTenant h.root))
    rw [hmoved.child] at hk
    exact hk
  refine (overIn_iff hend ?_).2 hover
  rintro ⟨x, hx, hparent⟩
  rw [hr.root (h.scopeAt.moved hmoved)] at hx
  obtain ⟨x', hx', hidentity, -⟩ := hmoved.some _ _ h.rootOpen.root
  rw [hx] at hx'
  cases hx'
  have hnone := (congrArg JobIdentity.parentJobId hidentity).trans h.isRoot
  rw [show x.parentJobId = none from hnone] at hparent
  cases hparent

/-- `results` are the results of the scope job. -/
def Ending.tracks (job : DiscoveryJobRecord) (db : Db schema) : Ending → Prop
  | .afterChildren _ results => ∀ id, id ∈ results.map (·.id) ↔
      id ∈ (rootResults job (db .results)).map (·.id)
  | _ => True

theorem ScopeBegins.tracked {results : List DiscoveryDeviceResultRecord}
    (h : ∀ id, id ∈ results.map (·.id) ↔ id ∈ (rootResults job (σ.db .results)).map (·.id))
    (id : UUID) : id ∈ results.map (·.id) ↔ (shownBy job σ .results id).isSome := by
  rw [h, List.mem_map, Option.isSome_iff_exists]
  constructor
  · rintro ⟨r, hr, rfl⟩
    exact ⟨r, mem_rootResults.1 hr⟩
  · rintro ⟨r, hr⟩
    obtain ⟨r', hget, hof⟩ := Option.bind_eq_some_iff.1 hr
    obtain ⟨rfl, hroot⟩ := focus_result.1 hof
    exact ⟨r, List.mem_filter.2 ⟨Tbl.mem_rows_of_get hget, by simp [hroot]⟩,
      (σ.db .results).keyed _ _ hget⟩

/-- The verdict of an ending that reconciles. -/
def Ending.verdict (job : DiscoveryJobRecord) : Ending → Verdict
  | .afterChildren .. => counted (requestedIn job)
  | _ => unsuccessful

/-- What is left when the scope job has ended. -/
theorem Left.ended {Q : Known job → Prop} {root : DiscoveryJobRecord} (h : Left job Q σ)
    (hroot : (σ.db .jobs).get job.id = some root) (hterminal : root.state.isTerminal = true) :
    ∃ W', Yields.Committed (treeFocus job) W' σ ∧ W' .jobs job.id = some root.steady ∧ Q W' := by
  obtain ⟨W', hdb, hleft⟩ := h
  have hshown : W' .jobs job.id = some root.steady := by
    rw [← hdb, Focus.shown_some hroot]
    exact if_pos (.inl ((σ.db .jobs).keyed _ _ hroot))
  refine ⟨W', hdb, hshown, hleft.resolve_left ?_⟩
  rintro ⟨x, hx, hopen⟩
  rw [hshown] at hx
  cases hx
  rw [show root.steady.state = root.state from rfl, hterminal] at hopen
  cases hopen

variable [DecidableEq Sid]

/-- What each ending leaves of the tree. -/
theorem ending_yields (e : Ending) (h : ScopeBegins job expected s σ)
    (htracks : e.tracks job σ.db) :
    Yields (treeFocus job) treeTables s (e.script job) σ fun _ σ' => Left job (fun W' =>
      if e.reconciles then Concluded job expected (e.verdict job) (shownBy job σ) W'
      else MovedTo job job.id .cancelled (shownBy job σ) W') σ' := by
  have hdb : Yields.Committed (treeFocus job) (shownBy job σ) σ := ScopeBegins.committed
  cases e with
  | requestCancellation requestedBy reason =>
    exact requestCancellation_yields h.rootOpen hdb h.knows
  | resolveStaleCancellation => exact resolveStale_yields h.rootOpen h.scopeAt hdb h.knows
  | recoverExpired staleBefore => exact recoverExpired_yields h.rootOpen h.scopeAt h.knows
  | abandon owner message => exact abandon_yields h.rootOpen h.scopeAt h.knows
  | failOwned owner e => exact failOwned_yields h.rootOpen h.scopeAt hdb h.knows
  | atOnce owner => exact atOnce_yields h.rootOpen h.scopeAt hdb h.knows
  | afterChildren owner results =>
    exact afterChildren_yields h.rootOpen h.scopeAt (ScopeBegins.tracked htracks) h.knows
  | conflict owner message => exact conflict_yields h.rootOpen hdb

/-- Ending a scope job ends its tree, if the ending reconciles. An ending that no other session
disturbs, that returns, and that has ended the scope job, leaves the tree below it over if and only
if it reconciles the tree, or the tree was over before. -/
theorem ends_tree_iff (e : Ending) (s : Sid) (σ : Store schema Sid) (job : DiscoveryJobRecord)
    (expected : List String) (h : ScopeBegins job expected s σ) (htracks : e.tracks job σ.db)
    (hbooks : InOrder job expected σ.db) :
    Yields (treeFocus job) treeTables s (e.script job) σ fun _ σ' =>
      ∀ root, (σ'.db .jobs).get job.id = some root → root.state.isTerminal = true →
        (TreeOver job σ'.db ↔ e.reconciles = true ∨ TreeOver job σ.db) := by
  refine (ending_yields e h htracks).imp ?_
  intro _ σ' hleft root hroot hterminal
  obtain ⟨W', hdb, -, hleft'⟩ := hleft.ended hroot hterminal
  rw [treeOver_iff hdb, treeOver_iff (W := shownBy job σ) ScopeBegins.committed]
  split at hleft'
  · rename_i hreconciles
    exact iff_of_true (hbooks.concluded h hleft') (.inl hreconciles)
  · rename_i hnot
    rw [or_iff_right hnot]
    refine overIn_iff hleft'.only ?_
    rintro ⟨x, hx, hparent⟩
    rw [h.rootOpen.root] at hx
    cases hx
    rw [show job.steady.parentJobId = job.parentJobId from rfl, h.isRoot] at hparent
    cases hparent

/-! ## A queued scope job that is cancelled -/

/-- A scope job that no worker has claimed yet. -/
def queuedScope : DiscoveryJobRecord where
  id := 21
  tenantId := Samples.tenant
  targetId := 1
  runId := 11

def queuedStore : Store schema Unit := Samples.store (Samples.tables [queuedScope] [])

theorem queued_only {k : UUID} {child : DiscoveryJobRecord}
    (h : (queuedStore.db .jobs).get k = some child) : child = queuedScope := by
  have hget : (queuedStore.db .jobs).get k = if k = 21 then some queuedScope else none :=
    Tbl.get_overlay_single ..
  rw [hget] at h
  split at h
  · exact (Option.some.inj h).symm
  · cases h

theorem queued_begins : ScopeBegins queuedScope ["10.0.0.1"] () queuedStore where
  log _ := rfl
  dirty := rfl
  root := rfl
  isRoot := rfl
  isOpen := rfl
  there := ⟨Samples.scopeTarget, Samples.scopeRun, rfl, rfl, rfl, rfl, rfl⟩
  notItsChild r hr := by cases hr

theorem queued_inOrder : InOrder queuedScope ["10.0.0.1"] queuedStore.db where
  books := by
    refine ⟨List.nodup_nil, (fun a ha => by cases ha), ⟨List.nodup_nil, fun k => ?_⟩, by simp⟩
    constructor
    · rintro ⟨child, hget, hparent⟩
      rw [queued_only hget] at hparent
      cases hparent
    · intro hk
      cases hk
  tenants k child hget hparent := by
    rw [queued_only hget] at hparent
    cases hparent

theorem ends_tree_iff_queued :
    Yields (treeFocus queuedScope) treeTables ()
      ((Ending.requestCancellation 5 "stop").script queuedScope) queuedStore fun _ σ' =>
        ∀ root, (σ'.db .jobs).get queuedScope.id = some root → root.state.isTerminal = true →
          (TreeOver queuedScope σ'.db ↔ (Ending.requestCancellation 5 "stop").reconciles = true ∨
            TreeOver queuedScope queuedStore.db) :=
  ends_tree_iff (.requestCancellation 5 "stop") () queuedStore queuedScope ["10.0.0.1"]
    queued_begins trivial queued_inOrder

/-- The scope job is cancelled, and its run has only started. -/
def runLeftOpen (r : Except Exn Unit × Store schema Unit) : Bool :=
  match r.1, (r.2.db .jobs).get 21, (r.2.db .runs).get 11 with
  | .ok _, some root, some run => root.state == .cancelled && run.status == .started
  | _, _, _ => false

theorem queued_cancelled :
    ((ExceptT.run ((Ending.requestCancellation 5 "stop").script queuedScope)).drive
      (Samples.world 0 50) () queuedStore).map runLeftOpen = some true := by
  decide

theorem ends_tree_fails :
    ¬ Yields (treeFocus queuedScope) treeTables ()
      ((Ending.requestCancellation 5 "stop").script queuedScope) queuedStore fun _ σ' =>
        ∀ root, (σ'.db .jobs).get queuedScope.id = some root → root.state.isTerminal = true →
          TreeOver queuedScope σ'.db := by
  intro h
  obtain ⟨⟨r, σ'⟩, hrun, hleft⟩ := Option.map_eq_some_iff.1 queued_cancelled
  have hpost := Prog.Sat.drive (C := undisturbed (treeFocus queuedScope) treeTables ())
    (fun _ _ => ⟨fun _ _ => rfl, rfl, rfl, rfl⟩)
    (fun c σ r σ' hanswer => undisturbed_answer hanswer) h hrun
  cases r with
  | error e => cases hleft
  | ok _ =>
    unfold runLeftOpen at hleft
    dsimp only at hleft
    split at hleft
    · rename_i root run _ hroot hrun'
      rw [Bool.and_eq_true, beq_iff_eq, beq_iff_eq] at hleft
      obtain ⟨run', hrun'', hstatus, -⟩ := (hpost root hroot (by rw [hleft.1]; rfl)).run
      rw [show queuedScope.runId = 11 from rfl, hrun'] at hrun''
      cases hrun''
      exact hstatus hleft.2
    · cases hleft

end DiscoveryFanoutService
end Discovery
end NetOps
