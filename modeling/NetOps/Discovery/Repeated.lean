import NetOps.Discovery.Endings

/-!
# Discovery.Repeated

Reconciling a scope job twice. What a reconciliation leaves of a tree (`Rests`) is what another one
leaves as it is, but for the time the run was finished (`Rests.again`). A reconciliation leaves that
if no two results of the job have one address (`reconcile_idempotent`): of two results with the
address it takes the one the database returns last, and the next reconciliation may be given them in
another order (`reconcile_twice_fails`).
-/

namespace NetOps
namespace Discovery
namespace DiscoveryFanoutService

open Conc DiscoveryJobRepository

variable {Sid : Type} [DecidableEq Sid] {s : Sid} {job : DiscoveryJobRecord}
  {W : Known job} {N U : List Table} {σ : Store schema Sid} {expected : List String}
  {maxTargets : Nat}

/-! ## Sessions with nothing open -/

/-- The session has no transaction open. -/
structure Idle (s : Sid) (σ : Store schema Sid) : Prop where
  log : ∀ t, σ.log s t = []
  dirty : σ.dirty s = []

omit [DecidableEq Sid] in
theorem Idle.view (h : Idle s σ) (t : Table) : σ.view s t = σ.db t := by
  rw [Store.view, h.log, Tbl.overlay_nil]

omit [DecidableEq Sid] in
theorem Idle.knows (h : Idle s σ) (F : Focus schema) :
    σ.Knows F s (fun t => F.shown (σ.db t)) [] := by
  have hstart := Store.Knows.start (F := F) h.dirty
  simp only [h.view] at hstart
  exact hstart

theorem commit_idle {F : Focus schema} {W : (t : Table) → Nat → Option (F.What t)}
    (h : σ.Knows F s W U) :
    Yields F N s commit σ fun _ σ' => Idle s σ' ∧ Yields.Committed F W σ' := by
  refine Yields.ask h fun σ₁ a σ₂ h₁ _ hexec _ => ?_
  rw [hexec.2]
  refine ⟨⟨fun t => ?_, ?_⟩, h₁.commit_db⟩
  · simp [Store.commit]
  · simp [Store.commit, Store.flush, Store.clean]

/-- A row, where everything matters. -/
theorem get_whole {t : Table} {k : UUID} {W : (t : Table) → Nat → Option (Row t)}
    (h : σ.Knows (.whole schema) s W U) (ht : t ∉ U) (hN : t ∈ N) :
    Yields (.whole schema) N s (sessionGet t k) σ fun r σ' =>
      σ'.Knows (.whole schema) s W U ∧ r = W t k := by
  refine (Yields.getCurrent h ht hN).imp ?_
  rintro r σ' ⟨h', hr, -⟩
  exact ⟨h', (Option.bind_fun_some r).symm.trans hr⟩

/-! ## What a reconciliation leaves -/

/-- The runs, one of them finished at `now`. -/
def finishedRuns (db : Db schema) (runId : UUID) (now : DateTime) (k : Nat) :
    Option (Row .runs) :=
  ((db .runs).get k).map fun run : DiscoveryRunRecord =>
    if k = runId then { run with finishedAt := some now } else run

/-- Nothing has changed but the time at which the run was finished. -/
structure OnlyFinishedAt (runId : UUID) (db db' : Db schema) : Prop where
  others : ∀ t, t ≠ .runs → ∀ k, (db' t).get k = (db t).get k
  runs : ∃ now, ∀ k, (db' .runs).get k = finishedRuns db runId now k

/-- Every expected address has a result, the results of the expected addresses are closed, their
children have ended, and the run has the summary of the results. -/
structure Rests (job : DiscoveryJobRecord) (expected : List String) (db : Db schema) : Prop where
  root : ∃ root, (db .jobs).get job.id = some root ∧ root.identity = job.identity
  target : ((db .targets).get job.targetId).isSome
  nonempty : expected ≠ []
  run : ∃ metadata now run, metadata.expectedAddresses = some expected ∧
    (db .runs).get job.runId =
      some (summary expected.length (rootResults job (db .results)) metadata now run)
  known : ∀ a ∈ expected, ∃ r ∈ rootResults job (db .results), r.address = a
  closed : ∀ r ∈ rootResults job (db .results), r.address ∈ expected → Closed r ∧
    ∀ child, (db .jobs).get r.childJobId = some child → child.state.isTerminal = true

/-- A summary counts, in whatever order. -/
theorem summary_perm (n : Nat) {results results' : List DiscoveryDeviceResultRecord}
    (hperm : results'.Perm results) (metadata : RunMetadata) (now : DateTime)
    (run : DiscoveryRunRecord) : summary n results' metadata now run =
      summary n results metadata now run := by
  have hcount : ∀ state, countState results' state = countState results state :=
    fun _ => hperm.countP_eq _
  simp only [summary, hcount]

/-- The summary of a run that has it changes the time the run was finished. -/
theorem summary_again (n : Nat) (results : List DiscoveryDeviceResultRecord)
    (metadata : RunMetadata) (now now' : DateTime) (run : DiscoveryRunRecord) :
    summary n results (summary n results metadata now run).metadataJson now'
        (summary n results metadata now run) =
      { summary n results metadata now run with finishedAt := some now' } := rfl

/-! ## Once more -/

variable {db : Db schema} {found : List DiscoveryDeviceResultRecord}

/-- The rows of the tables. -/
abbrev rowsOf (db : Db schema) : (t : Table) → Nat → Option (Row t) := fun t k => (db t).get k

omit [DecidableEq Sid] in
theorem Idle.knowsRows (h : Idle s σ) : σ.Knows (.whole schema) s (rowsOf σ.db) [] := by
  have hrows : (fun t => (Focus.whole schema).shown (σ.db t)) = rowsOf σ.db := by
    funext t k
    exact Focus.shown_whole ..
  rw [← hrows]
  exact h.knows (.whole schema)

/-- The child of a closed result has ended, so nothing is written. -/
theorem endChild_again {o : Outcome} {r : DiscoveryDeviceResultRecord}
    (hended : ∀ child, (db .jobs).get r.childJobId = some child → child.state.isTerminal = true)
    (h : σ.Knows (.whole schema) s (rowsOf db) U) (hU : .jobs ∉ U) :
    Yields (.whole schema) treeTables s (endChild job.tenantId o r) σ fun _ σ' =>
      σ'.Knows (.whole schema) s (rowsOf db) U := by
  unfold endChild
  refine (get_whole h hU (by simp)).bind ?_
  rintro child σ₁ ⟨h₁, hchild⟩
  cases child with
  | none => exact Yields.pure h₁
  | some child =>
    have hterminal := hended child hchild.symm
    refine Yields.doIf (fun hopen => ?_) fun _ => h₁
    rw [hterminal] at hopen
    cases hopen

/-- An expected address has its closed result, and its round of the loop does nothing. -/
theorem Rests.address (hrests : Rests job expected db) {parent : DiscoveryJobRecord}
    {target : DiscoveryTargetRecord} {o : Outcome} {address : String}
    (hfound : found.Perm (rootResults job (db .results))) (hmem : address ∈ expected)
    (h : σ.Knows (.whole schema) s (rowsOf db) U) (hU : .jobs ∉ U) :
    Yields (.whole schema) treeTables s
      (reconcileAddress job.tenantId parent target o { found := found } address) σ fun rs σ' =>
      rs = { found := found } ∧ σ'.Knows (.whole schema) s (rowsOf db) U := by
  obtain ⟨r, hr⟩ : ∃ r, Results.byAddress { found := found } address = some r := by
    obtain ⟨r₀, hr₀, haddress⟩ := hrests.known address hmem
    cases hfind : Results.byAddress { found := found } address with
    | some r => exact ⟨r, rfl⟩
    | none =>
      have hno := byAddress_none hfind
      rw [← haddress] at hno
      exact absurd (List.mem_map_of_mem (hfound.mem_iff.2 hr₀)) hno
  obtain ⟨hin, haddress⟩ := byAddress_some hr
  have hexpected : r.address ∈ expected := by
    rw [haddress]
    exact hmem
  obtain ⟨hclosed, hended⟩ := hrests.closed r (hfound.mem_iff.1 hin) hexpected
  unfold reconcileAddress resultOf
  rw [hr, pure_bind]
  dsimp only
  refine (endChild_again hended h hU).bind fun _ σ₁ h₁ => ?_
  rw [if_neg (by rw [show unfinished r = false from hclosed]; simp)]
  exact Yields.pure ⟨rfl, h₁⟩

/-- The loop over expected addresses does nothing. -/
theorem Rests.loop (hrests : Rests job expected db) {parent : DiscoveryJobRecord}
    {target : DiscoveryTargetRecord} {o : Outcome}
    (hfound : found.Perm (rootResults job (db .results))) (addresses : List String)
    (hmem : ∀ a ∈ addresses, a ∈ expected) (h : σ.Knows (.whole schema) s (rowsOf db) U)
    (hU : .jobs ∉ U) :
    Yields (.whole schema) treeTables s
      (addresses.foldlM (reconcileAddress job.tenantId parent target o) { found := found }) σ
      fun rs σ' => rs = { found := found } ∧ σ'.Knows (.whole schema) s (rowsOf db) U := by
  induction addresses generalizing σ with
  | nil => exact Yields.pure ⟨rfl, h⟩
  | cons a addresses ih =>
    rw [List.foldlM_cons]
    refine (hrests.address hfound (hmem a List.mem_cons_self) h hU).bind ?_
    rintro rs σ₁ ⟨rfl, h₁⟩
    exact ih (fun b hb => hmem b (List.mem_cons_of_mem a hb)) h₁

/-- The summary is written once more. -/
theorem Rests.finalize (hrests : Rests job expected db) {root : DiscoveryJobRecord}
    (hroot : root.runId = job.runId) (hfound : found.Perm (rootResults job (db .results)))
    (h : σ.Knows (.whole schema) s (rowsOf db) []) :
    Yields (.whole schema) treeTables s (finalizeParentRun root expected.length found) σ
      fun _ σ' => ∃ now, σ'.Knows (.whole schema) s
        (Function.update (rowsOf db) .runs (finishedRuns db job.runId now)) [] := by
  obtain ⟨metadata, then_, run₀, -, hrun⟩ := hrests.run
  unfold finalizeParentRun
  rw [hroot]
  refine (get_whole h (by simp) (by simp)).bind ?_
  rintro run σ₁ ⟨h₁, hget⟩
  rw [show run = _ from hget.trans hrun]
  dsimp only
  refine (Yields.reading (c := .ext .utcNow) trivial h₁).bind fun now σ₂ h₂ => ?_
  have hvalues := summary_again expected.length (rootResults job (db .results)) metadata then_ now
    run₀
  rw [← summary_perm _ hfound] at hvalues
  generalize hnew : summary expected.length found (summary expected.length
    (rootResults job (db .results)) metadata then_ run₀).metadataJson now = values at hvalues
  have hid : ∀ r, (values r).id = r.id := by
    subst hnew
    exact fun _ => rfl
  unfold setRun
  refine (Yields.update (t := .runs) (f := values) (g := values) h₂ (by simp) (fun _ => rfl)
    hid).bind ?_
  rintro ids σ₃ ⟨h₃, T, hT, hids⟩
  refine Yields.pure ⟨now, ?_⟩
  have hrows : T.get = (db .runs).get := by
    funext k
    exact (Focus.shown_whole (S := schema) (t := .runs) T k).symm.trans (hT k)
  have hmem : ∀ k run', (db .runs).get k = some run' → (k ∈ ids ↔ k = job.runId) := by
    intro k run' hk
    have hkey : run'.id = k := (db .runs).keyed _ _ hk
    rw [← hrows] at hk
    rw [hids, List.mem_map]
    constructor
    · rintro ⟨r, hr, rfl⟩
      exact beq_iff_eq.1 (List.mem_filter.1 hr).2
    · intro hroot
      exact ⟨run', List.mem_filter.2 ⟨Tbl.mem_rows_of_get hk, beq_iff_eq.2 (hkey.trans hroot)⟩,
        hkey⟩
  have hsame : (fun k => if k ∈ ids then (rowsOf db .runs k).map values else rowsOf db .runs k) =
      finishedRuns db job.runId now := by
    funext k
    unfold finishedRuns
    cases hk : (db .runs).get k with
    | none => simp [rowsOf, hk]
    | some run' =>
      by_cases hroot : k = job.runId
      · rw [if_pos ((hmem k run' hk).2 hroot)]
        rw [hroot, hrun, Option.some.injEq] at hk
        simp only [rowsOf, hroot, hrun, Option.map_some, if_true, ← hk, hvalues]
      · rw [if_neg fun hin => hroot ((hmem k run' hk).1 hin)]
        simp [rowsOf, hk, hroot]
  rw [← hsame]
  exact h₃

/-- The addresses recorded with the run are expected again. -/
theorem Rests.expects (hrests : Rests job expected db) {root : DiscoveryJobRecord}
    {target : DiscoveryTargetRecord} (hroot : root.runId = job.runId)
    (h : σ.Knows (.whole schema) s (rowsOf db) []) :
    Yields (.whole schema) treeTables s (expectedAddresses root (some target) maxTargets) σ
      fun addresses σ' => addresses = expected ∧ σ'.Knows (.whole schema) s (rowsOf db) [] := by
  obtain ⟨metadata, then_, run₀, hexpected, hrun⟩ := hrests.run
  unfold expectedAddresses
  rw [hroot]
  refine (get_whole h (by simp) (by simp)).bind ?_
  rintro r σ₁ ⟨h₁, hr⟩
  rw [show r = _ from hr.trans hrun]
  have hrecorded : ((some (summary expected.length (rootResults job (db .results)) metadata then_
      run₀)).bind (·.metadataJson.expectedAddresses)).getD [] = expected := by
    simp [summary, hexpected]
  dsimp only
  rw [hrecorded, if_pos hrests.nonempty]
  exact Yields.pure ⟨rfl, h₁⟩

/-- The results the database returns are those there are. -/
theorem select_results (h : σ.Knows (.whole schema) s (rowsOf db) []) :
    Yields (.whole schema) treeTables s
      (select .results fun r => r.tenantId == job.tenantId && r.discoveryJobId == job.id) σ
      fun found σ' => found.Perm (rootResults job (db .results)) ∧
        σ'.Knows (.whole schema) s (rowsOf db) [] := by
  refine (Yields.select (t := .results) h (by simp)).imp ?_
  rintro found σ₁ ⟨h₁, T, hlisted, hT⟩
  have hrows : T.get = (db .results).get := by
    funext k
    exact (Focus.shown_whole (S := schema) (t := .results) T k).symm.trans (hT k)
  refine ⟨?_, h₁⟩
  refine hlisted.trans (perm_rootResults (nodup_rootResults _) fun r => ?_)
  rw [mem_rootResults, Focus.shown, Focus.shown, hrows]

/-- A reconciliation of a tree that was reconciled changes the time its run was finished. -/
theorem Rests.again (hrests : Rests job expected σ.db) (hidle : Idle s σ) (interrupted : Bool)
    (maxTargets : Nat) :
    Yields (.whole schema) treeTables s
      (reconcileParentJob job.tenantId job.id interrupted maxTargets) σ fun _ σ' =>
      OnlyFinishedAt job.runId σ.db σ'.db := by
  obtain ⟨root, hroot, hidentity⟩ := hrests.root
  have htenant : root.tenantId = job.tenantId := congrArg JobIdentity.tenantId hidentity
  have htargetId : root.targetId = job.targetId := congrArg JobIdentity.targetId hidentity
  have hrunId : root.runId = job.runId := congrArg JobIdentity.runId hidentity
  obtain ⟨target, htarget⟩ := Option.isSome_iff_exists.1 hrests.target
  have hchildren : Yields (.whole schema) treeTables s
      (reconcileChildren job.tenantId job.id interrupted maxTargets) σ fun r σ' =>
      ∃ found now, r = some found ∧ σ'.Knows (.whole schema) s
        (Function.update (rowsOf σ.db) .runs (finishedRuns σ.db job.runId now)) [] := by
    unfold reconcileChildren
    refine (get_whole hidle.knowsRows (by simp) (by simp)).bind ?_
    rintro r σ₁ ⟨h₁, hr⟩
    rw [show r = some root from hr.trans hroot]
    dsimp only
    rw [if_neg (not_not_intro htenant), htargetId]
    refine (get_whole h₁ (by simp) (by simp)).bind ?_
    rintro r σ₂ ⟨h₂, hr⟩
    rw [show r = some target from hr.trans htarget]
    refine (hrests.expects hrunId h₂).bind ?_
    rintro _ σ₃ ⟨rfl, h₃⟩
    dsimp only
    rw [if_neg hrests.nonempty]
    refine (select_results h₃).bind ?_
    rintro found σ₄ ⟨hfound, h₄⟩
    refine (hrests.loop hfound _ (fun _ ha => ha) h₄ (by simp)).bind ?_
    rintro _ σ₅ ⟨rfl, h₅⟩
    refine (Yields.flush h₅).bind fun _ σ₆ h₆ => ?_
    have hall : Results.all { found := found } = found := List.append_nil _
    rw [hall]
    refine (hrests.finalize hrunId hfound h₆).bind ?_
    rintro _ σ₇ ⟨now, h₇⟩
    exact Yields.pure ⟨found, now, rfl, h₇⟩
  unfold reconcileParentJob
  refine hchildren.bind ?_
  rintro _ σ₁ ⟨found, now, rfl, h₁⟩
  refine (commit_idle h₁).bind fun _ σ₂ h₂ => Yields.pure ?_
  have hdb : ∀ t k, (σ₂.db t).get k =
      Function.update (rowsOf σ.db) .runs (finishedRuns σ.db job.runId now) t k := fun t k =>
    (Focus.shown_whole (S := schema) (t := t) (σ₂.db t) k).symm.trans (h₂.2 t k)
  refine ⟨fun t ht k => ?_, now, fun k => ?_⟩
  · rw [hdb, Function.update_of_ne ht]
  · rw [hdb, Function.update_self]

/-! ## After a first reconciliation -/

/-- A scope job with its target, its run and what is expected of it; its results have children of
the job, and its children are of its tenant. -/
structure ScopeTree (job : DiscoveryJobRecord) (expected : List String) (maxTargets : Nat)
    (db : Db schema) : Prop where
  root : (db .jobs).get job.id = some job
  isRoot : job.parentJobId = none
  there : ∃ target run, (db .targets).get job.targetId = some target ∧
    target.tenantId = job.tenantId ∧ (db .runs).get job.runId = some run ∧
    expectedOf run target.scope maxTargets = .ok expected
  children : ∀ r ∈ rootResults job (db .results), ∃ child,
    (db .jobs).get r.childJobId = some child ∧ child.parentJobId = some job.id
  tenants : ∀ k child, (db .jobs).get k = some child → child.parentJobId = some job.id →
    child.tenantId = job.tenantId

namespace ScopeTree

omit [DecidableEq Sid] in
theorem known (h : ScopeTree job expected maxTargets (σ.view s)) :
    ScopeKnown treeTables job expected maxTargets s
      (fun t => (treeFocus job).shown (σ.view s t)) σ := by
  obtain ⟨target, run, htarget, htenant, hrun, hexpected⟩ := h.there
  exact ⟨⟨job.steady, shown_job h.root, rfl⟩, fun hN => absurd (by simp) hN, target.scope, run,
    shown_target htarget htenant, shown_run.2 hrun, hexpected, fun hN => absurd (by simp) hN,
    fun hN => absurd (by simp) hN⟩

theorem oneTenant (h : ScopeTree job expected maxTargets db) :
    OneTenant job fun t => (treeFocus job).shown (db t) := by
  intro k x hx
  obtain ⟨child, hget, hof⟩ := Option.bind_eq_some_iff.1 hx
  obtain ⟨rfl, hid | hparent⟩ := focus_job.1 hof
  · have hkey : child.id = k := (db .jobs).keyed _ _ hget
    rw [← hkey, hid, h.root] at hget
    cases hget
    rfl
  · exact h.tenants k child hget hparent

/-- The child of a result is known, and is not the scope job. -/
theorem child (h : ScopeTree job expected maxTargets db) {r : DiscoveryDeviceResultRecord}
    (hr : r ∈ rootResults job (db .results)) : r.childJobId ≠ job.id ∧
      ((treeFocus job).shown (t := .jobs) (db .jobs) r.childJobId).isSome := by
  obtain ⟨child, hget, hparent⟩ := h.children r hr
  constructor
  · intro hid
    rw [hid, h.root, Option.some.injEq] at hget
    rw [← hget, h.isRoot] at hparent
    cases hparent
  · rw [Focus.shown_some hget, focus_job.2 ⟨rfl, .inr hparent⟩]
    rfl

end ScopeTree

omit [DecidableEq Sid] in
/-- A child that has ended as far as is known has ended. -/
theorem terminal_of_ended (hdb : Yields.Committed (treeFocus job) W σ) (htenants : OneTenant job W)
    {k : UUID} (hk : EndedIn job W k) {child : DiscoveryJobRecord}
    (hget : (σ.db .jobs).get k = some child) : child.state.isTerminal = true := by
  obtain ⟨x, hx, hended⟩ := hk
  have hterminal := hended (htenants k x hx)
  rw [← hdb, Focus.shown_some hget] at hx
  obtain ⟨rfl, -⟩ := focus_job.1 hx
  exact hterminal

theorem rests_after (h : ScopeTree job expected maxTargets (σ.view s)) (hdirty : σ.dirty s = [])
    (honce : ((rootResults job (σ.view s .results)).map (·.address)).Nodup) (interrupted : Bool) :
    Yields (treeFocus job) treeTables s
      (reconcileParentJob job.tenantId job.id interrupted maxTargets) σ fun _ σ' =>
      Idle s σ' ∧ Rests job expected σ'.db := by
  unfold reconcileParentJob
  refine (reconcileChildren_yields h.known (.start hdirty)).bind ?_
  rintro _ σ₁ ⟨found, rs, W₀, W, rfl, hlisted, hjobs, hr, hrecorded, h₁⟩
  refine (commit_idle h₁).bind fun _ σ₂ hcommit => Yields.pure ⟨hcommit.1, ?_⟩
  have hdb := hcommit.2
  have hall : (rootResults job (σ₂.db .results)).Perm rs.all :=
    hr.ledger.listed.perm fun k => hdb ..
  have hfound : (rootResults job (σ.view s .results)).Perm found := hlisted.perm fun k => rfl
  -- a result the reconciliation found has the child of one there was
  have hchild : ∀ r ∈ rs.found, r.childJobId ≠ job.id ∧ (W₀ .jobs r.childJobId).isSome := by
    intro r hr'
    have hmem : r.childJobId ∈ found.map (·.childJobId) := by
      rw [← hr.evolved.children]
      exact List.mem_map_of_mem hr'
    obtain ⟨r₀, hr₀, hsame⟩ := List.mem_map.1 hmem
    rw [← hsame, hjobs]
    exact h.child (hfound.mem_iff.2 hr₀)
  have htenants : OneTenant job W := by
    refine hr.ledger.tenants ?_
    unfold OneTenant
    rw [hjobs]
    exact h.oneTenant
  constructor
  case root =>
    have hroot : W .jobs job.id = some job.steady := by
      rw [hr.ledger.root fun r hr' => (hchild r hr').1, hjobs]
      exact shown_job h.root
    rw [← hdb] at hroot
    obtain ⟨root, hget, hof⟩ := Option.bind_eq_some_iff.1 hroot
    have hsteady : root.steady = job.steady := (focus_job.1 hof).1.symm
    have hidentity : root.steady.identity = job.steady.identity := by rw [hsteady]
    exact ⟨root, hget, hidentity⟩
  case target =>
    obtain ⟨scope, hscope⟩ := Option.isSome_iff_exists.1 hr.ledger.rooted.target
    rw [← hdb] at hscope
    obtain ⟨target, hget, -⟩ := Option.bind_eq_some_iff.1 hscope
    rw [hget]
    rfl
  case nonempty =>
    obtain ⟨_, _, _, _, _, hexpected⟩ := h.there
    exact expectedOf_ne_nil hexpected
  case run =>
    obtain ⟨metadata, now, run, hmetadata, hrun⟩ := hrecorded (by simp)
    refine ⟨metadata, now, run, hmetadata, ?_⟩
    rw [summary_perm _ hall, ← shown_run, hdb, hrun]
  case known =>
    intro a ha
    have hmem : a ∈ rs.all.map (·.address) := by
      rw [Results.all, List.map_append, hr.evolved.addresses, hr.evolved.created, List.mem_append,
        List.mem_filter]
      by_cases hin : a ∈ found.map (·.address)
      · exact .inl hin
      · exact .inr ⟨ha, by simpa using hin⟩
    obtain ⟨r, hr', haddress⟩ := List.mem_map.1 hmem
    exact ⟨r, hall.mem_iff.2 hr', haddress⟩
  case closed =>
    intro r hr' hexpected
    rcases List.mem_append.1 (hall.mem_iff.1 hr') with hin | hin
    · have hdone := hr.evolved.foundDone ((hfound.map _).nodup_iff.1 honce) r hin hexpected
      have hended := hdone.2 (by simp) (hchild r hin).2
      exact ⟨hdone.1, fun child => terminal_of_ended hdb htenants hended⟩
    · have hdone := hr.evolved.createdDone r hin
      have hended := hdone.2.2 (by simp)
      exact ⟨hdone.1, fun child => terminal_of_ended hdb htenants hended⟩

/-- Reconciliation is idempotent where no two results of the scope job have one address: after a
reconciliation that no other session disturbs, another one, by whatever session and with whatever
outcome for what is unfinished, creates nothing and changes the time the run was finished. -/
theorem reconcile_idempotent (s : Sid) (σ : Store schema Sid) (job : DiscoveryJobRecord)
    (expected : List String) (maxTargets : Nat) (interrupted : Bool)
    (htree : ScopeTree job expected maxTargets (σ.view s)) (hdirty : σ.dirty s = [])
    (honce : ((rootResults job (σ.view s .results)).map (·.address)).Nodup) :
    Yields (treeFocus job) treeTables s
      (reconcileParentJob job.tenantId job.id interrupted maxTargets) σ fun _ σ₁ =>
      Idle s σ₁ ∧ ∀ s' interrupted' maxTargets', Idle s' σ₁ →
        Yields (.whole schema) treeTables s'
          (reconcileParentJob job.tenantId job.id interrupted' maxTargets') σ₁ fun _ σ₂ =>
          OnlyFinishedAt job.runId σ₁.db σ₂.db := by
  refine (rests_after htree hdirty honce interrupted).imp ?_
  rintro _ σ₁ ⟨hidle, hrests⟩
  exact ⟨hidle, fun s' interrupted' maxTargets' hidle' =>
    hrests.again hidle' interrupted' maxTargets'⟩

/-! ## A scope of one address -/

/-- The scope of one address, its child as it was created. -/
def singleStore : Store schema Unit :=
  Samples.store (Samples.tables [Samples.scopeJob, Samples.deviceJob] [Samples.deviceResult])

theorem single_results :
    rootResults Samples.scopeJob (singleStore.view () .results) = [Samples.deviceResult] := rfl

theorem single_child {k : UUID} {child : DiscoveryJobRecord}
    (hget : (singleStore.view () .jobs).get k = some child)
    (hparent : child.parentJobId = some Samples.scopeJob.id) : child = Samples.deviceJob := by
  have hrow := Tbl.mem_rows_of_get hget
  rw [show (singleStore.view () .jobs).rows = [Samples.scopeJob, Samples.deviceJob] from rfl]
    at hrow
  simp only [List.mem_cons, List.not_mem_nil, or_false] at hrow
  rcases hrow with rfl | rfl
  · cases hparent
  · rfl

theorem single_tree :
    ScopeTree Samples.scopeJob ["10.0.0.1"] defaultMaxTargets (singleStore.view ()) where
  root := rfl
  isRoot := rfl
  there := ⟨Samples.scopeTarget, Samples.scopeRun, rfl, rfl, rfl, rfl⟩
  children r hr := by
    rw [single_results, List.mem_singleton] at hr
    subst hr
    exact ⟨Samples.deviceJob, rfl, rfl⟩
  tenants k child hget hparent := by
    rw [single_child hget hparent]
    rfl

theorem reconcile_idempotent_single :
    Yields (treeFocus Samples.scopeJob) treeTables ()
      (reconcileParentJob Samples.scopeJob.tenantId Samples.scopeJob.id true defaultMaxTargets)
      singleStore fun _ σ₁ => Idle () σ₁ ∧ ∀ s' interrupted' maxTargets', Idle s' σ₁ →
        Yields (.whole schema) treeTables s' (reconcileParentJob Samples.scopeJob.tenantId
          Samples.scopeJob.id interrupted' maxTargets') σ₁ fun _ σ₂ =>
          OnlyFinishedAt Samples.scopeJob.runId σ₁.db σ₂.db :=
  reconcile_idempotent () singleStore Samples.scopeJob ["10.0.0.1"] defaultMaxTargets true
    single_tree rfl (by rw [single_results]; exact List.nodup_singleton _)

/-! ## Two results with one address -/

def pairTarget : DiscoveryTargetRecord :=
  { Samples.scopeTarget with scopeCidr := some "10.0.0.0/30" }

def secondTarget : DiscoveryTargetRecord :=
  newChildTarget Samples.tenant pairTarget "lab:10.0.0.2" "10.0.0.2" 3

/-- The child of the second address, done. -/
def secondJob : DiscoveryJobRecord :=
  { Samples.deviceJob with id := 23, targetId := 3, runId := 13, state := .succeeded }

/-- A running scope of two addresses, with the child of the first still at work. -/
def pairStore : Store schema Unit :=
  let tables := Samples.tables
    [Samples.scopeJob, { Samples.deviceJob with state := .running }, secondJob]
    [{ Samples.deviceResult with state := .discovering },
      { Samples.deviceResult with id := 32, childJobId := 23, address := "10.0.0.2" }]
  Samples.store fun
    | .targets => ((tables .targets).set pairTarget).set secondTarget
    | .runs => (tables .runs).overlay
      [{ Samples.scopeRun with
          metadataJson := { expectedAddresses := some ["10.0.0.1", "10.0.0.2"] } },
        newChildRun Samples.tenant Samples.scopeJob secondTarget "10.0.0.2" 13]
    | t => tables t

/-- The device at the second address reports the first; then the scope is reconciled. -/
def reportSame : M (List DiscoveryDeviceResultRecord) := do
  DiscoveryExecutionService.recordDeviceResult secondJob secondTarget.view
    { source := "lab", managementIp := some "10.0.0.1" } (some "ssh") .discovered
  commit
  reconcileParentJob Samples.tenant Samples.scopeJob.id false defaultMaxTargets

/-- Both returned, and the second one has settled the result of the first address. -/
def settledLate (r r' : Except Exn (List DiscoveryDeviceResultRecord) × Store schema Unit) :
    Bool :=
  match r.1, r'.1, (r.2.db .results).get 31, (r'.2.db .results).get 31 with
  | .ok _, .ok _, some result, some result' =>
    result.resultState == none && result'.resultState == some .interrupted
  | _, _, _, _ => false

/-- The second reconciliation is given the results the other way round. -/
theorem settled_late :
    ((ExceptT.run reportSame).drive (Samples.world 0 50) () pairStore).bind (fun r =>
      ((ExceptT.run (reconcileParentJob Samples.tenant Samples.scopeJob.id true
        defaultMaxTargets)).driveBy (fun σ c => σ.answerBack (Samples.world 1 51) () c) r.2).map
          (settledLate r)) = some true := by
  decide

/-- Reconciling that scope twice settles a result that the first one left open. -/
theorem reconcile_twice_fails :
    ¬ Yields (treeFocus Samples.scopeJob) treeTables () reportSame pairStore fun _ σ₁ =>
      Yields (.whole schema) treeTables ()
        (reconcileParentJob Samples.tenant Samples.scopeJob.id true defaultMaxTargets) σ₁
        fun _ σ₂ => OnlyFinishedAt Samples.scopeJob.runId σ₁.db σ₂.db := by
  intro h
  obtain ⟨⟨r, σ₁⟩, hrun, hrest⟩ := Option.bind_eq_some_iff.1 settled_late
  obtain ⟨⟨r', σ₂⟩, hrun', hlate⟩ := Option.map_eq_some_iff.1 hrest
  have hfirst := Prog.Sat.drive (C := undisturbed (treeFocus Samples.scopeJob) treeTables ())
    (fun _ _ => ⟨fun _ _ => rfl, rfl, rfl, rfl⟩)
    (fun c σ r σ' hanswer => undisturbed_answer hanswer) h hrun
  cases r with
  | error e => cases hlate
  | ok _ =>
    have hsecond := Prog.Sat.driveBy (C := undisturbed (.whole schema) treeTables ())
      (fun _ _ => ⟨fun _ _ => rfl, rfl, rfl, rfl⟩)
      (fun c σ r σ' hanswer => undisturbed_answerBack hanswer) hfirst hrun'
    cases r' with
    | error e => cases hlate
    | ok _ =>
      have hsame : (σ₂.db .results).get 31 = (σ₁.db .results).get 31 :=
        hsecond.others .results (by simp) 31
      cases hresult : (σ₁.db .results).get 31 with
      | none => simp [settledLate, hsame, hresult] at hlate
      | some result =>
        simp only [settledLate, hsame, hresult, Bool.and_eq_true, beq_iff_eq] at hlate
        exact absurd (hlate.1.symm.trans hlate.2) (by simp)

end DiscoveryFanoutService
end Discovery
end NetOps
