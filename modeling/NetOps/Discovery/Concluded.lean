import NetOps.Discovery.Endings

/-!
# Discovery.Concluded

The eight ways a scope job ends (`Ending`). What one of them leaves is what a reconciliation makes
of the tree, with a verdict over the scope job (`Concluded`), or the tree as it was with the scope
job cancelled (`MovedTo`).
-/

namespace NetOps
namespace Discovery
namespace DiscoveryFanoutService

open Conc DiscoveryJobRepository

variable {Sid : Type} [DecidableEq Sid] {s : Sid} {job : DiscoveryJobRecord}
  {W W' W'' : Known job} {N U : List Table} {σ : Store schema Sid} {expected : List String}
  {maxTargets : Nat}

/-! ## The ends of a scope job -/

/-- The rest of `execute_discovery_job` for a scope job that has a cancellation request before it
has children. -/
def endAtOnce (a : OwnedJob) : M Unit := do
  let results ← reconcileParentJob a.tenantId a.jobId false defaultMaxTargets
  finishScope a results

/-- The rest of `execute_discovery_job` once the children of the scope job are done; `results`
are the results they were created with. -/
def endAfterChildren (a : OwnedJob) (results : List DiscoveryDeviceResultRecord) : M Unit := do
  let requested ← cancellationRequested a.tenantId a.jobId
  let _ ← reconcileParentJob a.tenantId a.jobId (!requested) defaultMaxTargets
  finishScope a results

/-- What `execute_discovery_job` does with a scope job, up to these two ends. -/
theorem runScope_eq (a : OwnedJob) : runScope a = (do
    doIf (a.alreadyClaimed = false) do
      let _ ← claim a.tenantId a.jobId (some a.executionOwner) a.leaseSeconds
      commit
    let (parent, target) ← loadScope { tenantId := a.tenantId, parentJobId := a.jobId }
    let requested ← cancellationRequested a.tenantId a.jobId
    if requested = true then endAtOnce a
    else do
      let addresses ← unwrap (target.scope.expand defaultMaxTargets)
      persistExpectedAddresses parent addresses
      commit
      let children ← createChildren a.tenantId parent target addresses
      commit
      let joined ← ask (.ext (.gather a.jobId (children.map fun c => (c.1.id, c.2.id))))
      unwrap joined
      endAfterChildren a (children.map (·.2))) := by
  unfold runScope executeScope
  simp only [bind_assoc]
  congr 1
  funext _
  congr 1
  funext scope
  obtain ⟨parent, target⟩ := scope
  dsimp only
  congr 1
  funext requested
  split
  · rfl
  · simp only [bind_assoc, pure_bind]
    rfl

/-- The ways a scope job ends. -/
inductive Ending where
  | requestCancellation (requestedBy : UUID) (reason : String)
  | resolveStaleCancellation
  | recoverExpired (staleBefore : DateTime)
  | abandon (owner : UUID) (message : String)
  | failOwned (owner : UUID) (e : Exn)
  | atOnce (owner : UUID)
  | afterChildren (owner : UUID) (results : List DiscoveryDeviceResultRecord)
  | conflict (owner : UUID) (message : String)

/-- The scope job as its worker holds it. -/
def ownedBy (job : DiscoveryJobRecord) (owner : UUID) : OwnedJob where
  tenantId := job.tenantId
  jobId := job.id
  executionOwner := owner

/-- What runs. The callers of the operations of the repository commit after them. -/
def Ending.script (job : DiscoveryJobRecord) : Ending → M Unit
  | requestCancellation requestedBy reason => do
    let _ ← DiscoveryJobRepository.requestCancellation job.tenantId job.id requestedBy reason
    commit
  | resolveStaleCancellation => do
    let _ ← DiscoveryJobRepository.resolveStaleCancellation job.tenantId job.id
    commit
  | recoverExpired staleBefore => do
    let _ ← recoverExpiredOwnedJob job.tenantId job.id staleBefore
    commit
  | abandon owner message => do
    let _ ← abandonOwnedJob job.tenantId job.id owner message
    commit
  | failOwned owner e => DiscoveryJobWorker.failOwned job.tenantId job.id owner e
  | atOnce owner => do
    let requested ← cancellationRequested job.tenantId job.id
    doIf (requested = true) (endAtOnce (ownedBy job owner))
  | afterChildren owner results => endAfterChildren (ownedBy job owner) results
  | conflict owner message => do
    let _ ← scopeConflict (ownedBy job owner) message

/-- The ending reconciles the tree. -/
def Ending.reconciles : Ending → Bool
  | .requestCancellation .. | .conflict .. => false
  | _ => true


/-! ## What an ending leaves -/

/-- How an ending leaves the scope job, by the results of its reconciliation. -/
abbrev Verdict := List DiscoveryDeviceResultRecord → DiscoveryJobStatus → Prop

/-- The jobs of the tree were moved, the tree was reconciled, and the scope job has its verdict. -/
def Concluded (job : DiscoveryJobRecord) (expected : List String) (verdict : Verdict)
    (W W' : Known job) : Prop :=
  ∃ W₁ W₂ found rs, TreeMoved job W W₁ ∧ ReconciledFrom job expected W₁ W₂ found rs ∧
    MayEnd job job.id W₂ W' ∧
    ∃ x : DiscoveryJobRecord, W' .jobs job.id = some x ∧ verdict rs.all x.state

/-- The scope job has not ended. -/
def StillOpen (job : DiscoveryJobRecord) (W : Known job) : Prop :=
  ∃ x : DiscoveryJobRecord, W .jobs job.id = some x ∧ x.state.isTerminal = false

/-- The verdict of an operation that cannot succeed. -/
def unsuccessful : Verdict := fun _ st => st = .cancelled ∨ st = .failed

/-- `any(result.state == "succeeded" for result in results)`. -/
def anySucceededOf (results : List DiscoveryDeviceResultRecord) : Bool :=
  results.any fun r => r.state == .job .succeeded

/-- The verdict of `execute_discovery_job`. -/
def counted (requested : Bool) : Verdict := fun results st =>
  st = if requested then .cancelled
    else if anySucceededOf results then .succeeded else .failed

/-- The tree reconciled and the scope job ended, in either order. -/
theorem concluded_first {st : DiscoveryJobStatus} {W₁ W₂ : Known job}
    {found : List DiscoveryDeviceResultRecord} {rs : Results}
    (hscope : ScopeAt job expected maxTargets W) (hmoved : TreeMoved job W W₁)
    (hroot : MovedTo job job.id st W₁ W₂) (hst : st = .cancelled ∨ st = .failed)
    (hr : ReconciledFrom job expected W₂ W' found rs) :
    Concluded job expected unsuccessful W W' := by
  obtain ⟨x, hx, hstate⟩ := hroot.there
  have hmoved₂ := hmoved.trans hroot.only.moved
  refine ⟨W₂, W', found, rs, hmoved₂, hr, .refl _ _, x, ?_, ?_⟩
  · rw [hr.root (hscope.moved hmoved₂), hx]
  · rw [hstate]
    exact hst

theorem treeOutcome_state (cancel : Bool) (root : DiscoveryJobRecord) (message : String) :
    (treeOutcome cancel root message).targetState = .cancelled ∨
      (treeOutcome cancel root message).targetState = .failed := by
  cases cancel
  · exact .inr rfl
  · exact .inl rfl

/-- The end of a leased tree. -/
theorem reconcileOwnedTree_yields {owner : UUID} {message : String}
    (hscope : ScopeAt job expected defaultMaxTargets W) (h : σ.Knows (treeFocus job) s W []) :
    Yields (treeFocus job) treeTables s (reconcileOwnedTree job.tenantId job.id owner message) σ
      fun _ σ' => ∃ W', σ'.Knows (treeFocus job) s W' [] ∧
        Concluded job expected unsuccessful W W' := by
  obtain ⟨x, hx, htenant⟩ := hscope.tenant
  unfold reconcileOwnedTree
  refine (get_yields (by simp) hx htenant h).bind ?_
  rintro _ σ₁ ⟨h₁, root, rfl, hsteady, -⟩
  dsimp only
  refine (cancellationRequested_yields (by simp) hx htenant h₁).bind ?_
  rintro cancel σ₂ ⟨-, h₂⟩
  refine (Yields.select h₂ (by simp)).bind ?_
  rintro children σ₃ ⟨h₃, T, hchildren, hT⟩
  have hbelow : ∀ c ∈ children, ∃ x : DiscoveryJobRecord, W .jobs c.id = some x ∧
      x.tenantId = job.tenantId := by
    intro c hc
    have hrow := List.mem_filter.1 (hchildren.mem_iff.1 hc)
    have hfilter := hrow.2
    simp only [Bool.and_eq_true, beq_iff_eq] at hfilter
    refine ⟨c.steady, ?_, hfilter.1.1⟩
    have hget : T.get c.id = some c := Tbl.mem_rows.1 hrow.1
    rw [← hT, Focus.shown, hget, Option.bind_some]
    exact focus_job.2 ⟨rfl, .inr hfilter.1.2⟩
  refine (endTreeChildren_yields hbelow h₃).bind ?_
  rintro _ σ₄ ⟨W₁, h₄, hmoved⟩
  obtain ⟨x₁, hx₁, hidentity, _⟩ := hmoved.some _ x hx
  have htenant₁ : x₁.tenantId = job.tenantId :=
    (congrArg JobIdentity.tenantId hidentity).trans htenant
  have hstate := treeOutcome_state cancel root message
  have hterminal : (treeOutcome cancel root message).targetState.isTerminal = true := by
    rcases hstate with hstate | hstate <;> rw [hstate] <;> rfl
  refine (transition_yields rfl hx₁ htenant₁ hterminal h₄).bind ?_
  rintro terminal σ₅ ⟨W₂, h₅, hended⟩
  have htarget : root.targetId = job.targetId := by
    obtain ⟨y, hy, hyidentity⟩ := hscope.root
    rw [hx] at hy
    cases hy
    rw [← hsteady] at hyidentity
    exact congrArg JobIdentity.targetId hyidentity
  rw [htarget]
  have hmoved₂ := hmoved.trans hended.only.moved
  refine (reconcileScope_yields (hscope.moved hmoved₂) h₅).bind ?_
  rintro _ σ₆ ⟨found, rs, W', hr, h₆⟩
  exact Yields.pure ⟨W', h₆, concluded_first hscope hmoved hended hstate hr⟩

/-! ## One ending at a time -/

/-- Jobs that agree up to their leases agree in everything else. -/
theorem steady_eq {β : Type} {g : DiscoveryJobRecord → β} (hg : ∀ r, g r.steady = g r)
    {r r' : DiscoveryJobRecord} (h : r.steady = r'.steady) : g r = g r' := by
  rw [← hg r, h, hg]

/-- The committed tree is as it was, or with the scope job ended as `Q` says. -/
def Left (job : DiscoveryJobRecord) (Q : Known job → Prop) (σ : Store schema Sid) : Prop :=
  ∃ W', Yields.Committed (treeFocus job) W' σ ∧ (StillOpen job W' ∨ Q W')

/-- The last commit of an ending. -/
theorem left_commit {Q : Known job → Prop} (h : σ.Knows (treeFocus job) s W' U)
    (hleft : StillOpen job W' ∨ Q W') :
    Yields (treeFocus job) N s commit σ fun _ σ' => Left job Q σ' := by
  refine (Yields.commit h).imp ?_
  rintro _ σ' ⟨_, hdb⟩
  exact ⟨W', hdb, hleft⟩

/-- The scope job of an ending: there, and open. -/
structure RootOpen (job : DiscoveryJobRecord) (W : Known job) : Prop where
  root : W .jobs job.id = some job.steady
  isOpen : job.state.isTerminal = false

theorem RootOpen.still (h : RootOpen job W) : StillOpen job W := ⟨_, h.root, h.isOpen⟩

theorem abandon_yields {owner : UUID} {message : String} (hopen : RootOpen job W)
    (hscope : ScopeAt job expected defaultMaxTargets W) (h : σ.Knows (treeFocus job) s W []) :
    Yields (treeFocus job) treeTables s ((Ending.abandon owner message).script job) σ fun _ σ' =>
      Left job (Concluded job expected unsuccessful W) σ' := by
  have hend : Yields (treeFocus job) treeTables s
      (abandonOwnedJob job.tenantId job.id owner message) σ fun _ σ' => ∃ W',
        σ'.Knows (treeFocus job) s W' [] ∧
          (StillOpen job W' ∨ Concluded job expected unsuccessful W W') := by
    unfold abandonOwnedJob ownedRunningJob
    split
    · exact Yields.pure ⟨W, h, .inl hopen.still⟩
    · refine Yields.bind ((Yields.reading (c := .select .jobs _) trivial h).bind
        fun rows σ₁ h₁ => Yields.pure (Q := fun _ σ' => σ'.Knows (treeFocus job) s W []) h₁) ?_
      intro owned σ₁ h₁
      cases owned with
      | none => exact Yields.pure ⟨W, h₁, .inl hopen.still⟩
      | some _ =>
        refine (reconcileOwnedTree_yields hscope h₁).imp ?_
        rintro _ σ₂ ⟨W', h₂, hconcluded⟩
        exact ⟨W', h₂, .inr hconcluded⟩
  refine hend.bind ?_
  rintro _ σ₁ ⟨W', h₁, hleft⟩
  exact left_commit h₁ hleft

theorem recoverExpired_yields {staleBefore : DateTime} (hopen : RootOpen job W)
    (hscope : ScopeAt job expected defaultMaxTargets W) (h : σ.Knows (treeFocus job) s W []) :
    Yields (treeFocus job) treeTables s ((Ending.recoverExpired staleBefore).script job) σ
      fun _ σ' => Left job (Concluded job expected unsuccessful W) σ' := by
  have hend : Yields (treeFocus job) treeTables s
      (recoverExpiredOwnedJob job.tenantId job.id staleBefore) σ fun _ σ' => ∃ W',
        σ'.Knows (treeFocus job) s W' [] ∧
          (StillOpen job W' ∨ Concluded job expected unsuccessful W W') := by
    unfold recoverExpiredOwnedJob
    split
    · exact Yields.pure ⟨W, h, .inl hopen.still⟩
    · refine Yields.bind (get_yields (by simp) hopen.root rfl h) ?_
      rintro r σ₁ ⟨h₁, -⟩
      cases r.bind (expiredOwner · staleBefore) with
      | none => exact Yields.pure ⟨W, h₁, .inl hopen.still⟩
      | some owner =>
        refine (reconcileOwnedTree_yields hscope h₁).imp ?_
        rintro _ σ₂ ⟨W', h₂, hconcluded⟩
        exact ⟨W', h₂, .inr hconcluded⟩
  refine hend.bind ?_
  rintro _ σ₁ ⟨W', h₁, hleft⟩
  exact left_commit h₁ hleft

/-- The target of the scope job is found. -/
theorem findTargetById_yields (h : σ.Knows (treeFocus job) s W U) (hU : .targets ∉ U)
    (hscope : ScopeAt job expected maxTargets W) :
    Yields (treeFocus job) N s (findTargetById job.tenantId job.targetId) σ fun r σ' =>
      σ'.Knows (treeFocus job) s W U ∧ isScope r = true := by
  unfold findTargetById
  refine (Yields.select h hU).bind ?_
  rintro rows σ₁ ⟨h₁, T, hrows, hT⟩
  refine Yields.pure ⟨h₁, ?_⟩
  obtain ⟨scope, _, hscopeAt, hfans, _⟩ := hscope.there
  have hshown := hT job.targetId
  rw [hscopeAt] at hshown
  obtain ⟨target, hget, hof⟩ := Option.bind_eq_some_iff.1 hshown
  obtain ⟨hscopeOf, htenant⟩ := focus_target hof
  have hmatch : ∀ r : DiscoveryTargetRecord, r ∈ rows ↔ r = target := by
    intro r
    rw [hrows.mem_iff, List.mem_filter]
    simp only [Bool.and_eq_true, beq_iff_eq]
    constructor
    · rintro ⟨hrow, hid, _⟩
      have hr : T.get r.id = some r := Tbl.mem_rows.1 hrow
      rw [hid, hget] at hr
      exact (Option.some.inj hr).symm
    · rintro rfl
      exact ⟨Tbl.mem_rows_of_get hget, T.keyed _ _ hget, htenant⟩
  cases rows with
  | nil => exact absurd ((hmatch target).2 rfl) (by simp)
  | cons r rows =>
    rw [List.head?_cons, (hmatch r).1 List.mem_cons_self]
    rw [← hscopeOf] at hfans
    exact hfans

theorem failOwned_yields {owner : UUID} {e : Exn} (hopen : RootOpen job W)
    (hscope : ScopeAt job expected defaultMaxTargets W) (hdb : Yields.Committed (treeFocus job) W σ)
    (h : σ.Knows (treeFocus job) s W []) :
    Yields (treeFocus job) treeTables s ((Ending.failOwned owner e).script job) σ
      fun _ σ' => Left job (Concluded job expected unsuccessful W) σ' := by
  have hget := (get_yields (N := treeTables) (by simp) hopen.root rfl h).keep (get_issues _ _) hdb
  refine hget.bind ?_
  rintro _ σ₁ ⟨⟨h₁, current, rfl, hsteady, -⟩, hdb₁⟩
  dsimp only
  split
  · exact Yields.pure ⟨W, hdb₁, .inl hopen.still⟩
  · have htenant : job.steady.tenantId = job.tenantId := rfl
    refine (transition_yields (rfl : _ = job.tenantId) hopen.root htenant rfl h₁).bind ?_
    rintro _ σ₂ ⟨W₂, h₂, hended⟩
    have htarget : current.targetId = job.targetId := steady_eq (fun _ => rfl) hsteady
    rw [htarget]
    have hscope₂ := hscope.moved hended.only.moved
    refine (findTargetById_yields h₂ (by simp) hscope₂).bind ?_
    rintro target σ₃ ⟨h₃, hisScope⟩
    rw [if_pos hisScope]
    refine (reconcileParentJob_yields hscope₂ h₃).bind ?_
    rintro _ σ₄ ⟨found, rs, W', -, hr, _, hdb₄⟩
    exact Yields.pure ⟨W', hdb₄, .inr (concluded_first hscope (.refl W) hended (.inr rfl) hr)⟩

/-- The read of the scope job after a rollback: it has not ended. -/
theorem current_yields (hopen : RootOpen job W) (h : σ.Knows (treeFocus job) s W [])
    (hdb : Yields.Committed (treeFocus job) W σ) :
    Yields (treeFocus job) N s (DiscoveryJobRepository.get job.tenantId job.id) σ fun r σ' =>
      ∃ current : DiscoveryJobRecord, r = some current ∧ current.state ≠ .cancelled ∧
        σ'.Knows (treeFocus job) s W [] ∧ Yields.Committed (treeFocus job) W σ' := by
  have htenant : job.steady.tenantId = job.tenantId := rfl
  have hget := get_yields (N := N) (s := s) (by simp) hopen.root htenant h
  refine (hget.keep (get_issues _ _) hdb).imp ?_
  rintro r σ₁ ⟨⟨h₁, current, hr, hsteady, -⟩, hdb₁⟩
  refine ⟨current, hr, fun hcancelled => ?_, h₁, hdb₁⟩
  have hstate : current.state = job.state := steady_eq (fun _ => rfl) hsteady
  have hisOpen := hopen.isOpen
  rw [← hstate, hcancelled] at hisOpen
  cases hisOpen

theorem cancelRunningChildren_yields {message : String} {now : DateTime}
    (h : σ.Knows (treeFocus job) s W []) :
    Yields (treeFocus job) N s (cancelRunningChildren job.tenantId job.id message now) σ
      fun _ σ' => ∃ W', σ'.Knows (treeFocus job) s W' [] ∧ TreeMoved job W W' ∧
        ∀ (k : UUID) (x x' : DiscoveryJobRecord), W .jobs k = some x → W' .jobs k = some x' →
          x' = x ∨ x'.state = .cancelled := by
  unfold cancelRunningChildren
  refine Yields.bind (Yields.reading (c := .select .jobs _) trivial h) fun children σ₁ h₁ => ?_
  refine Yields.doIf (fun _ => ?_) fun _ => ⟨W, h₁, .refl W, fun k x x' hx hx' => ?_⟩
  · refine Yields.bind (execute_moves (.resolveStaleChildren ..) (fun _ => rfl) rfl (by simp) h₁) ?_
    rintro _ σ₂ h₂
    exact Yields.pure h₂
  · rw [hx] at hx'
    cases hx'
    exact .inl rfl

theorem resolveStale_yields (hopen : RootOpen job W)
    (hscope : ScopeAt job expected defaultMaxTargets W) (hdb : Yields.Committed (treeFocus job) W σ)
    (h : σ.Knows (treeFocus job) s W []) :
    Yields (treeFocus job) treeTables s (Ending.resolveStaleCancellation.script job) σ
      fun _ σ' => Left job (Concluded job expected unsuccessful W) σ' := by
  have hend : Yields (treeFocus job) treeTables s
      (DiscoveryJobRepository.resolveStaleCancellation job.tenantId job.id) σ fun _ σ' => ∃ W',
        σ'.Knows (treeFocus job) s W' [] ∧
          (StillOpen job W' ∨ Concluded job expected unsuccessful W W') := by
    unfold DiscoveryJobRepository.resolveStaleCancellation
    have htenant : job.steady.tenantId = job.tenantId := rfl
    refine Yields.bind ((get_yields (by simp) hopen.root htenant h).keep (get_issues _ _) hdb) ?_
    rintro _ σ₁ ⟨⟨h₁, root, rfl, hsteady, -⟩, hdb₁⟩
    dsimp only
    have htarget : root.targetId = job.targetId := steady_eq (fun _ => rfl) hsteady
    split
    · exact Yields.pure ⟨W, h₁, .inl hopen.still⟩
    · refine Yields.raiseIf fun _ => Yields.raiseIf fun _ => Yields.raiseIf fun _ => ?_
      refine Yields.bind
        ((Yields.reading (c := .ext .utcNow) trivial h₁).keep issues_utcNow hdb₁) ?_
      rintro now σ₂ ⟨h₂, hdb₂⟩
      refine Yields.raiseIf fun _ => ?_
      have hexecute := execute_ends (N := treeTables)
        (.resolveStale job.tenantId job.id (cancellationMessage root) now) (fun r hr => ?_)
        (fun _ => rfl) rfl (by simp) hopen.root h₂
      · refine Yields.bind (hexecute.keep (issues_execute (.resolveStale ..) (by simp)) hdb₂) ?_
        rintro ids σ₃ ⟨hids, hdb₃⟩
        split
        · refine Yields.bind (Yields.rollback hdb₃) ?_
          rintro _ σ₄ ⟨h₄, hdb₄⟩
          refine Yields.bind (current_yields hopen h₄ hdb₄) ?_
          rintro _ σ₅ ⟨current, rfl, hnot, -⟩
          unfold staleConflict
          dsimp only
          rw [if_neg hnot]
          split
          · exact Yields.throw
          · exact Yields.throw
        · rename_i hsome
          obtain ⟨W₁, h₃, hended⟩ := hids.resolve_left (by simpa using hsome)
          refine Yields.bind (cancelRunningChildren_yields h₃) ?_
          rintro _ σ₄ ⟨W₂, h₄, hmoved, hcancelled⟩
          refine Yields.bind (Yields.flush h₄) fun _ σ₅ h₅ => ?_
          rw [htarget]
          have hmoved₂ := hended.only.moved.trans hmoved
          refine Yields.bind (reconcileScope_yields (hscope.moved hmoved₂) h₅) ?_
          rintro _ σ₆ ⟨found, rs, W', hr, h₆⟩
          obtain ⟨x, hx, hstate⟩ := hended.there
          obtain ⟨x', hx', -⟩ := hmoved.some _ x hx
          have hstate' : x'.state = .cancelled := by
            rcases hcancelled _ x x' hx hx' with rfl | hcancelled
            · exact hstate
            · exact hcancelled
          refine (getExisting_yields h₆).imp fun _ σ₇ h₇ => ⟨W', h₇, .inr ?_⟩
          refine ⟨W₂, W', found, rs, hmoved₂, hr, .refl _ _, x', ?_, .inl hstate'⟩
          rw [hr.root (hscope.moved hmoved₂), hx']
      · simp only [resolveStaleUpdate, Bool.and_eq_true, beq_iff_eq] at hr
        exact hr.1.1.1.1
  refine hend.bind ?_
  rintro _ σ₁ ⟨W', h₁, hleft⟩
  exact left_commit h₁ hleft

/-- The results of `execute_discovery_job` that have succeeded, as the session holds them. -/
theorem anySucceeded_yields {results : List DiscoveryDeviceResultRecord}
    (hknown : ∀ r ∈ results, (W .results r.id).isSome) (h : σ.Knows (treeFocus job) s W []) :
    Yields (treeFocus job) treeTables s (anySucceeded results) σ fun b σ' =>
      σ'.Knows (treeFocus job) s W [] ∧ (b = true ↔ ∃ r ∈ results,
        ∃ r' : DiscoveryDeviceResultRecord, W .results r.id = some r' ∧
          r'.state = .job .succeeded) := by
  induction results generalizing σ with
  | nil => exact Yields.pure ⟨h, by simp⟩
  | cons r results ih =>
    unfold anySucceeded
    refine (Yields.getCurrent h (by simp) (by simp)).bind ?_
    rintro current σ₁ ⟨h₁, hof, -⟩
    obtain ⟨r', hr'⟩ := Option.isSome_iff_exists.1 (hknown r List.mem_cons_self)
    rw [hr'] at hof
    obtain ⟨v, rfl, hv⟩ := Option.bind_eq_some_iff.1 hof
    obtain ⟨rfl, -⟩ := focus_result.1 hv
    rw [Option.any_some]
    split
    · rename_i hsucceeded
      exact Yields.pure ⟨h₁, by simp [hr', beq_iff_eq.1 hsucceeded]⟩
    · rename_i hnot
      refine (ih (fun r hr => hknown r (List.mem_cons_of_mem _ hr)) h₁).imp ?_
      rintro b σ₂ ⟨h₂, hb⟩
      refine ⟨h₂, ?_⟩
      rw [hb]
      simp only [List.mem_cons, exists_eq_or_imp, hr', Option.some.injEq, exists_eq_left']
      rw [beq_iff_eq] at hnot
      simp [hnot]

/-- `results` are the results of the scope job that the reconciliation found, and no others than
it holds. -/
structure Tracks (results found : List DiscoveryDeviceResultRecord) (rs : Results) : Prop where
  found : ∀ r ∈ found, r.id ∈ results.map (·.id)
  all : ∀ r ∈ results, r.id ∈ rs.all.map (·.id)

/-- A result that the reconciliation created has not succeeded. -/
theorem ReconciledFrom.succeeded_iff {results found : List DiscoveryDeviceResultRecord}
    {rs : Results} (hr : ReconciledFrom job expected W W' found rs)
    (htracks : Tracks results found rs) :
    (∃ r ∈ results, ∃ r' : DiscoveryDeviceResultRecord, W' .results r.id = some r' ∧
      r'.state = .job .succeeded) ↔ anySucceededOf rs.all = true := by
  obtain ⟨interrupted, W₀, -, -, hr⟩ := hr
  simp only [anySucceededOf, List.any_eq_true, beq_iff_eq]
  constructor
  · rintro ⟨r, -, r', hr', hstate⟩
    exact ⟨r', ((hr.ledger.results _ _).1 hr').1, hstate⟩
  · rintro ⟨r', hr', hstate⟩
    have hfound : r' ∈ rs.found := by
      rcases List.mem_append.1 hr' with hfound | hcreated
      · exact hfound
      · have hended := (hr.evolved.createdDone r' hcreated).2.1.2
        rw [hstate] at hended
        cases interrupted <;> cases hended
    have hid : r'.id ∈ found.map (·.id) := by
      rw [← forall₂_map_eq (fun _ _ h => h.keeps.1) hr.evolved.same]
      exact List.mem_map_of_mem hfound
    obtain ⟨r₀, hr₀, hid₀⟩ := List.mem_map.1 hid
    obtain ⟨r, hmem, hid'⟩ := List.mem_map.1 (htracks.found r₀ hr₀)
    refine ⟨r, hmem, r', ?_, hstate⟩
    rw [hid', hid₀]
    exact (hr.ledger.results _ _).2 ⟨hr', rfl⟩

/-- The end of a scope job that was reconciled: cancelled as requested, or as its results say. -/
theorem finishScope_yields {owner : UUID} {results found : List DiscoveryDeviceResultRecord}
    {x : DiscoveryJobRecord} {W₁ : Known job} {rs : Results} (hx : W .jobs job.id = some x)
    (hscope : ScopeAt job expected maxTargets W) (hr : ReconciledFrom job expected W W₁ found rs)
    (htracks : Tracks results found rs) (h : σ.Knows (treeFocus job) s W₁ []) :
    Yields (treeFocus job) treeTables s (finishScope (ownedBy job owner) results) σ fun _ σ' =>
      Left job (Concluded job expected (counted (requestedIn x)) W) σ' := by
  obtain ⟨y, hy, htenant⟩ := hscope.tenant
  rw [hx] at hy
  cases hy
  have hx₁ : W₁ .jobs job.id = some x := by rw [hr.root hscope, hx]
  unfold finishScope
  refine (cancellationRequested_yields (by simp) hx₁ htenant h).bind ?_
  rintro requested σ₁ ⟨rfl, h₁⟩
  split
  · rename_i hrequested
    refine Yields.bind (finaliseCancellation_yields hx₁ htenant h₁) ?_
    rintro _ σ₂ ⟨W', h₂, hended⟩
    obtain ⟨x', hx', hstate⟩ := hended.there
    refine left_commit h₂ (.inr ⟨W, W₁, found, rs, .refl W, hr, hended.only, x', hx', ?_⟩)
    rw [counted, hrequested, hstate]
    rfl
  · rename_i hnot
    have hknown : ∀ r ∈ results, (W₁ .results r.id).isSome := by
      intro r hmem
      obtain ⟨interrupted, W₀, -, -, hreconciled⟩ := hr
      obtain ⟨r', hr', hid⟩ := List.mem_map.1 (htracks.all r hmem)
      rw [← hid, (hreconciled.ledger.results _ r').2 ⟨hr', rfl⟩]
      rfl
    refine Yields.bind (anySucceeded_yields hknown h₁) ?_
    rintro succeeded σ₂ ⟨h₂, hsucceeded⟩
    rw [hr.succeeded_iff htracks] at hsucceeded
    have hst : (if succeeded = true then DiscoveryJobStatus.succeeded else .failed).isTerminal =
        true := by
      split <;> rfl
    refine Yields.bind (transition_yields (rfl : _ = job.tenantId) hx₁ htenant hst h₂) ?_
    rintro _ σ₃ ⟨W', h₃, hended⟩
    obtain ⟨x', hx', hstate⟩ := hended.there
    refine left_commit h₃ (.inr ⟨W, W₁, found, rs, .refl W, hr, hended.only, x', hx', ?_⟩)
    rw [counted, Bool.eq_false_of_not_eq_true hnot, hstate, Bool.eq_iff_iff.2 hsucceeded]
    rfl

theorem atOnce_yields {owner : UUID} (hopen : RootOpen job W)
    (hscope : ScopeAt job expected defaultMaxTargets W) (hdb : Yields.Committed (treeFocus job) W σ)
    (h : σ.Knows (treeFocus job) s W []) :
    Yields (treeFocus job) treeTables s ((Ending.atOnce owner).script job) σ fun _ σ' =>
      Left job (Concluded job expected unsuccessful W) σ' := by
  have htenant : job.steady.tenantId = job.tenantId := rfl
  have hrequested := (cancellationRequested_yields (N := treeTables) (by simp) hopen.root htenant
    h).keep (cancellationRequested_issues ..) hdb
  refine hrequested.bind ?_
  rintro requested σ₁ ⟨⟨rfl, h₁⟩, hdb₁⟩
  refine Yields.doIf (fun hrequested => ?_) fun _ => ⟨W, hdb₁, .inl hopen.still⟩
  unfold endAtOnce
  refine (reconcileParentJob_yields hscope h₁).bind ?_
  rintro _ σ₂ ⟨found, rs, W₁, rfl, hr, h₂, -⟩
  have htracks : Tracks rs.all found rs := by
    obtain ⟨interrupted, W₀, -, -, hreconciled⟩ := hr
    refine ⟨fun r hmem => ?_, fun r hmem => List.mem_map_of_mem hmem⟩
    rw [Results.all, List.map_append,
      forall₂_map_eq (fun _ _ h => h.keeps.1) hreconciled.evolved.same]
    exact List.mem_append_left _ (List.mem_map_of_mem hmem)
  refine (finishScope_yields hopen.root hscope hr htracks h₂).imp ?_
  rintro _ σ₃ ⟨W', hdb₃, hleft⟩
  refine ⟨W', hdb₃, hleft.imp_right ?_⟩
  rintro ⟨W₁, W₂, found, rs, hmoved, hr, hend, x', hx', hverdict⟩
  rw [counted, hrequested] at hverdict
  exact ⟨W₁, W₂, found, rs, hmoved, hr, hend, x', hx', .inl hverdict⟩

theorem afterChildren_yields {owner : UUID} {results : List DiscoveryDeviceResultRecord}
    (hopen : RootOpen job W) (hscope : ScopeAt job expected defaultMaxTargets W)
    (hresults : ∀ id, id ∈ results.map (·.id) ↔ (W .results id).isSome)
    (h : σ.Knows (treeFocus job) s W []) :
    Yields (treeFocus job) treeTables s ((Ending.afterChildren owner results).script job) σ
      fun _ σ' => Left job (Concluded job expected (counted (requestedIn job)) W) σ' := by
  have htenant : job.steady.tenantId = job.tenantId := rfl
  refine (cancellationRequested_yields (by simp) hopen.root htenant h).bind ?_
  rintro requested σ₁ ⟨-, h₁⟩
  refine (reconcileParentJob_yields hscope h₁).bind ?_
  rintro _ σ₂ ⟨found, rs, W₁, -, hr, h₂, -⟩
  have htracks : Tracks results found rs := by
    obtain ⟨interrupted, W₀, hlisted, -, hreconciled⟩ := hr
    have hids : ∀ id, id ∈ results.map (·.id) ↔ id ∈ found.map (·.id) := by
      intro id
      rw [hresults, Option.isSome_iff_exists, List.mem_map]
      simp only [hlisted.mem]
    refine ⟨fun r hmem => (hids _).2 (List.mem_map_of_mem hmem), fun r hmem => ?_⟩
    rw [Results.all, List.map_append,
      forall₂_map_eq (fun _ _ h => h.keeps.1) hreconciled.evolved.same]
    exact List.mem_append_left _ ((hids _).1 (List.mem_map_of_mem hmem))
  exact finishScope_yields (x := job.steady) hopen.root hscope hr htracks h₂

theorem conflict_yields {owner : UUID} {message : String} (hopen : RootOpen job W)
    (hdb : Yields.Committed (treeFocus job) W σ) :
    Yields (treeFocus job) treeTables s ((Ending.conflict owner message).script job) σ fun _ σ' =>
      Left job (MovedTo job job.id .cancelled W) σ' := by
  have htenant : job.steady.tenantId = job.tenantId := rfl
  have hend : Yields (treeFocus job) treeTables s (scopeConflict (ownedBy job owner) message) σ
      fun _ σ' => Left job (MovedTo job job.id .cancelled W) σ' := by
    unfold scopeConflict
    refine Yields.bind (Yields.rollback hdb) ?_
    rintro _ σ₁ ⟨h₁, hdb₁⟩
    refine Yields.bind (current_yields hopen h₁ hdb₁) ?_
    rintro _ σ₂ ⟨current, rfl, hnot, h₂, hdb₂⟩
    rw [Option.any_some, if_neg (by simpa using hnot)]
    refine Yields.bind (cancellationRequested_yields (by simp) hopen.root htenant h₂) ?_
    rintro requested σ₃ ⟨-, h₃⟩
    refine Yields.raiseIf fun _ => ?_
    refine Yields.bind (finaliseCancellation_yields hopen.root htenant h₃) ?_
    rintro _ σ₄ ⟨W', h₄, hended⟩
    refine Yields.bind (Yields.commit h₄) ?_
    rintro _ σ₅ ⟨h₅, hdb₅⟩
    obtain ⟨x', hx', -⟩ := hended.there
    obtain ⟨y, hy, hidentity, -⟩ := hended.only.some _ hopen.root
    rw [hx'] at hy
    cases hy
    have htenant' : x'.tenantId = job.tenantId := congrArg JobIdentity.tenantId hidentity
    refine ((get_yields (by simp) hx' htenant' h₅).keep (get_issues _ _) hdb₅).imp ?_
    rintro _ σ₆ ⟨-, hdb₆⟩
    exact ⟨W', hdb₆, .inr hended⟩
  exact hend.bind fun _ _ hleft => Yields.pure hleft

/-- No reconciliation where its condition does not hold. -/
theorem notReconciled_yields {c : Prop} [Decidable c] {tenantId : String} {k targetId : UUID}
    {interrupted : Bool} (hc : ¬ c) (h : σ.Knows (treeFocus job) s W U) :
    Yields (treeFocus job) N s (reconcileScope c tenantId k targetId interrupted) σ fun _ σ' =>
      σ'.Knows (treeFocus job) s W U := by
  unfold reconcileScope
  refine Yields.bind (Yields.reading (c := .get .targets _) trivial h) fun target σ₁ h₁ => ?_
  cases target with
  | none => exact Yields.pure h₁
  | some target => exact Yields.doIf (fun hboth => absurd hboth.2 hc) fun _ => h₁

/-- The `UPDATE` of a cancellation request: it ends a queued job, and only marks a running one. -/
theorem requestUpdate_yields {root : DiscoveryJobRecord} {requestedBy : UUID} {reason : String}
    {now : DateTime} (hopen : RootOpen job W) (hisOpen : root.state.isTerminal = false)
    (h : σ.Knows (treeFocus job) s W []) :
    Yields (treeFocus job) N s
      (requestCancellationUpdate root job.tenantId job.id requestedBy reason now).execute σ
      fun ids σ' => ids = [] ∨ ∃ W', σ'.Knows (treeFocus job) s W' [] ∧
        (StillOpen job W' ∨ MovedTo job job.id .cancelled W W') := by
  have hu : JobStatement
      (requestCancellationUpdate root job.tenantId job.id requestedBy reason now) :=
    .requestCancellation _ _ _ _ _ _ hisOpen
  by_cases hqueued : root.state = .queued
  · have hst : DiscoveryJobStatus.cancelled.isTerminal = true := rfl
    refine (execute_ends hu (fun r hr => ?_) (fun r => ?_) hst (by simp) hopen.root h).imp ?_
    · simp only [requestCancellationUpdate, Bool.and_eq_true, beq_iff_eq] at hr
      exact hr.1.1
    · simp only [requestCancellationUpdate, if_pos hqueued]
      rfl
    · rintro ids σ' (hnone | ⟨W', h', hended⟩)
      · exact .inl hnone
      · exact .inr ⟨W', h', .inr hended⟩
  · refine (execute_yields hu (by simp) h).imp ?_
    rintro ids σ' ⟨h', -⟩
    refine .inr ⟨_, h', .inl ?_⟩
    unfold StillOpen
    rw [Function.update_self, hopen.root]
    split
    · refine ⟨_, rfl, ?_⟩
      simp only [requestCancellationUpdate, if_neg hqueued]
      exact hopen.isOpen
    · exact ⟨_, rfl, hopen.isOpen⟩

/-- A cancellation request ends a queued scope job, and leaves the rest of the tree as it is. -/
theorem requestCancellation_yields {requestedBy : UUID} {reason : String}
    (hopen : RootOpen job W) (hdb : Yields.Committed (treeFocus job) W σ)
    (h : σ.Knows (treeFocus job) s W []) :
    Yields (treeFocus job) treeTables s
      ((Ending.requestCancellation requestedBy reason).script job) σ fun _ σ' =>
      Left job (MovedTo job job.id .cancelled W) σ' := by
  have htenant : job.steady.tenantId = job.tenantId := rfl
  have hend : Yields (treeFocus job) treeTables s
      (DiscoveryJobRepository.requestCancellation job.tenantId job.id requestedBy reason) σ
      fun _ σ' => ∃ W', σ'.Knows (treeFocus job) s W' [] ∧
        (StillOpen job W' ∨ MovedTo job job.id .cancelled W W') := by
    unfold DiscoveryJobRepository.requestCancellation
    refine Yields.bind ((get_yields (by simp) hopen.root htenant h).keep (get_issues _ _) hdb) ?_
    rintro _ σ₁ ⟨⟨h₁, root, rfl, hsteady, -⟩, hdb₁⟩
    dsimp only
    have hstate : root.state = job.state := steady_eq (fun _ => rfl) hsteady
    have hisOpen : root.state.isTerminal = false := hstate ▸ hopen.isOpen
    rw [if_neg (by rw [hisOpen]; simp)]
    split
    · exact Yields.pure ⟨W, h₁, .inl hopen.still⟩
    · refine Yields.bind
        ((Yields.reading (c := .ext .utcNow) trivial h₁).keep issues_utcNow hdb₁) ?_
      rintro now σ₂ ⟨h₂, hdb₂⟩
      refine Yields.bind ((requestUpdate_yields hopen hisOpen h₂).keep
        (issues_execute (.requestCancellation _ _ _ _ _ _ hisOpen) (by simp)) hdb₂) ?_
      rintro ids σ₃ ⟨hids, hdb₃⟩
      split
      · refine Yields.bind (Yields.rollback hdb₃) ?_
        rintro _ σ₄ ⟨h₄, hdb₄⟩
        refine Yields.bind (current_yields hopen h₄ hdb₄) ?_
        rintro _ σ₅ ⟨current, rfl, hnot, -⟩
        dsimp only
        rw [if_neg hnot]
        exact Yields.throw
      · rename_i hsome
        obtain ⟨W', h₃, hleft⟩ := hids.resolve_left (by simpa using hsome)
        refine Yields.bind (Yields.flush h₃) fun _ σ₄ h₄ => ?_
        refine Yields.bind (notReconciled_yields ?_ h₄) fun _ σ₅ h₅ => ?_
        · -- a queued job has been cancelled by now, and a running one is running
          simp only [requestCancellationUpdate]
          split
          · simp [DiscoveryJobRecord.release]
          · assumption
        · refine Yields.bind (getExisting_yields h₅) fun _ σ₆ h₆ => ?_
          exact Yields.pure ⟨W', h₆, hleft⟩
  refine hend.bind ?_
  rintro _ σ₁ ⟨W', h₁, hleft⟩
  exact left_commit h₁ hleft

end DiscoveryFanoutService
end Discovery
end NetOps
