import NetOps.Discovery.Accounting
import NetOps.Discovery.Worker

/-!
# Discovery.Endings

What ends a scope job, statement by statement, while no other session disturbs its tree: a job of
the tree only moves towards its end (`TreeMoved`), and a reconciliation makes of the tree what
`ReconciledFrom` says.
-/

namespace NetOps
namespace Discovery
namespace DiscoveryFanoutService

open Conc DiscoveryJobRepository

variable {Sid : Type} [DecidableEq Sid] {s : Sid} {job : DiscoveryJobRecord}
  {W W' W'' : Known job} {N U : List Table} {σ : Store schema Sid}

/-! ## Jobs of the tree -/

/-- The jobs of the tree move towards their ends; nothing else changes. -/
structure TreeMoved (job : DiscoveryJobRecord) (W W' : Known job) : Prop where
  others : ∀ t, t ≠ .jobs → W' t = W t
  none : ∀ k, W .jobs k = none → W' .jobs k = none
  some : ∀ (k : UUID) (x : DiscoveryJobRecord), W .jobs k = some x → ∃ x' : DiscoveryJobRecord,
    W' .jobs k = some x' ∧ x'.identity = x.identity ∧ (x' = x ∨ x'.state.isTerminal = true)

theorem TreeMoved.refl (W : Known job) : TreeMoved job W W :=
  ⟨fun _ _ => rfl, fun _ h => h, fun _ x hx => ⟨x, hx, rfl, .inl rfl⟩⟩

theorem TreeMoved.trans (h : TreeMoved job W W') (h' : TreeMoved job W' W'') :
    TreeMoved job W W'' where
  others t ht := (h'.others t ht).trans (h.others t ht)
  none k hk := h'.none k (h.none k hk)
  some k x hx := by
    obtain ⟨x', hx', hid, hsame⟩ := h.some k x hx
    obtain ⟨x'', hx'', hid', hsame'⟩ := h'.some k x' hx'
    refine ⟨x'', hx'', hid'.trans hid, ?_⟩
    rcases hsame' with rfl | hended
    · exact hsame
    · exact .inr hended

theorem MayEnd.moved {k : UUID} (h : MayEnd job k W W') : TreeMoved job W W' where
  others := h.others
  none k' hk' := by
    by_cases hk : k' = k
    · subst hk
      exact h.none hk'
    · rw [h.rest k' hk]
      exact hk'
  some k' x hx := by
    by_cases hk : k' = k
    · subst hk
      exact h.some x hx
    · exact ⟨x, (h.rest k' hk).trans hx, rfl, .inl rfl⟩

theorem TreeMoved.child (h : TreeMoved job W W') (k : UUID) :
    ChildIn job W' k ↔ ChildIn job W k := by
  unfold ChildIn
  cases hW : W .jobs k with
  | none => rw [h.none k hW]
  | some x =>
    obtain ⟨x', hx', hid, _⟩ := h.some k x hW
    have hparent : x'.parentJobId = x.parentJobId := congrArg JobIdentity.parentJobId hid
    simp [hx', hparent]

theorem TreeMoved.ended {k : UUID} (h : TreeMoved job W W') (hk : EndedIn job W k) :
    EndedIn job W' k := by
  obtain ⟨x, hx, hended⟩ := hk
  obtain ⟨x', hx', _, rfl | hended'⟩ := h.some k x hx
  · exact ⟨x', hx', hended⟩
  · exact ⟨x', hx', fun _ => hended'⟩

theorem TreeMoved.oneTenant (h : TreeMoved job W W') (hone : OneTenant job W) :
    OneTenant job W' := by
  intro k x' hx'
  cases hW : W .jobs k with
  | none =>
    rw [h.none k hW] at hx'
    cases hx'
  | some x =>
    obtain ⟨y, hy, hid, _⟩ := h.some k x hW
    rw [hy] at hx'
    cases hx'
    exact (congrArg JobIdentity.tenantId hid).trans (hone k x hW)

/-- Job `k` is in state `st` now, and no other job is changed. -/
structure MovedTo (job : DiscoveryJobRecord) (k : UUID) (st : DiscoveryJobStatus)
    (W W' : Known job) : Prop where
  only : MayEnd job k W W'
  there : ∃ x' : DiscoveryJobRecord, W' .jobs k = some x' ∧ x'.state = st

/-- What an `UPDATE` that ends the jobs it matches makes of the tree. -/
theorem moved_update {u : JobUpdate} (hu : JobStatement u)
    (hends : ∀ r, (u.values r).state.isTerminal = true) (ids : List UUID) :
    TreeMoved job W (Function.update W .jobs fun k =>
      if k ∈ ids then (W .jobs k).map fun x : DiscoveryJobRecord => (u.values x).steady
      else W .jobs k) where
  others t ht := Function.update_of_ne ht ..
  none k hk := by
    rw [Function.update_self, hk]
    simp
  some k x hx := by
    rw [Function.update_self, hx]
    split
    · obtain ⟨_, htenant, htarget, hrun, hparent⟩ := hu.identity x
      refine ⟨_, rfl, ?_, .inr (hends x)⟩
      have hidentity : (u.values x).steady.identity = (u.values x).identity := rfl
      rw [hidentity, DiscoveryJobRecord.identity, htenant, htarget, hrun, hparent]
      rfl
    · exact ⟨x, rfl, rfl, .inl rfl⟩

/-- An `UPDATE` that ends the jobs it matches as `st`. -/
theorem execute_moves {u : JobUpdate} {st : DiscoveryJobStatus} (hu : JobStatement u)
    (hends : ∀ r, (u.values r).state = st) (hst : st.isTerminal = true) (hU : .jobs ∉ U)
    (h : σ.Knows (treeFocus job) s W U) :
    Yields (treeFocus job) N s u.execute σ fun _ σ' =>
      ∃ W', σ'.Knows (treeFocus job) s W' U ∧ TreeMoved job W W' ∧
        ∀ (k : UUID) (x x' : DiscoveryJobRecord), W .jobs k = some x → W' .jobs k = some x' →
          x' = x ∨ x'.state = st := by
  refine (execute_yields hu hU h).imp ?_
  rintro ids σ' ⟨h', _⟩
  refine ⟨_, h', moved_update hu (fun r => by rw [hends, hst]) ids, fun k x x' hx hx' => ?_⟩
  rw [Function.update_self, hx] at hx'
  split at hx'
  · cases hx'
    exact .inr (hends x)
  · cases hx'
    exact .inl rfl

/-- An `UPDATE` of one job, which it ends as `st` if it matches it. -/
theorem execute_ends {u : JobUpdate} {k : UUID} {st : DiscoveryJobStatus} {x : DiscoveryJobRecord}
    (hu : JobStatement u) (hone : ∀ r, u.filter r = true → r.id = k)
    (hends : ∀ r, (u.values r).state = st) (hst : st.isTerminal = true) (hU : .jobs ∉ U)
    (hx : W .jobs k = some x) (h : σ.Knows (treeFocus job) s W U) :
    Yields (treeFocus job) N s u.execute σ fun ids σ' =>
      ids = [] ∨ ∃ W', σ'.Knows (treeFocus job) s W' U ∧ MovedTo job k st W W' := by
  refine (execute_yields hu hU h).imp ?_
  rintro ids σ' ⟨h', T, _, hids⟩
  have hmem : ∀ k' ∈ ids, k' = k := by
    intro k' hk'
    rw [hids] at hk'
    obtain ⟨r, hr, rfl⟩ := List.mem_map.1 hk'
    exact hone r (List.mem_filter.1 hr).2
  cases ids with
  | nil => exact .inl rfl
  | cons k' ids =>
    have hk' := hmem k' List.mem_cons_self
    subst hk'
    have hmoved : TreeMoved job W _ := moved_update hu (fun r => by rw [hends, hst]) (k' :: ids)
    refine .inr ⟨_, h', ⟨hmoved.others, fun k hk => ?_, hmoved.none k', hmoved.some k'⟩, ?_⟩
    · rw [Function.update_self, if_neg fun hin => hk (hmem k hin)]
    · refine ⟨(u.values x).steady, ?_, hends x⟩
      rw [Function.update_self, if_pos List.mem_cons_self, hx]
      rfl

/-! ## Reads of a job of the tree -/

theorem selectJob_yields {k : UUID} {x : DiscoveryJobRecord} (hU : .jobs ∉ U)
    (hx : W .jobs k = some x) (htenant : x.tenantId = job.tenantId)
    (h : σ.Knows (treeFocus job) s W U) :
    Yields (treeFocus job) N s (select .jobs fun r => r.id == k && r.tenantId == job.tenantId) σ
      fun rows σ' => σ'.Knows (treeFocus job) s W U ∧ ∃ v : DiscoveryJobRecord,
        List.head? rows = some v ∧ v.steady = x ∧ v.id = k := by
  refine (Yields.select h hU).imp ?_
  rintro rows σ₁ ⟨h₁, T, hrows, hT⟩
  refine ⟨h₁, ?_⟩
  rw [← hT] at hx
  obtain ⟨v, hv, hof⟩ := Option.bind_eq_some_iff.1 hx
  obtain ⟨rfl, _⟩ := focus_job.1 hof
  have hkey : v.id = k := T.keyed _ _ hv
  have hmatch : ∀ r : DiscoveryJobRecord, r ∈ rows ↔ r = v := by
    intro r
    rw [hrows.mem_iff, List.mem_filter, Tbl.mem_rows]
    simp only [Bool.and_eq_true, beq_iff_eq]
    constructor
    · rintro ⟨hget, hid, _⟩
      rw [show primaryKey .jobs r = k from hid, hv] at hget
      exact (Option.some.inj hget).symm
    · rintro rfl
      exact ⟨by rw [show primaryKey .jobs r = k from hkey]; exact hv, hkey, htenant⟩
  cases rows with
  | nil => exact absurd ((hmatch v).2 rfl) (by simp)
  | cons r rows =>
    rw [List.head?_cons, (hmatch r).1 List.mem_cons_self]
    exact ⟨v, rfl, rfl, hkey⟩

/-- `repository.get` of a job of the tree. -/
theorem get_yields {k : UUID} {x : DiscoveryJobRecord} (hU : .jobs ∉ U) (hx : W .jobs k = some x)
    (htenant : x.tenantId = job.tenantId) (h : σ.Knows (treeFocus job) s W U) :
    Yields (treeFocus job) N s (DiscoveryJobRepository.get job.tenantId k) σ fun r σ' =>
      σ'.Knows (treeFocus job) s W U ∧ ∃ v : DiscoveryJobRecord, r = some v ∧ v.steady = x ∧
        v.id = k := by
  unfold DiscoveryJobRepository.get
  exact (selectJob_yields hU hx htenant h).bind fun rows σ₁ h₁ => Yields.pure h₁

/-- A cancellation of the job was requested. -/
def requestedIn (x : DiscoveryJobRecord) : Bool :=
  x.cancellationRequestedAt.isSome || x.state == .cancelled

theorem cancellationRequested_yields {k : UUID} {x : DiscoveryJobRecord} (hU : .jobs ∉ U)
    (hx : W .jobs k = some x) (htenant : x.tenantId = job.tenantId)
    (h : σ.Knows (treeFocus job) s W U) :
    Yields (treeFocus job) N s (cancellationRequested job.tenantId k) σ fun b σ' =>
      b = requestedIn x ∧ σ'.Knows (treeFocus job) s W U := by
  unfold cancellationRequested requestedIn
  refine (selectJob_yields hU hx htenant h).bind ?_
  rintro rows σ₁ ⟨h₁, v, hv, hsteady, _⟩
  have hat : v.cancellationRequestedAt = x.cancellationRequestedAt := by
    rw [← hsteady]
    rfl
  rw [hv, Option.bind_some, hat]
  split
  · rename_i hrequested
    refine Yields.pure ⟨?_, h₁⟩
    rw [hrequested, Bool.true_or]
  · rename_i hnot
    refine (selectJob_yields hU hx htenant h₁).bind ?_
    rintro rows σ₂ ⟨h₂, v, hv, hsteady, _⟩
    have hstate : v.state = x.state := by
      rw [← hsteady]
      rfl
    refine Yields.pure ⟨?_, h₂⟩
    rw [hv, Option.map_some, hstate, Bool.eq_false_of_not_eq_true hnot, Bool.false_or]
    rfl

theorem getExisting_yields {tenantId : String} {k : UUID} (h : σ.Knows (treeFocus job) s W U) :
    Yields (treeFocus job) N s (getExisting tenantId k) σ
      fun _ σ' => σ'.Knows (treeFocus job) s W U := by
  unfold getExisting DiscoveryJobRepository.get
  refine ((Yields.reading (c := .select .jobs _) trivial h).bind fun rows σ₁ h₁ =>
    Yields.pure (Q := fun _ σ' => σ'.Knows (treeFocus job) s W U) h₁).bind fun r σ₁ h₁ => ?_
  cases r with
  | some r => exact Yields.pure h₁
  | none => exact Yields.throw

/-! ## Operations on one job -/

theorem transition_yields {a : Transition} {x : DiscoveryJobRecord}
    (htenantId : a.tenantId = job.tenantId) (hx : W .jobs a.jobId = some x)
    (htenant : x.tenantId = job.tenantId) (hst : a.targetState.isTerminal = true)
    (h : σ.Knows (treeFocus job) s W []) :
    Yields (treeFocus job) N s (transition a) σ fun _ σ' =>
      ∃ W', σ'.Knows (treeFocus job) s W' [] ∧ MovedTo job a.jobId a.targetState W W' := by
  unfold transition
  rw [htenantId]
  refine (get_yields (by simp) hx htenant h).bind ?_
  rintro _ σ₁ ⟨h₁, v, rfl, -, -⟩
  dsimp only
  cases hallowed : transitionJob v.state a.targetState with
  | error message => exact Yields.throw
  | ok _ =>
    refine (Yields.reading (c := .ext .utcNow) trivial h₁).bind fun now σ₂ h₂ => ?_
    refine (execute_ends (.transition a v.state now (transitionJob_ok hallowed).2) ?_ ?_ hst
      (by simp) hx h₂).bind ?_
    · intro r hr
      simp only [transitionUpdate, Bool.and_eq_true, beq_iff_eq] at hr
      exact hr.1.1.1.1
    · intro r
      simp only [transitionUpdate]
      split <;> rfl
    · rintro ids σ₃ (rfl | ⟨W', h₃, hmoved⟩)
      · exact Yields.giveUp
      · split
        · exact Yields.giveUp
        · refine (Yields.flush h₃).bind fun _ σ₄ h₄ => ?_
          exact (getExisting_yields h₄).imp fun _ σ₅ h₅ => ⟨W', h₅, hmoved⟩

/-- A cancellation that was requested is final. -/
theorem finaliseCancellation_yields {owner : Option UUID} {k : UUID} {x : DiscoveryJobRecord}
    (hx : W .jobs k = some x) (htenant : x.tenantId = job.tenantId)
    (h : σ.Knows (treeFocus job) s W []) :
    Yields (treeFocus job) N s (finaliseCancellation job.tenantId k owner) σ fun _ σ' =>
      ∃ W', σ'.Knows (treeFocus job) s W' [] ∧ MovedTo job k .cancelled W W' := by
  unfold finaliseCancellation
  refine (get_yields (by simp) hx htenant h).bind ?_
  rintro _ σ₁ ⟨h₁, v, rfl, hsteady, -⟩
  dsimp only
  split
  · rename_i hcancelled
    refine Yields.pure ⟨W, h₁, .refl _ _, x, hx, ?_⟩
    rw [← hsteady]
    exact hcancelled
  · split
    · exact Yields.throw
    · exact transition_yields rfl hx htenant rfl h₁

/-! ## The tree below a scope job -/

/-- The tables of the tree. -/
abbrev treeTables : List Table := [.jobs, .results, .runs, .targets]

/-- The scope job is there, with a target that fans out, and `expected` are its addresses. -/
structure ScopeAt (job : DiscoveryJobRecord) (expected : List String) (maxTargets : Nat)
    (W : Known job) : Prop where
  root : ∃ x : DiscoveryJobRecord, W .jobs job.id = some x ∧ x.identity = job.identity
  there : ∃ scope run, W .targets job.targetId = some scope ∧ scope.scopeType.fansOut = true ∧
    W .runs job.runId = some run ∧ expectedOf run scope maxTargets = .ok expected
  notItsChild : ∀ k r, W .results k = some r → r.childJobId ≠ job.id

variable {expected : List String} {maxTargets : Nat}

theorem ScopeAt.moved (h : ScopeAt job expected maxTargets W) (hmoved : TreeMoved job W W') :
    ScopeAt job expected maxTargets W' := by
  obtain ⟨x, hx, hidentity⟩ := h.root
  obtain ⟨x', hx', hidentity', _⟩ := hmoved.some _ x hx
  refine ⟨⟨x', hx', hidentity'.trans hidentity⟩, ?_, ?_⟩
  · rw [hmoved.others .targets (by simp), hmoved.others .runs (by simp)]
    exact h.there
  · rw [hmoved.others .results (by simp)]
    exact h.notItsChild

theorem ScopeAt.tenant (h : ScopeAt job expected maxTargets W) : ∃ x : DiscoveryJobRecord,
    W .jobs job.id = some x ∧ x.tenantId = job.tenantId := by
  obtain ⟨x, hx, hidentity⟩ := h.root
  exact ⟨x, hx, congrArg JobIdentity.tenantId hidentity⟩

omit [DecidableEq Sid] in
theorem ScopeAt.known (h : ScopeAt job expected maxTargets W) :
    ScopeKnown treeTables job expected maxTargets s W σ := by
  obtain ⟨scope, run, htarget, _, hrun, hexpected⟩ := h.there
  exact ⟨h.root, fun hN => absurd (by simp) hN, scope, run, htarget, hrun, hexpected,
    fun hN => absurd (by simp) hN, fun hN => absurd (by simp) hN⟩

/-- The tree was reconciled, and the run has its summary. -/
def ReconciledFrom (job : DiscoveryJobRecord) (expected : List String) (W W' : Known job)
    (found : List DiscoveryDeviceResultRecord) (rs : Results) : Prop :=
  ∃ interrupted W₀, Listed job W found ∧ W₀ .jobs = W .jobs ∧
    Reconciled treeTables job expected (outcome interrupted) W₀ W' found rs

theorem ReconciledFrom.root {found : List DiscoveryDeviceResultRecord} {rs : Results}
    (h : ReconciledFrom job expected W W' found rs) (hscope : ScopeAt job expected maxTargets W) :
    W' .jobs job.id = W .jobs job.id := by
  obtain ⟨interrupted, W₀, hlisted, hjobs, hr⟩ := h
  rw [hr.ledger.root ?_, hjobs]
  intro r hr'
  have hmem : r.childJobId ∈ found.map (·.childJobId) := by
    rw [← hr.evolved.children]
    exact List.mem_map_of_mem hr'
  obtain ⟨r₀, hr₀, hchild⟩ := List.mem_map.1 hmem
  rw [← hchild]
  exact hscope.notItsChild _ r₀ ((hlisted.mem _ _).2 ⟨hr₀, rfl⟩)

/-- A reconciliation, with its commit. -/
theorem reconcileParentJob_yields {interrupted : Bool}
    (hscope : ScopeAt job expected maxTargets W) (h : σ.Knows (treeFocus job) s W []) :
    Yields (treeFocus job) treeTables s
      (reconcileParentJob job.tenantId job.id interrupted maxTargets) σ fun results σ' =>
      ∃ found rs W', results = rs.all ∧ ReconciledFrom job expected W W' found rs ∧
        σ'.Knows (treeFocus job) s W' [] ∧ Yields.Committed (treeFocus job) W' σ' := by
  unfold reconcileParentJob
  refine (reconcileChildren_yields hscope.known h).bind ?_
  rintro _ σ₁ ⟨found, rs, W₀, W', rfl, hlisted, hjobs, hr, -, h₁⟩
  refine (Yields.commit h₁).bind fun _ σ₂ h₂ => Yields.pure ?_
  exact ⟨found, rs, W', rfl, ⟨interrupted, W₀, hlisted, hjobs, hr⟩, h₂.1, h₂.2⟩

theorem reconcileScope_yields {interrupted : Bool}
    (hscope : ScopeAt job expected defaultMaxTargets W) (h : σ.Knows (treeFocus job) s W []) :
    Yields (treeFocus job) treeTables s
      (reconcileScope True job.tenantId job.id job.targetId interrupted) σ fun _ σ' =>
      ∃ found rs W', ReconciledFrom job expected W W' found rs ∧
        σ'.Knows (treeFocus job) s W' [] := by
  obtain ⟨scope, _, htarget, hfans, _⟩ := hscope.there
  unfold reconcileScope
  refine (Yields.getCurrent h (by simp) (by simp)).bind ?_
  rintro r σ₁ ⟨h₁, hof, _⟩
  rw [htarget] at hof
  obtain ⟨target, rfl, hshown⟩ := Option.bind_eq_some_iff.1 hof
  refine Yields.doIf (fun _ => ?_) fun hnot => absurd ⟨?_, trivial⟩ hnot
  · refine (reconcileParentJob_yields hscope h₁).bind ?_
    rintro _ σ₂ ⟨found, rs, W', _, hr, h₂, _⟩
    exact Yields.pure ⟨found, rs, W', hr, h₂⟩
  · rw [← (focus_target hshown).1] at hfans
    exact hfans

/-- The children of a leased tree are ended. -/
theorem endTreeChildren_yields {cancel : Bool} {root : DiscoveryJobRecord} {message : String}
    {owner : UUID} {children : List DiscoveryJobRecord}
    (hchildren : ∀ c ∈ children, ∃ x : DiscoveryJobRecord, W .jobs c.id = some x ∧
      x.tenantId = job.tenantId) (h : σ.Knows (treeFocus job) s W []) :
    Yields (treeFocus job) N s
      (children.forM (endTreeChild job.tenantId owner (treeOutcome cancel root message))) σ
      fun _ σ' => ∃ W', σ'.Knows (treeFocus job) s W' [] ∧ TreeMoved job W W' := by
  have hst : (treeOutcome cancel root message).targetState.isTerminal = true := by
    unfold treeOutcome
    split <;> rfl
  refine Raises.sat_forM (C := undisturbed (treeFocus job) N s) (E := fun _ _ => True)
    (I := fun σ' => ∃ W', σ'.Knows (treeFocus job) s W' [] ∧ TreeMoved job W W') ?_
    ⟨W, h, .refl W⟩
  rintro child hchild σ₁ ⟨W₁, h₁, hmoved⟩
  obtain ⟨x, hx, htenant⟩ := hchildren child hchild
  obtain ⟨x₁, hx₁, hidentity, _⟩ := hmoved.some _ x hx
  have htenant₁ : x₁.tenantId = job.tenantId :=
    (congrArg JobIdentity.tenantId hidentity).trans htenant
  unfold endTreeChild
  split
  · refine Yields.bind (Yields.reading (c := .ext .utcNow) trivial h₁) fun now σ₂ h₂ => ?_
    refine Yields.bind (execute_moves (.queuedChild ..) (fun r => rfl) hst (by simp) h₂) ?_
    rintro _ σ₃ ⟨W₂, h₃, hmoved', -⟩
    exact Yields.pure ⟨W₂, h₃, hmoved.trans hmoved'⟩
  · refine Yields.doIf (fun _ => ?_) fun _ => ⟨W₁, h₁, hmoved⟩
    refine Yields.bind (transition_yields rfl hx₁ htenant₁ hst h₁) ?_
    rintro _ σ₂ ⟨W₂, h₂, hended⟩
    exact Yields.pure ⟨W₂, h₂, hmoved.trans hended.only.moved⟩

end DiscoveryFanoutService
end Discovery
end NetOps
