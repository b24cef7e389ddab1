import NetOps.Discovery.Undisturbed

/-!
# Discovery.Ledger

What reconciliation holds in memory of a scope job, in step with what the tables show of it
(`Ledger`), and what becomes of the results as it works through the expected addresses
(`Evolved`): the result of an address is settled and its child ended, and both are created if
there is none.
-/

namespace NetOps
namespace Discovery

/-- A job without its lease, which heartbeats renew. -/
def DiscoveryJobRecord.steady (r : DiscoveryJobRecord) : DiscoveryJobRecord :=
  { r with leaseExpiresAt := none, lastHeartbeatAt := none }

/-- What a job is: its tenant, target, run and parent. -/
structure JobIdentity where
  tenantId : String
  targetId : UUID
  runId : UUID
  parentJobId : Option UUID

def DiscoveryJobRecord.identity (r : DiscoveryJobRecord) : JobIdentity :=
  ⟨r.tenantId, r.targetId, r.runId, r.parentJobId⟩

namespace DiscoveryFanoutService

open Conc DiscoveryJobRepository

/-! ## What matters to a scope job -/

/-- The results of the scope job, its run, the job and its children, and its scope. -/
abbrev treeFocus (job : DiscoveryJobRecord) : Focus schema where
  What
    | .results => DiscoveryDeviceResultRecord
    | .runs => DiscoveryRunRecord
    | .jobs => DiscoveryJobRecord
    | .targets => DiscoveryScope
    | _ => Unit
  of
    | .results, r =>
      if r.tenantId = job.tenantId ∧ r.discoveryJobId = job.id then some r else none
    | .runs, r => if r.id = job.runId then some r else none
    | .jobs, r => if r.id = job.id ∨ r.parentJobId = some job.id then some r.steady else none
    | .targets, r =>
      if r.id = job.targetId ∧ r.tenantId = job.tenantId then some r.scope else none
    | .profiles, _ | .attempts, _ | .evidence, _ | .snapshots, _ => none

/-- What a session knows of a scope job. -/
abbrev Known (job : DiscoveryJobRecord) := (t : Table) → Nat → Option ((treeFocus job).What t)

variable {job : DiscoveryJobRecord}

theorem focus_result {r x : DiscoveryDeviceResultRecord} :
    (treeFocus job).of .results r = some x ↔
      x = r ∧ r.tenantId = job.tenantId ∧ r.discoveryJobId = job.id := by
  simp only [treeFocus]
  split
  · rename_i h
    simp [h, eq_comm]
  · rename_i h
    simp [h]

theorem focus_job {r x : DiscoveryJobRecord} :
    (treeFocus job).of .jobs r = some x ↔
      x = r.steady ∧ (r.id = job.id ∨ r.parentJobId = some job.id) := by
  simp only [treeFocus]
  split
  · rename_i h
    rw [Option.some.injEq, eq_comm]
    exact (and_iff_left h).symm
  · rename_i h
    simp [h]

theorem focus_target {r : DiscoveryTargetRecord} {scope : DiscoveryScope}
    (h : (treeFocus job).of .targets r = some scope) :
    r.scope = scope ∧ r.tenantId = job.tenantId := by
  simp only [treeFocus] at h
  split at h
  · rename_i hroot
    exact ⟨Option.some.inj h, hroot.2⟩
  · cases h

theorem focus_run {r x : DiscoveryRunRecord} (h : (treeFocus job).of .runs r = some x) :
    r = x := by
  simp only [treeFocus] at h
  split at h
  · exact Option.some.inj h
  · cases h

/-- The device results of a scope job. -/
def rootResults (job : DiscoveryJobRecord) (T : Tbl (Row .results) (primaryKey .results)) :
    List DiscoveryDeviceResultRecord :=
  T.rows.filter fun r => r.tenantId == job.tenantId && r.discoveryJobId == job.id

/-- No `UPDATE` of a job depends on its lease in what it does to the rest of it. -/
theorem focus_update {u : JobUpdate} (hu : JobStatement u) (r : DiscoveryJobRecord) :
    (treeFocus job).of .jobs (u.values r) =
      ((treeFocus job).of .jobs r).map fun x => (u.values x).steady := by
  obtain ⟨hid, _, _, _, hparent⟩ := hu.identity r
  have hsteady : (u.values r).steady = (u.values r.steady).steady := by
    cases hu with
    | transition a state now h =>
      simp only [transitionUpdate]
      split <;> rfl
    | requestCancellation job' =>
      simp only [requestCancellationUpdate]
      split <;> rfl
    | _ => rfl
  simp only [treeFocus, hid, hparent, hsteady]
  split <;> rfl

variable {W W₀ : Known job}

theorem shown_job {T : Tbl (Row .jobs) (primaryKey .jobs)} (h : T.get job.id = some job) :
    (treeFocus job).shown (t := .jobs) T job.id = some job.steady := by
  rw [Focus.shown_some h]
  exact if_pos (.inl rfl)

theorem shown_target {T : Tbl (Row .targets) (primaryKey .targets)} {target : DiscoveryTargetRecord}
    (h : T.get job.targetId = some target) (htenant : target.tenantId = job.tenantId) :
    (treeFocus job).shown (t := .targets) T job.targetId = some target.scope := by
  rw [Focus.shown_some h]
  exact if_pos ⟨T.keyed _ _ h, htenant⟩

theorem shown_run {T : Tbl (Row .runs) (primaryKey .runs)} {run : DiscoveryRunRecord} :
    (treeFocus job).shown (t := .runs) T job.runId = some run ↔ T.get job.runId = some run := by
  unfold Focus.shown
  constructor
  · intro h
    obtain ⟨v, hv, hof⟩ := Option.bind_eq_some_iff.1 h
    simp only [treeFocus] at hof
    split at hof
    · cases hof
      exact hv
    · cases hof
  · intro h
    rw [h, Option.bind_some]
    exact if_pos (T.keyed _ _ h)

theorem mem_rootResults {T : Tbl (Row .results) (primaryKey .results)}
    {r : DiscoveryDeviceResultRecord} :
    r ∈ rootResults job T ↔ (treeFocus job).shown (t := .results) T r.id = some r := by
  rw [rootResults, List.mem_filter, Tbl.mem_rows, Focus.shown, Option.bind_eq_some_iff]
  simp only [Bool.and_eq_true, beq_iff_eq]
  constructor
  · rintro ⟨hget, hroot⟩
    exact ⟨r, hget, focus_result.2 ⟨rfl, hroot⟩⟩
  · rintro ⟨r', hget, hof⟩
    obtain ⟨rfl, hroot⟩ := focus_result.1 hof
    exact ⟨hget, hroot⟩

theorem nodup_rootResults (T : Tbl (Row .results) (primaryKey .results)) :
    ((rootResults job T).map (·.id)).Nodup :=
  (Tbl.nodup_map_key (T := T)).sublist (List.filter_sublist.map _)

/-- A list of the results that are shown. -/
theorem perm_rootResults {T : Tbl (Row .results) (primaryKey .results)}
    {rs : List DiscoveryDeviceResultRecord} (hnodup : (rs.map (·.id)).Nodup)
    (h : ∀ r, r ∈ rs ↔ (treeFocus job).shown (t := .results) T r.id = some r) :
    (rootResults job T).Perm rs := by
  refine (List.perm_ext_iff_of_nodup (nodup_rootResults T).of_map hnodup.of_map).2 fun r => ?_
  rw [mem_rootResults, h]

/-- The results that are known, as a list. -/
structure Listed (job : DiscoveryJobRecord) (W : Known job)
    (rs : List DiscoveryDeviceResultRecord) : Prop where
  ids : (rs.map (·.id)).Nodup
  mem : ∀ k r, W .results k = some r ↔ r ∈ rs ∧ r.id = k

theorem Listed.of_perm {T : Tbl (Row .results) (primaryKey .results)}
    {rs : List DiscoveryDeviceResultRecord} (h : rs.Perm (rootResults job T))
    (hT : ∀ k, (treeFocus job).shown (t := .results) T k = W .results k) : Listed job W rs where
  ids := ((h.map _).nodup_iff).2 (nodup_rootResults T)
  mem k r := by
    rw [h.mem_iff, mem_rootResults, hT]
    constructor
    · intro hr
      rw [← hT] at hr
      obtain ⟨r', hget, hof⟩ := Option.bind_eq_some_iff.1 hr
      obtain ⟨rfl, _⟩ := focus_result.1 hof
      have hid : r.id = k := T.keyed _ _ hget
      rw [hid, ← hT]
      exact ⟨hr, rfl⟩
    · rintro ⟨hr, rfl⟩
      exact hr

theorem Listed.perm {T : Tbl (Row .results) (primaryKey .results)}
    {rs : List DiscoveryDeviceResultRecord} (h : Listed job W rs)
    (hT : ∀ k, (treeFocus job).shown (t := .results) T k = W .results k) :
    (rootResults job T).Perm rs :=
  perm_rootResults h.ids fun r => by rw [hT, h.mem, and_iff_left rfl]

/-! ## The ledger of a reconciliation -/

/-- The scope job, its target and its run are there. -/
structure Rooted (job : DiscoveryJobRecord) (W : Known job) : Prop where
  root : (W .jobs job.id).isSome
  target : (W .targets job.targetId).isSome
  run : (W .runs job.runId).isSome

/-- The result and the child of an address are new, and nothing else is. -/
structure Created (job : DiscoveryJobRecord) (address : String) (W W' : Known job)
    (result : DiscoveryDeviceResultRecord) : Prop where
  newJob : W .jobs result.childJobId = none
  newResult : W .results result.id = none
  root : result.tenantId = job.tenantId ∧ result.discoveryJobId = job.id
  address : result.address = address
  isOpen : result.resultState = none
  child : ∃ x : DiscoveryJobRecord, x.parentJobId = some job.id ∧ x.tenantId = job.tenantId ∧
    W' .jobs = Function.update (W .jobs) result.childJobId (some x)
  result : W' .results = Function.update (W .results) result.id (some result)
  runs : W' .runs = W .runs
  targets : W' .targets = W .targets

/-- `k` is a child of the job, as far as is known. -/
def ChildIn (job : DiscoveryJobRecord) (W : Known job) (k : UUID) : Prop :=
  ∃ x : DiscoveryJobRecord, W .jobs k = some x ∧ x.parentJobId = some job.id

/-- Job `k` of the tree has ended, if it has the tenant of the tree. -/
def EndedIn (job : DiscoveryJobRecord) (W : Known job) (k : UUID) : Prop :=
  ∃ x : DiscoveryJobRecord, W .jobs k = some x ∧
    (x.tenantId = job.tenantId → x.state.isTerminal = true)

/-- The jobs of the tree have the tenant of the tree. -/
def OneTenant (job : DiscoveryJobRecord) (W : Known job) : Prop :=
  ∀ (k : UUID) (x : DiscoveryJobRecord), W .jobs k = some x → x.tenantId = job.tenantId

/-- What reconciliation holds in memory is what the session has: the results are those of `rs`,
and the children those there were (`W₀`) and those of the results it created. -/
structure Ledger (job : DiscoveryJobRecord) (W₀ W : Known job) (rs : Results) : Prop where
  rooted : Rooted job W
  ids : (rs.all.map (·.id)).Nodup
  results : ∀ k r, W .results k = some r ↔ r ∈ rs.all ∧ r.id = k
  children : ∀ k, ChildIn job W k ↔ ChildIn job W₀ k ∨ k ∈ rs.created.map (·.childJobId)
  newChildren : (rs.created.map (·.childJobId)).Nodup
  notBefore : ∀ k ∈ rs.created.map (·.childJobId), W₀ .jobs k = none
  stay : ∀ k, W .jobs k = none → W₀ .jobs k = none
  tenants : OneTenant job W₀ → OneTenant job W
  root : (∀ r ∈ rs.found, r.childJobId ≠ job.id) → W .jobs job.id = W₀ .jobs job.id

/-- Results with one more. -/
def Results.add (rs : Results) (result : DiscoveryDeviceResultRecord) : Results :=
  { rs with created := rs.created ++ [result] }

theorem Results.add_all (rs : Results) (result : DiscoveryDeviceResultRecord) :
    (rs.add result).all = rs.all ++ [result] := (List.append_assoc ..).symm

variable {found : List DiscoveryDeviceResultRecord} {done : List String} {rs : Results}
  {f : DiscoveryDeviceResultRecord → DiscoveryDeviceResultRecord}
  {result : DiscoveryDeviceResultRecord} {address : String} {W' : Known job}

/-- The ledger with a new result and its child. -/
theorem Ledger.create (h : Ledger job W₀ W rs)
    (hc : Created job address W W' result) : Ledger job W₀ W' (rs.add result) := by
  obtain ⟨x, hx, htenant, hjobs⟩ := hc.child
  have hchild : ∀ k, ChildIn job W' k ↔ k = result.childJobId ∨ ChildIn job W k := by
    intro k
    unfold ChildIn
    rw [hjobs, Function.update_apply]
    split
    · rename_i hk
      simp [hk, hx]
    · rename_i hk
      simp [hk]
  have hfresh : ∀ k ∈ rs.created.map (·.childJobId), k ≠ result.childJobId := by
    rintro k hk rfl
    obtain ⟨y, hy, _⟩ := (h.children _).2 (.inr hk)
    rw [hc.newJob] at hy
    cases hy
  have hnotroot : job.id ≠ result.childJobId := by
    intro heq
    have hroot := h.rooted.root
    rw [heq, hc.newJob] at hroot
    cases hroot
  refine ⟨⟨?_, ?_, ?_⟩, ?_, ?_, ?_, ?_, ?_, ?_, ?_, ?_⟩
  · rw [hjobs, Function.update_of_ne hnotroot]
    exact h.rooted.root
  · rw [hc.targets]
    exact h.rooted.target
  · rw [hc.runs]
    exact h.rooted.run
  · rw [Results.add_all, List.map_append, List.nodup_append]
    refine ⟨h.ids, List.nodup_singleton _, ?_⟩
    rintro k hk k' hk' rfl
    obtain ⟨r, hr, rfl⟩ := List.mem_map.1 hk
    have hW := (h.results r.id r).2 ⟨hr, rfl⟩
    rw [show r.id = result.id by simpa using hk', hc.newResult] at hW
    cases hW
  · intro k r
    rw [hc.result, Function.update_apply, Results.add_all, List.mem_append, List.mem_singleton]
    split
    · rename_i hk
      subst hk
      constructor
      · intro hr
        cases hr
        exact ⟨.inr rfl, rfl⟩
      · rintro ⟨hr | rfl, hid⟩
        · have hW := (h.results _ r).2 ⟨hr, hid⟩
          rw [hc.newResult] at hW
          cases hW
        · rfl
    · rename_i hk
      rw [h.results]
      constructor
      · rintro ⟨hr, hid⟩
        exact ⟨.inl hr, hid⟩
      · rintro ⟨hr | rfl, hid⟩
        · exact ⟨hr, hid⟩
        · exact absurd hid.symm hk
  · intro k
    rw [hchild, h.children, Results.add, List.map_append, List.mem_append]
    simp only [List.map_cons, List.map_nil, List.mem_singleton]
    tauto
  · rw [Results.add, List.map_append, List.nodup_append]
    refine ⟨h.newChildren, List.nodup_singleton _, ?_⟩
    rintro k hk k' hk' rfl
    exact hfresh k hk (by simpa using hk')
  · intro k hk
    rw [Results.add, List.map_append, List.mem_append] at hk
    rcases hk with hk | hk
    · exact h.notBefore k hk
    · rw [show k = result.childJobId by simpa using hk]
      exact h.stay _ hc.newJob
  · intro k hk
    rw [hjobs, Function.update_apply] at hk
    split at hk
    · cases hk
    · exact h.stay k hk
  · intro hone k y hy
    rw [hjobs, Function.update_apply] at hy
    split at hy
    · cases hy
      exact htenant
    · exact h.tenants hone k y hy
  · intro hfound
    rw [hjobs, Function.update_of_ne hnotroot]
    exact h.root hfound

/-- One job of the tree may have ended, and no other is changed. -/
structure MayEnd (job : DiscoveryJobRecord) (k : UUID) (W W' : Known job) : Prop where
  others : ∀ t, t ≠ .jobs → W' t = W t
  rest : ∀ k', k' ≠ k → W' .jobs k' = W .jobs k'
  none : W .jobs k = none → W' .jobs k = none
  some : ∀ x : DiscoveryJobRecord, W .jobs k = some x → ∃ x' : DiscoveryJobRecord,
    W' .jobs k = some x' ∧ x'.identity = x.identity ∧ (x' = x ∨ x'.state.isTerminal = true)

theorem MayEnd.refl (k : UUID) (W : Known job) : MayEnd job k W W :=
  ⟨fun _ _ => rfl, fun _ _ => rfl, id, fun x hx => ⟨x, hx, rfl, .inl rfl⟩⟩

theorem MayEnd.child {k : UUID} (h : MayEnd job k W W') (k' : UUID) :
    ChildIn job W' k' ↔ ChildIn job W k' := by
  unfold ChildIn
  by_cases hk : k' = k
  · subst hk
    cases hW : W .jobs k' with
    | none => rw [h.none hW]
    | some x =>
      obtain ⟨x', hx', hidentity, _⟩ := h.some x hW
      have hparent : x'.parentJobId = x.parentJobId := congrArg JobIdentity.parentJobId hidentity
      simp [hx', hparent]
  · rw [h.rest k' hk]

theorem MayEnd.ended {k k' : UUID} (h : MayEnd job k W W') (hk' : EndedIn job W k') :
    EndedIn job W' k' := by
  obtain ⟨x, hx, hended⟩ := hk'
  by_cases hk : k' = k
  · subst hk
    obtain ⟨x', hx', _, rfl | hended'⟩ := h.some x hx
    · exact ⟨x', hx', hended⟩
    · exact ⟨x', hx', fun _ => hended'⟩
  · rw [← h.rest k' hk] at hx
    exact ⟨x, hx, hended⟩

theorem Created.ended {k : UUID} (h : Created job address W W' result) (hk : EndedIn job W k) :
    EndedIn job W' k := by
  obtain ⟨x, hx, hended⟩ := hk
  obtain ⟨_, _, _, hjobs⟩ := h.child
  refine ⟨x, ?_, hended⟩
  rw [hjobs, Function.update_of_ne, hx]
  rintro rfl
  rw [h.newJob] at hx
  cases hx

/-- The ledger when a child has ended. -/
theorem Ledger.mayEnd {k : UUID} (h : Ledger job W₀ W rs) (hend : MayEnd job k W W')
    (hk : (∀ r ∈ rs.found, r.childJobId ≠ job.id) → k ≠ job.id) : Ledger job W₀ W' rs where
  rooted := by
    refine ⟨?_, ?_, ?_⟩
    · obtain ⟨x, hx⟩ := Option.isSome_iff_exists.1 h.rooted.root
      by_cases hroot : job.id = k
      · obtain ⟨x', hx', _⟩ := hend.some x (hroot ▸ hx)
        rw [hroot, hx']
        rfl
      · rw [hend.rest _ hroot, hx]
        rfl
    · rw [hend.others _ (by simp)]
      exact h.rooted.target
    · rw [hend.others _ (by simp)]
      exact h.rooted.run
  ids := h.ids
  results k r := by
    rw [hend.others _ (by simp)]
    exact h.results k r
  children k' := by
    rw [hend.child]
    exact h.children k'
  newChildren := h.newChildren
  notBefore := h.notBefore
  stay k' hk' := by
    refine h.stay k' ?_
    by_cases hkk : k' = k
    · subst hkk
      cases hW : W .jobs k' with
      | none => rfl
      | some x =>
        obtain ⟨x', hx', _⟩ := hend.some x hW
        rw [hx'] at hk'
        cases hk'
    · rw [hend.rest _ hkk] at hk'
      exact hk'
  tenants hone k' y hy := by
    have hone' := h.tenants hone
    by_cases hkk : k' = k
    · subst hkk
      cases hW : W .jobs k' with
      | none =>
        rw [hend.none hW] at hy
        cases hy
      | some x =>
        obtain ⟨x', hx', hidentity, _⟩ := hend.some x hW
        rw [hx'] at hy
        cases hy
        exact (congrArg JobIdentity.tenantId hidentity).trans (hone' k' x hW)
    · rw [hend.rest _ hkk] at hy
      exact hone' k' y hy
  root hfound := by
    rw [hend.rest _ (Ne.symm (hk hfound))]
    exact h.root hfound

/-- Apply `f` to the result of that id. -/
def onResult (id : UUID) (f : DiscoveryDeviceResultRecord → DiscoveryDeviceResultRecord)
    (r : DiscoveryDeviceResultRecord) : DiscoveryDeviceResultRecord :=
  if r.id = id then f r else r

def Results.onResult (id : UUID) (f : DiscoveryDeviceResultRecord → DiscoveryDeviceResultRecord)
    (rs : Results) : Results where
  found := rs.found.map (DiscoveryFanoutService.onResult id f)
  created := rs.created.map (DiscoveryFanoutService.onResult id f)

theorem Results.onResult_all (id : UUID)
    (f : DiscoveryDeviceResultRecord → DiscoveryDeviceResultRecord) (rs : Results) :
    (rs.onResult id f).all = rs.all.map (DiscoveryFanoutService.onResult id f) :=
  (List.map_append).symm

/-- To replace a result that is there is to apply the change to it. -/
theorem replace_eq (hids : (rs.all.map (·.id)).Nodup) (hmem : result ∈ rs.all)
    (hf : ∀ r, (f r).id = r.id) : rs.replace (f result) = rs.onResult result.id f := by
  have hone : ∀ r ∈ rs.all,
      (if r.id == (f result).id then f result else r) = onResult result.id f r := by
    intro r hr
    unfold onResult
    rw [hf]
    by_cases hid : r.id = result.id
    · rw [List.inj_on_of_nodup_map hids hr hmem hid]
      simp
    · simp [hid]
  unfold Results.replace Results.onResult
  congr 1
  · exact List.map_congr_left fun r hr => hone r (List.mem_append_left _ hr)
  · exact List.map_congr_left fun r hr => hone r (List.mem_append_right _ hr)

/-- The change of a result keeps what result it is. -/
structure KeepsResult (f : DiscoveryDeviceResultRecord → DiscoveryDeviceResultRecord) : Prop where
  id : ∀ r, (f r).id = r.id
  tenantId : ∀ r, (f r).tenantId = r.tenantId
  discoveryJobId : ∀ r, (f r).discoveryJobId = r.discoveryJobId
  childJobId : ∀ r, (f r).childJobId = r.childJobId
  address : ∀ r, (f r).address = r.address

theorem settle_keeps (o : Outcome) (now : DateTime) : KeepsResult (settle o now) :=
  ⟨fun _ => rfl, fun _ => rfl, fun _ => rfl, fun _ => rfl, fun _ => rfl⟩

theorem KeepsResult.focus (hf : KeepsResult f) (r : DiscoveryDeviceResultRecord) :
    (treeFocus job).of .results (f r) = ((treeFocus job).of .results r).map f := by
  simp only [treeFocus, hf.tenantId, hf.discoveryJobId]
  split <;> rfl

theorem KeepsResult.respects (hf : KeepsResult f) :
    (treeFocus job).Respects (t := .results) f :=
  .of_map hf.focus hf.id

theorem map_onResult {β : Type} {g : DiscoveryDeviceResultRecord → β} (hg : ∀ r, g (f r) = g r)
    (id : UUID) (rs : List DiscoveryDeviceResultRecord) :
    (rs.map (onResult id f)).map g = rs.map g := by
  rw [List.map_map]
  refine List.map_congr_left fun r _ => ?_
  simp only [Function.comp, onResult]
  split
  · exact hg r
  · rfl

/-- The change of one result, in memory and in the ledger. -/
theorem Ledger.set (hf : KeepsResult f) (h : Ledger job W₀ W rs) (hmem : result ∈ rs.all)
    (hresults : W' .results = Function.update (W .results) result.id (some (f result)))
    (hothers : ∀ t, t ≠ .results → W' t = W t) : Ledger job W₀ W' (rs.replace (f result)) := by
  rw [replace_eq h.ids hmem hf.id]
  refine ⟨⟨?_, ?_, ?_⟩, ?_, ?_, ?_, ?_, ?_, ?_, ?_, ?_⟩
  · rw [hothers _ (by simp)]
    exact h.rooted.root
  · rw [hothers _ (by simp)]
    exact h.rooted.target
  · rw [hothers _ (by simp)]
    exact h.rooted.run
  · rw [Results.onResult_all, map_onResult hf.id]
    exact h.ids
  · intro k r
    rw [hresults, Function.update_apply, Results.onResult_all, List.mem_map]
    split
    · rename_i hk
      subst hk
      constructor
      · intro hr
        cases hr
        exact ⟨⟨result, hmem, if_pos rfl⟩, hf.id result⟩
      · rintro ⟨⟨r', hr', rfl⟩, hid⟩
        have hr'id : r'.id = result.id := by
          unfold onResult at hid
          split at hid
          · assumption
          · exact hid
        rw [List.inj_on_of_nodup_map h.ids hr' hmem hr'id]
        exact congrArg some (if_pos rfl).symm
    · rename_i hk
      rw [h.results]
      constructor
      · rintro ⟨hr, hid⟩
        exact ⟨⟨r, hr, if_neg (hid ▸ hk)⟩, hid⟩
      · rintro ⟨⟨r', hr', rfl⟩, hid⟩
        unfold onResult at hid ⊢
        split at hid
        · rename_i hr'id
          rw [hf.id] at hid
          exact absurd (hid.symm.trans hr'id) hk
        · rename_i hr'id
          rw [if_neg hr'id]
          exact ⟨hr', hid⟩
  · intro k
    have hsame : ChildIn job W' k ↔ ChildIn job W k := by
      unfold ChildIn
      rw [hothers _ (by simp)]
    rw [hsame, Results.onResult, map_onResult hf.childJobId]
    exact h.children k
  · rw [Results.onResult, map_onResult hf.childJobId]
    exact h.newChildren
  · rw [Results.onResult, map_onResult hf.childJobId]
    exact h.notBefore
  · rw [hothers _ (by simp)]
    exact h.stay
  · unfold OneTenant
    rw [hothers _ (by simp)]
    exact h.tenants
  · intro hfound
    rw [hothers _ (by simp)]
    refine h.root fun r hr => ?_
    have hsame := hfound (onResult result.id f r) (List.mem_map_of_mem hr)
    unfold onResult at hsame
    split at hsame
    · rw [hf.childJobId] at hsame
      exact hsame
    · exact hsame

theorem Ledger.start (hroot : Rooted job W₀) (hfound : Listed job W₀ found) :
    Ledger job W₀ W₀ { found := found } where
  rooted := hroot
  ids := by
    rw [Results.all, List.append_nil]
    exact hfound.ids
  results k r := by
    rw [Results.all, List.append_nil]
    exact hfound.mem k r
  children k := by simp
  newChildren := List.nodup_nil
  notBefore k hk := by simp at hk
  stay _ hk := hk
  tenants hone := hone
  root _ := rfl

theorem Ledger.listed (h : Ledger job W₀ W rs) : Listed job W rs.all := ⟨h.ids, h.results⟩

/-- The ledger does not depend on what the run says. -/
theorem Ledger.run {run : DiscoveryRunRecord} (h : Ledger job W₀ W rs) :
    Ledger job W₀ (Function.update W .runs
      (Function.update (W .runs) job.runId (some run))) rs := by
  have hothers : ∀ t, t ≠ Table.runs → Function.update W .runs
      (Function.update (W .runs) job.runId (some run)) t = W t := fun t ht =>
    Function.update_of_ne ht ..
  have hchild : ∀ k, ChildIn job (Function.update W .runs
      (Function.update (W .runs) job.runId (some run))) k ↔ ChildIn job W k := by
    intro k
    unfold ChildIn
    rw [hothers _ (by simp)]
  refine ⟨⟨?_, ?_, ?_⟩, h.ids, ?_, fun k => (hchild k).trans (h.children k), h.newChildren,
    h.notBefore, ?_, ?_, ?_⟩
  · rw [hothers _ (by simp)]
    exact h.rooted.root
  · rw [hothers _ (by simp)]
    exact h.rooted.target
  · rw [Function.update_self, Function.update_self]
    rfl
  · rw [hothers _ (by simp)]
    exact h.results
  · rw [hothers _ (by simp)]
    exact h.stay
  · unfold OneTenant
    rw [hothers _ (by simp)]
    exact h.tenants
  · rw [hothers _ (by simp)]
    exact h.root

/-! ## What becomes of the results -/

/-- The classification of a result is over. -/
def Closed (r : DiscoveryDeviceResultRecord) : Prop := unfinished r = false

theorem settle_closed (interrupted : Bool) (now : DateTime) (r : DiscoveryDeviceResultRecord) :
    Closed (settle (outcome interrupted) now r) := by
  cases interrupted <;> rfl

theorem Closed.resultState {r : DiscoveryDeviceResultRecord} (h : Closed r) :
    r.resultState.isSome := by
  unfold Closed unfinished at h
  cases hr : r.resultState with
  | none => simp [hr] at h
  | some x => rfl

/-- `r'` is `r`, settled if it was not finished. -/
def Settled (o : Outcome) (r r' : DiscoveryDeviceResultRecord) : Prop :=
  r' = r ∨ unfinished r = true ∧ ∃ now, r' = settle o now r

/-- The change reconciliation makes to a result. -/
def Ends (o : Outcome) (result : DiscoveryDeviceResultRecord)
    (f : DiscoveryDeviceResultRecord → DiscoveryDeviceResultRecord) : Prop :=
  f = id ∨ unfinished result = true ∧ ∃ now, f = settle o now

variable {o : Outcome}

theorem Ends.keeps (h : Ends o result f) : KeepsResult f := by
  rcases h with rfl | ⟨_, now, rfl⟩
  · exact ⟨fun _ => rfl, fun _ => rfl, fun _ => rfl, fun _ => rfl, fun _ => rfl⟩
  · exact settle_keeps o now

theorem Ends.settled {r : DiscoveryDeviceResultRecord} (h : Ends o result f)
    (hr : Settled o r result) : Settled o r (f result) := by
  rcases h with rfl | ⟨hopen, now, rfl⟩
  · exact hr
  · rcases hr with rfl | ⟨hopen', now', rfl⟩
    · exact .inr ⟨hopen, now, rfl⟩
    · exact .inr ⟨hopen', now, rfl⟩

theorem Settled.keeps {r r' : DiscoveryDeviceResultRecord} (h : Settled o r r') :
    r'.id = r.id ∧ r'.childJobId = r.childJobId ∧ r'.address = r.address := by
  rcases h with rfl | ⟨_, now, rfl⟩ <;> exact ⟨rfl, rfl, rfl⟩

/-- What has become of the results when the addresses `done` are reconciled: those found are
settled, those of `done` satisfy `P`, and those created satisfy `Q`. -/
structure Evolved (o : Outcome) (P Q : DiscoveryDeviceResultRecord → Prop)
    (found : List DiscoveryDeviceResultRecord) (done : List String) (rs : Results) : Prop where
  same : List.Forall₂ (Settled o) found rs.found
  created : rs.created.map (·.address) = done.filter fun a => !(found.map (·.address)).contains a
  createdDone : ∀ r ∈ rs.created, Q r
  foundDone : (found.map (·.address)).Nodup → ∀ r ∈ rs.found, r.address ∈ done → P r

variable {P Q P' Q' : DiscoveryDeviceResultRecord → Prop}

theorem forall₂_map_eq {β : Type} {g : DiscoveryDeviceResultRecord → β}
    {rs rs' : List DiscoveryDeviceResultRecord} (hg : ∀ r r', Settled o r r' → g r' = g r)
    (h : List.Forall₂ (Settled o) rs rs') : rs'.map g = rs.map g := by
  induction h with
  | nil => rfl
  | cons hr _ ih => rw [List.map_cons, List.map_cons, hg _ _ hr, ih]

theorem Evolved.addresses (he : Evolved o P Q found done rs) :
    rs.found.map (·.address) = found.map (·.address) :=
  forall₂_map_eq (fun _ _ h => h.keeps.2.2) he.same

theorem Evolved.children (he : Evolved o P Q found done rs) :
    rs.found.map (·.childJobId) = found.map (·.childJobId) :=
  forall₂_map_eq (fun _ _ h => h.keeps.2.1) he.same

theorem Evolved.start (o : Outcome) (P Q : DiscoveryDeviceResultRecord → Prop)
    (found : List DiscoveryDeviceResultRecord) : Evolved o P Q found [] { found := found } where
  same := List.forall₂_same.2 fun _ _ => .inl rfl
  created := rfl
  createdDone r hr := by cases hr
  foundDone _ r _ hdone := by cases hdone

theorem address_onResult (hf : KeepsResult f) (id : UUID) (r : DiscoveryDeviceResultRecord) :
    (onResult id f r).address = r.address := by
  unfold onResult
  split
  · exact hf.address r
  · rfl

/-- The results found, after the change of one result of the ledger. -/
theorem Evolved.onResult (he : Evolved o P Q found done rs) (hf : Ends o result f)
    (hsame : ∀ r ∈ rs.found, r.id = result.id → r = result) :
    List.Forall₂ (Settled o) found
      (rs.found.map (DiscoveryFanoutService.onResult result.id f)) := by
  have hstep : ∀ rs₀ rs' : List DiscoveryDeviceResultRecord, (∀ r ∈ rs', r ∈ rs.found) →
      List.Forall₂ (Settled o) rs₀ rs' →
      List.Forall₂ (Settled o) rs₀ (rs'.map (DiscoveryFanoutService.onResult result.id f)) := by
    intro rs₀ rs' hsub h
    induction h with
    | nil => exact .nil
    | @cons r r' rs₀ rs' hr _ ih =>
      refine .cons ?_ (ih fun r hr => hsub r (List.mem_cons_of_mem _ hr))
      unfold DiscoveryFanoutService.onResult
      split
      · rename_i hid
        have hres := hsame r' (hsub r' List.mem_cons_self) hid
        rw [hres] at hr ⊢
        exact hf.settled hr
      · exact hr
  exact hstep found rs.found (fun _ h => h) he.same

/-- An address whose result was found. -/
theorem Evolved.onFound (he : Evolved o P Q found done rs) (hids : (rs.all.map (·.id)).Nodup)
    (hf : Ends o result f) (hmem : result ∈ rs.found) (hP : ∀ r, P r → P' r ∧ P' (f r))
    (hQ : ∀ r, Q r → Q' r ∧ Q' (f r)) (hdone : P' (f result)) :
    Evolved o P' Q' found (done ++ [result.address]) (rs.onResult result.id f) := by
  have hone : ∀ r ∈ rs.found, r.id = result.id → r = result := fun r hr hid =>
    List.inj_on_of_nodup_map hids (List.mem_append_left _ hr) (List.mem_append_left _ hmem) hid
  have haddress : result.address ∈ found.map (·.address) := by
    rw [← he.addresses]
    exact List.mem_map_of_mem hmem
  refine ⟨he.onResult hf hone, ?_, ?_, ?_⟩
  · rw [Results.onResult, map_onResult hf.keeps.address, he.created, List.filter_append,
      List.filter_cons_of_neg, List.filter_nil, List.append_nil]
    simpa using haddress
  · intro r hr
    obtain ⟨r', hr', rfl⟩ := List.mem_map.1 hr
    have hQ' := hQ r' (he.createdDone r' hr')
    unfold DiscoveryFanoutService.onResult
    split
    · exact hQ'.2
    · exact hQ'.1
  · intro hnodup r hr hin
    obtain ⟨r', hr', rfl⟩ := List.mem_map.1 hr
    rw [address_onResult hf.keeps, List.mem_append, List.mem_singleton] at hin
    have hcase : P r' ∨ r' = result := by
      rcases hin with hin | hin
      · exact .inl (he.foundDone hnodup r' hr' hin)
      · rw [← he.addresses] at hnodup
        exact .inr (List.inj_on_of_nodup_map hnodup hr' hmem hin)
    unfold DiscoveryFanoutService.onResult
    rcases hcase with hp | rfl
    · split
      · exact (hP r' hp).2
      · exact (hP r' hp).1
    · rw [if_pos rfl]
      exact hdone

/-- An address that had no result. -/
theorem Evolved.onCreated (he : Evolved o P Q found done rs)
    (hids : ((rs.add result).all.map (·.id)).Nodup) (hf : Ends o result f)
    (hnone : result.address ∉ rs.found.map (·.address)) (hP : ∀ r, P r → P' r ∧ P' (f r))
    (hQ : ∀ r, Q r → Q' r ∧ Q' (f r)) (hdone : Q' (f result)) :
    Evolved o P' Q' found (done ++ [result.address]) ((rs.add result).onResult result.id f) := by
  rw [he.addresses] at hnone
  have hmem : result ∈ (rs.add result).all := by
    rw [Results.add_all]
    exact List.mem_append_right _ (List.mem_singleton_self result)
  have hone : ∀ r ∈ rs.found, r.id = result.id → r = result := fun r hr hid =>
    List.inj_on_of_nodup_map hids (List.mem_append_left _ hr) hmem hid
  refine ⟨he.onResult hf hone, ?_, ?_, ?_⟩
  · rw [Results.onResult, map_onResult hf.keeps.address, Results.add, List.map_append, he.created,
      List.filter_append, List.filter_cons_of_pos, List.filter_nil, List.map_singleton]
    simpa using hnone
  · intro r hr
    obtain ⟨r', hr', rfl⟩ := List.mem_map.1 hr
    unfold DiscoveryFanoutService.onResult
    rcases List.mem_append.1 hr' with hold | hnew
    · have hQ' := hQ r' (he.createdDone r' hold)
      split
      · exact hQ'.2
      · exact hQ'.1
    · rw [List.mem_singleton.1 hnew, if_pos rfl]
      exact hdone
  · intro hnodup r hr hin
    obtain ⟨r', hr', rfl⟩ := List.mem_map.1 hr
    rw [address_onResult hf.keeps, List.mem_append, List.mem_singleton] at hin
    have hin' : r'.address ∈ done := by
      rcases hin with hin | hin
      · exact hin
      · have hfound : r'.address ∈ found.map (·.address) := by
          rw [← he.addresses]
          exact List.mem_map_of_mem hr'
        exact absurd (hin ▸ hfound) hnone
    have hP' := hP r' (he.foundDone hnodup r' hr' hin')
    unfold DiscoveryFanoutService.onResult
    split
    · exact hP'.2
    · exact hP'.1

/-- The result of an address, found or created. -/
structure Picked (rs : Results) (address : String) (result : DiscoveryDeviceResultRecord)
    (rs' : Results) : Prop where
  mem : result ∈ rs'.all
  same : result.address = address
  which : rs' = rs ∧ result ∈ rs.found ∨
    rs' = rs.add result ∧ address ∉ rs.found.map (·.address) ∧ result.resultState = none

theorem byAddress_some (h : rs.byAddress address = some result) :
    result ∈ rs.found ∧ result.address = address := by
  refine ⟨List.mem_reverse.1 (List.mem_of_find?_eq_some h), ?_⟩
  simpa using List.find?_some h

theorem byAddress_none (h : rs.byAddress address = none) :
    address ∉ rs.found.map (·.address) := by
  intro hmem
  obtain ⟨r, hr, haddress⟩ := List.mem_map.1 hmem
  have hno := List.find?_eq_none.1 h r (List.mem_reverse.2 hr)
  simp [haddress] at hno

/-- What the ledger says of a result once its address is reconciled. -/
def FoundDone (N : List Table) (job : DiscoveryJobRecord) (W₀ W : Known job)
    (r : DiscoveryDeviceResultRecord) : Prop :=
  Closed r ∧ (.jobs ∈ N → (W₀ .jobs r.childJobId).isSome → EndedIn job W r.childJobId)

def CreatedDone (N : List Table) (job : DiscoveryJobRecord) (o : Outcome) (W : Known job)
    (r : DiscoveryDeviceResultRecord) : Prop :=
  Closed r ∧ (r.resultState = some o.resultState ∧ r.state = .job o.jobState) ∧
    (.jobs ∈ N → EndedIn job W r.childJobId)

variable {interrupted : Bool}

theorem FoundDone.mono (h : FoundDone N job W₀ W result)
    (hmono : ∀ k, EndedIn job W k → EndedIn job W' k) : FoundDone N job W₀ W' result :=
  ⟨h.1, fun hN hW₀ => hmono _ (h.2 hN hW₀)⟩

theorem CreatedDone.mono (h : CreatedDone N job o W result)
    (hmono : ∀ k, EndedIn job W k → EndedIn job W' k) : CreatedDone N job o W' result :=
  ⟨h.1, h.2.1, fun hN => hmono _ (h.2.2 hN)⟩

theorem FoundDone.ends (hf : Ends (outcome interrupted) result f) {r : DiscoveryDeviceResultRecord}
    (h : FoundDone N job W₀ W r) : FoundDone N job W₀ W (f r) := by
  rcases hf with rfl | ⟨_, now, rfl⟩
  · exact h
  · exact ⟨settle_closed interrupted now r, h.2⟩

theorem CreatedDone.ends (hf : Ends (outcome interrupted) result f)
    {r : DiscoveryDeviceResultRecord} (h : CreatedDone N job (outcome interrupted) W r) :
    CreatedDone N job (outcome interrupted) W (f r) := by
  rcases hf with rfl | ⟨_, now, rfl⟩
  · exact h
  · exact ⟨settle_closed interrupted now r, ⟨rfl, rfl⟩, h.2.2⟩

end DiscoveryFanoutService
end Discovery
end NetOps
