import NetOps.Conc.References
import NetOps.Discovery.Inheritance
import NetOps.Outcomes

/-!
# Discovery.TargetDeletion

The deletion of a target with what its jobs have left (`DiscoveryTargetRepository.delete`), in a
database that enforces its foreign keys.

A deletion that succeeds leaves no reference to a row that is gone (`delete_closed`). It
succeeds, and takes only rows of the tenant that belong to the target's own jobs and their
descendants, if and only if the jobs of the target stand apart from all others
(`deletion_clean_iff`): a scope whose children are of other targets cannot be deleted, and a child
target takes the scope's device result with it.
-/

namespace NetOps
namespace Discovery

open Conc
open Outcomes (bind_ok)

/-! ## Foreign keys -/

instance : Fintype Table where
  elems := {.targets, .profiles, .runs, .jobs, .results, .attempts, .evidence, .snapshots}
  complete t := by cases t <;> decide

/-- The foreign keys of `persistence/models.py`. -/
def foreignKeys : References schema
  | .targets, _ => []
  | .profiles, _ => []
  | .runs, _ => []
  | .jobs, j => (Table.targets, j.targetId) :: (Table.runs, j.runId) ::
      (j.parentJobId.map fun id => (Table.jobs, id)).toList
  | .results, r => [(Table.jobs, r.discoveryJobId), (Table.jobs, r.childJobId)]
  | .attempts, a => [(Table.results, a.deviceResultId)]
  | .evidence, e => [(Table.jobs, e.jobId), (Table.targets, e.targetId), (Table.runs, e.runId)]
  | .snapshots, s => (s.discoveryRunId.map fun id => (Table.runs, id)).toList

/-! ## The deletion -/

namespace DiscoveryTargetRepository

/-- `get`. -/
def get (db : Db schema) (tenantId : String) (targetId : UUID) : Option DiscoveryTargetRecord :=
  ((db .targets).get targetId).filter fun target => target.tenantId = tenantId

def jobIds (db : Db schema) (tenantId : String) (targetId : UUID) : List UUID :=
  ((db .jobs).rows.filter fun j => j.tenantId = tenantId && j.targetId = targetId).map (·.id)

def deviceResultIds (db : Db schema) (jobIds : List UUID) : List UUID :=
  ((db .results).rows.filter fun r =>
    decide (r.discoveryJobId ∈ jobIds) || decide (r.childJobId ∈ jobIds)).map (·.id)

def deleteResults (db : Db schema) (deviceResultIds : List UUID) : Except DbError (Db schema) :=
  if deviceResultIds = [] then .ok db
  else do
    let db ← db.deleteWhere foreignKeys .attempts fun a => a.deviceResultId ∈ deviceResultIds
    db.deleteWhere foreignKeys .results fun r => r.id ∈ deviceResultIds

def deleteJobs (db : Db schema) (targetId : UUID) (jobIds : List UUID) :
    Except DbError (Db schema) :=
  if jobIds = [] then db.deleteWhere foreignKeys .evidence fun e => e.targetId = targetId
  else do
    let db ← deleteResults db (deviceResultIds db jobIds)
    let db ← db.deleteWhere foreignKeys .evidence fun e =>
      decide (e.targetId = targetId) || decide (e.jobId ∈ jobIds)
    db.deleteWhere foreignKeys .jobs fun j => j.id ∈ jobIds

/-- `delete`: its answer, and the tables after it. When a row that stays refers to the target, the
unit of work sets its column to `NULL`, which may not be, so that it fails like the foreign key. -/
def delete (db : Db schema) (tenantId : String) (targetId : UUID) :
    Except DbError (Bool × Db schema) :=
  match get db tenantId targetId with
  | none => .ok (false, db)
  | some record => do
    let db ← deleteJobs db targetId (jobIds db tenantId targetId)
    let db ← db.deleteWhere foreignKeys .targets fun t => t.id = record.id
    .ok (true, db)

end DiscoveryTargetRepository

open DiscoveryTargetRepository

/-! ## What a deletion is for -/

/-- The jobs of a target, and the children of jobs of its tree. -/
inductive InTree (db : Db schema) (targetId : UUID) : UUID → Prop
  | own {job : DiscoveryJobRecord} (hjob : (db .jobs).get job.id = some job)
      (htarget : job.targetId = targetId) : InTree db targetId job.id
  | child {job : DiscoveryJobRecord} {parentId : UUID} (hjob : (db .jobs).get job.id = some job)
      (hparent : job.parentJobId = some parentId) (htree : InTree db targetId parentId) :
      InTree db targetId job.id

/-- The target is the deleted one, or one of a job in its tree. -/
def TreeTarget (db : Db schema) (targetId targetId' : UUID) : Prop :=
  targetId' = targetId ∨ ∃ job : DiscoveryJobRecord, (db .jobs).get job.id = some job ∧
    InTree db targetId job.id ∧ job.targetId = targetId'

/-- A row of the tenant that belongs to the target's own job tree, by all its references. -/
def Own (db : Db schema) (tenantId : String) (targetId : UUID) : (t : Table) → Row t → Prop
  | .targets, t => t.tenantId = tenantId ∧ t.id = targetId
  | .jobs, j => j.tenantId = tenantId ∧ InTree db targetId j.id
  | .results, r => r.tenantId = tenantId ∧ InTree db targetId r.discoveryJobId ∧
      InTree db targetId r.childJobId
  | .attempts, a => a.tenantId = tenantId ∧ ∃ r : DiscoveryDeviceResultRecord,
      (db .results).get a.deviceResultId = some r ∧ InTree db targetId r.discoveryJobId ∧
        InTree db targetId r.childJobId
  | .evidence, e => e.tenantId = tenantId ∧ InTree db targetId e.jobId ∧
      TreeTarget db targetId e.targetId
  | _, _ => False

/-- The deletion violates no foreign key, leaves no reference to a row that is gone, and takes rows
of the target's own job tree only. -/
structure CleanDeletion (db : Db schema) (tenantId : String) (targetId : UUID) : Prop where
  unviolated : ∃ answer, delete db tenantId targetId = .ok answer
  closed : ∀ db', delete db tenantId targetId = .ok (true, db') → Db.Closed foreignKeys db db'
  confined : ∀ db', delete db tenantId targetId = .ok (true, db') → ∀ t k r,
    (db t).get k = some r → (db' t).get k = none → Own db tenantId targetId t r

/-- The rows that hang on the jobs of the target are the tenant's, and hang on no other job. -/
structure Apart (db : Db schema) (tenantId : String) (targetId : UUID) : Prop where
  jobs : ∀ job : DiscoveryJobRecord, (db .jobs).get job.id = some job →
    job.targetId = targetId → job.tenantId = tenantId
  children : ∀ job : DiscoveryJobRecord, (db .jobs).get job.id = some job → ∀ parentId,
    job.parentJobId = some parentId → parentId ∈ jobIds db tenantId targetId →
    job.id ∈ jobIds db tenantId targetId
  results : ∀ r : DiscoveryDeviceResultRecord, (db .results).get r.id = some r →
    r.discoveryJobId ∈ jobIds db tenantId targetId ∨
      r.childJobId ∈ jobIds db tenantId targetId →
    r.tenantId = tenantId ∧ r.discoveryJobId ∈ jobIds db tenantId targetId ∧
      r.childJobId ∈ jobIds db tenantId targetId
  attempts : ∀ a : DiscoveryTransportAttemptRecord, (db .attempts).get a.id = some a →
    a.deviceResultId ∈ deviceResultIds db (jobIds db tenantId targetId) → a.tenantId = tenantId
  evidence : ∀ e : DiscoveryEvidenceRecord, (db .evidence).get e.id = some e →
    e.targetId = targetId ∨ e.jobId ∈ jobIds db tenantId targetId →
    e.tenantId = tenantId ∧ e.jobId ∈ jobIds db tenantId targetId ∧ e.targetId = targetId

variable {db db' : Db schema} {tenantId : String} {targetId : UUID} {ids : List UUID} {k : UUID}

/-! ## Who refers to whom -/

theorem not_referred_attempts : ¬db.Referred foreignKeys .attempts k := by
  rintro ⟨t, r, _, href⟩
  cases t <;> simp [foreignKeys] at href

theorem not_referred_evidence : ¬db.Referred foreignKeys .evidence k := by
  rintro ⟨t, r, _, href⟩
  cases t <;> simp [foreignKeys] at href

theorem referred_results : db.Referred foreignKeys .results k ↔
    ∃ a ∈ (db .attempts).rows, a.deviceResultId = k := by
  constructor
  · rintro ⟨t, r, hr, href⟩
    cases t <;> simp [foreignKeys] at href
    exact ⟨r, hr, href.symm⟩
  · rintro ⟨a, ha, rfl⟩
    exact ⟨.attempts, a, ha, by simp [foreignKeys]⟩

theorem referred_jobs : db.Referred foreignKeys .jobs k ↔
    (∃ j ∈ (db .jobs).rows, j.parentJobId = some k) ∨
    (∃ r ∈ (db .results).rows, r.discoveryJobId = k ∨ r.childJobId = k) ∨
    ∃ e ∈ (db .evidence).rows, e.jobId = k := by
  constructor
  · rintro ⟨t, r, hr, href⟩
    cases t <;> simp [foreignKeys] at href
    · exact .inl ⟨r, hr, href⟩
    · exact .inr (.inl ⟨r, hr, href.imp Eq.symm Eq.symm⟩)
    · exact .inr (.inr ⟨r, hr, href.symm⟩)
  · rintro (⟨j, hj, hparent⟩ | ⟨r, hr, href⟩ | ⟨e, he, rfl⟩)
    · exact ⟨.jobs, j, hj, by simp [foreignKeys, hparent]⟩
    · exact ⟨.results, r, hr, by rcases href with rfl | rfl <;> simp [foreignKeys]⟩
    · exact ⟨.evidence, e, he, by simp [foreignKeys]⟩

theorem referred_targets : db.Referred foreignKeys .targets k ↔
    (∃ j ∈ (db .jobs).rows, j.targetId = k) ∨ ∃ e ∈ (db .evidence).rows, e.targetId = k := by
  constructor
  · rintro ⟨t, r, hr, href⟩
    cases t <;> simp [foreignKeys] at href
    · exact .inl ⟨r, hr, href.symm⟩
    · exact .inr ⟨r, hr, href.symm⟩
  · rintro (⟨j, hj, rfl⟩ | ⟨e, he, rfl⟩)
    · exact ⟨.jobs, j, hj, by simp [foreignKeys]⟩
    · exact ⟨.evidence, e, he, by simp [foreignKeys]⟩

/-! ## What is deleted -/

/-- The rows that go with the jobs of the target. -/
def goes (db : Db schema) (targetId : UUID) (ids : List UUID) : (t : Table) → Row t → Bool
  | .jobs, j => j.id ∈ ids
  | .results, r => decide (r.discoveryJobId ∈ ids) || decide (r.childJobId ∈ ids)
  | .attempts, a => a.deviceResultId ∈ deviceResultIds db ids
  | .evidence, e => decide (e.targetId = targetId) || decide (e.jobId ∈ ids)
  | _, _ => false

/-- The rows of `db'` are those of `db` without property `p`. -/
def Left (p : (t : Table) → Row t → Bool) (db db' : Db schema) : Prop :=
  ∀ t k, (db' t).get k = ((db t).get k).filter fun r => !p t r

theorem Left.mem_rows {p : (t : Table) → Row t → Bool} (h : Left p db db') {t : Table}
    {r : Row t} : r ∈ (db' t).rows ↔ r ∈ (db t).rows ∧ p t r = false := by
  rw [Tbl.mem_rows, Tbl.mem_rows, h, Option.filter_eq_some_iff]
  simp

theorem mem_deviceResultIds (ids : List UUID) {r : DiscoveryDeviceResultRecord}
    (hr : r ∈ (db .results).rows) :
    r.id ∈ deviceResultIds db ids ↔ r.discoveryJobId ∈ ids ∨ r.childJobId ∈ ids := by
  unfold deviceResultIds
  rw [List.mem_map]
  constructor
  · rintro ⟨r', hr', hid⟩
    obtain ⟨hrow', hmatch⟩ := List.mem_filter.1 hr'
    have hget : (db .results).get r.id = some r := Tbl.mem_rows.1 hr
    have hget' : (db .results).get r'.id = some r' := Tbl.mem_rows.1 hrow'
    rw [hid, hget, Option.some.injEq] at hget'
    subst hget'
    simpa using hmatch
  · intro h
    exact ⟨r, List.mem_filter.2 ⟨hr, by simpa using h⟩, rfl⟩

/-- The rows that the deletion of device results takes. -/
def goesWithResults (db : Db schema) (ids : List UUID) : (t : Table) → Row t → Bool
  | .results, r => decide (r.discoveryJobId ∈ ids) || decide (r.childJobId ∈ ids)
  | .attempts, a => a.deviceResultId ∈ deviceResultIds db ids
  | _, _ => false

theorem filter_congr {α : Type} {o : Option α} {p q : α → Bool} (h : ∀ a, o = some a → p a = q a) :
    o.filter p = o.filter q := by
  cases o with
  | none => rfl
  | some a => rw [Option.filter_some, Option.filter_some, h a rfl]

theorem filter_stays {α : Type} {o : Option α} {p : α → Bool} (h : ∀ a, o = some a → p a = false) :
    o = o.filter fun a => !p a := by
  cases o with
  | none => rfl
  | some a => rw [Option.filter_some, h a rfl]; rfl

/-- Their attempts are gone when the results are deleted, so that nobody refers to them. -/
theorem deleteResults_left (db : Db schema) (ids : List UUID) :
    ∃ db', deleteResults db (deviceResultIds db ids) = .ok db' ∧
      Left (goesWithResults db ids) db db' := by
  unfold deleteResults
  split
  · rename_i hnone
    refine ⟨db, rfl, fun t k => filter_stays fun r hget => ?_⟩
    cases t with
    | results =>
      have hmem := (mem_deviceResultIds ids (Tbl.mem_rows_of_get hget)).not.1 (by rw [hnone]; simp)
      simpa [goesWithResults] using hmem
    | attempts => simp [goesWithResults, hnone]
    | _ => rfl
  · rw [Db.deleteWhere_free fun _ _ _ => not_referred_attempts]
    simp only [bind, Except.bind]
    rw [Db.deleteWhere_free (S := schema)]
    · refine ⟨_, rfl, fun t k => ?_⟩
      cases t with
      | results =>
        rw [Db.without_self (S := schema), Tbl.get_filter,
          Db.without_of_ne (S := schema) (by decide)]
        refine filter_congr fun r hget => ?_
        have hmem := mem_deviceResultIds ids (Tbl.mem_rows_of_get hget)
        simp only [goesWithResults, hmem, Bool.decide_or]
      | attempts =>
        rw [Db.without_of_ne (S := schema) (by decide), Db.without_self (S := schema)]
        rfl
      | _ =>
        rw [Db.without_of_ne (S := schema) (by decide), Db.without_of_ne (S := schema) (by decide)]
        exact filter_stays fun _ _ => rfl
    · intro r hr hgoes hreferred
      obtain ⟨a, ha, haid⟩ := referred_results.1 hreferred
      rw [Db.without_of_ne (S := schema) (by decide), Db.mem_rows_without (S := schema)] at ha
      have hid := of_decide_eq_false ha.2
      rw [haid] at hid
      exact hid (of_decide_eq_true hgoes)

/-- A job stays whose parent goes. -/
def Orphans (db : Db schema) (ids : List UUID) : Prop :=
  ∃ j ∈ (db .jobs).rows, j.id ∉ ids ∧ ∃ parentId ∈ ids, j.parentJobId = some parentId

theorem left_without_evidence {p : (t : Table) → Row t → Bool} (h : Left p db db')
    (q : Row .evidence → Bool) {t : Table} (ht : t ≠ .evidence) (k : UUID) :
    (db'.without .evidence q t).get k = ((db t).get k).filter fun r => !p t r := by
  rw [Db.without_of_ne (S := schema) ht]
  exact h t k

/-- When results and evidence are gone, only a job can refer to the jobs that go. -/
theorem deleteJobs_last {db₁ db₂ : Db schema} (h₁ : Left (goesWithResults db ids) db db₁)
    (h₂ : db₂ = db₁.without .evidence fun e =>
      decide (e.targetId = targetId) || decide (e.jobId ∈ ids))
    (hids : ∀ id ∈ ids, ∃ j ∈ (db .jobs).rows, j.id = id) :
    (∃ j ∈ (db₂ .jobs).rows, decide (j.id ∈ ids) = true ∧
      (db₂.without .jobs fun j => j.id ∈ ids).Referred foreignKeys .jobs j.id) ↔
      Orphans db ids := by
  subst h₂
  have hjobs : ∀ j : Row .jobs, j ∈ (db₁.without .evidence (fun e =>
      decide (e.targetId = targetId) || decide (e.jobId ∈ ids)) .jobs).rows ↔
      j ∈ (db .jobs).rows := by
    intro j
    rw [Tbl.mem_rows, Tbl.mem_rows, left_without_evidence h₁ _ (by decide),
      Option.filter_eq_some_iff]
    exact and_iff_left rfl
  constructor
  · rintro ⟨j, _, hgoes, hreferred⟩
    have hid := of_decide_eq_true hgoes
    rcases referred_jobs.1 hreferred with ⟨child, hchild, hparent⟩ | ⟨r, hr, href⟩ | ⟨e, he, href⟩
    · obtain ⟨hrow, hstays⟩ := (Db.mem_rows_without (S := schema)).1 hchild
      exact ⟨child, (hjobs child).1 hrow, of_decide_eq_false hstays, j.id, hid, hparent⟩
    · rw [Db.without_of_ne (S := schema) (by decide), Db.without_of_ne (S := schema) (by decide),
        h₁.mem_rows] at hr
      obtain ⟨hdiscovery, hchild⟩ := Bool.or_eq_false_iff.1 hr.2
      rcases href with href | href
      · exact absurd (href ▸ hid) (of_decide_eq_false hdiscovery)
      · exact absurd (href ▸ hid) (of_decide_eq_false hchild)
    · rw [Db.without_of_ne (S := schema) (by decide), Db.mem_rows_without (S := schema)] at he
      exact absurd (href ▸ hid) (of_decide_eq_false (Bool.or_eq_false_iff.1 he.2).2)
  · rintro ⟨child, hrow, hstays, parentId, hparentId, hparent⟩
    obtain ⟨j, hj, rfl⟩ := hids parentId hparentId
    refine ⟨j, (hjobs j).2 hj, decide_eq_true hparentId,
      referred_jobs.2 (.inl ⟨child, ?_, hparent⟩)⟩
    exact (Db.mem_rows_without (S := schema)).2 ⟨(hjobs child).2 hrow, decide_eq_false hstays⟩

/-- The jobs of the target go with their rows, unless one of them has a child that stays. -/
theorem deleteJobs_ok (targetId : UUID) (hids : ∀ id ∈ ids, ∃ j ∈ (db .jobs).rows, j.id = id)
    (h : ¬Orphans db ids) :
    ∃ db', deleteJobs db targetId ids = .ok db' ∧ Left (goes db targetId ids) db db' := by
  unfold deleteJobs
  split
  · rename_i hnone
    rw [Db.deleteWhere_free fun _ _ _ => not_referred_evidence]
    refine ⟨_, rfl, fun t k => ?_⟩
    cases t with
    | evidence =>
      rw [Db.without_self (S := schema)]
      refine filter_congr fun e _ => ?_
      simp [goes, hnone]
    | jobs =>
      rw [Db.without_of_ne (S := schema) (by decide)]
      exact filter_stays fun j _ => by simp [goes, hnone]
    | results =>
      rw [Db.without_of_ne (S := schema) (by decide)]
      exact filter_stays fun r _ => by simp [goes, hnone]
    | attempts =>
      rw [Db.without_of_ne (S := schema) (by decide)]
      exact filter_stays fun a _ => by simp [goes, hnone, deviceResultIds]
    | _ =>
      rw [Db.without_of_ne (S := schema) (by decide)]
      exact filter_stays fun _ _ => rfl
  · obtain ⟨db₁, hdelete, h₁⟩ := deleteResults_left db ids
    rw [hdelete]
    simp only [bind, Except.bind]
    rw [Db.deleteWhere_free fun _ _ _ => not_referred_evidence]
    dsimp only
    rw [Db.deleteWhere_free (S := schema)]
    · refine ⟨_, rfl, fun t k => ?_⟩
      cases t with
      | jobs =>
        have hkept : ((db .jobs).get k).filter (fun j => !goesWithResults db ids .jobs j) =
            (db .jobs).get k := (filter_stays fun _ _ => rfl).symm
        rw [Db.without_self (S := schema), Tbl.get_filter, left_without_evidence h₁ _ (by decide),
          hkept]
        rfl
      | evidence =>
        have hkept : ((db .evidence).get k).filter (fun e => !goesWithResults db ids .evidence e) =
            (db .evidence).get k := (filter_stays fun _ _ => rfl).symm
        rw [Db.without_of_ne (S := schema) (by decide), Db.without_self (S := schema),
          Tbl.get_filter, h₁, hkept]
        rfl
      | _ =>
        rw [Db.without_of_ne (S := schema) (by decide), left_without_evidence h₁ _ (by decide)]
        rfl
    · intro j hj hgoes hreferred
      exact h ((deleteJobs_last h₁ rfl hids).1 ⟨j, hj, hgoes, hreferred⟩)

theorem deleteJobs_error (hids : ∀ id ∈ ids, ∃ j ∈ (db .jobs).rows, j.id = id)
    (h : Orphans db ids) : deleteJobs db targetId ids = .error .integrity := by
  unfold deleteJobs
  split
  · rename_i hnone
    obtain ⟨_, _, _, parentId, hmem, _⟩ := h
    rw [hnone] at hmem
    cases hmem
  · obtain ⟨db₁, hdelete, h₁⟩ := deleteResults_left db ids
    rw [hdelete]
    simp only [bind, Except.bind]
    rw [Db.deleteWhere_free fun _ _ _ => not_referred_evidence]
    dsimp only
    exact Db.deleteWhere_error ((deleteJobs_last h₁ rfl hids).2 h)

/-! ## The deletion of a target -/

theorem mem_jobIds {job : DiscoveryJobRecord} (hjob : (db .jobs).get job.id = some job) :
    job.id ∈ jobIds db tenantId targetId ↔ job.tenantId = tenantId ∧ job.targetId = targetId := by
  unfold jobIds
  rw [List.mem_map]
  constructor
  · rintro ⟨j, hj, hid⟩
    obtain ⟨hrow, hmatch⟩ := List.mem_filter.1 hj
    have hget : (db .jobs).get j.id = some j := Tbl.mem_rows.1 hrow
    rw [hid, hjob, Option.some.injEq] at hget
    subst hget
    simpa using hmatch
  · intro h
    exact ⟨job, List.mem_filter.2 ⟨Tbl.mem_rows_of_get hjob, by simpa using h⟩, rfl⟩

theorem jobIds_stored : ∀ id ∈ jobIds db tenantId targetId, ∃ j ∈ (db .jobs).rows, j.id = id := by
  intro id hid
  obtain ⟨j, hj, rfl⟩ := List.mem_map.1 hid
  exact ⟨j, (List.mem_filter.1 hj).1, rfl⟩

/-- Every job of the target is of the tenant. -/
def OneTenant (db : Db schema) (tenantId : String) (targetId : UUID) : Prop :=
  ∀ job : DiscoveryJobRecord, (db .jobs).get job.id = some job →
    job.targetId = targetId → job.tenantId = tenantId

/-- When the jobs are gone, only jobs of other tenants can refer to the target. -/
theorem target_referred_iff (h : Left (goes db targetId (jobIds db tenantId targetId)) db db')
    {p : Row .targets → Bool} :
    (db'.without .targets p).Referred foreignKeys .targets targetId ↔
      ¬OneTenant db tenantId targetId := by
  rw [referred_targets, Db.without_of_ne (S := schema) (by decide),
    Db.without_of_ne (S := schema) (by decide)]
  constructor
  · rintro (⟨j, hj, htarget⟩ | ⟨e, he, htarget⟩) honly
    · obtain ⟨hrow, hstays⟩ := h.mem_rows.1 hj
      have hget : (db .jobs).get j.id = some j := Tbl.mem_rows.1 hrow
      exact of_decide_eq_false hstays ((mem_jobIds hget).2 ⟨honly j hget htarget, htarget⟩)
    · have hstays := (h.mem_rows.1 he).2
      exact of_decide_eq_false (Bool.or_eq_false_iff.1 hstays).1 htarget
  · intro hother
    unfold OneTenant at hother
    push Not at hother
    obtain ⟨j, hget, htarget, hne⟩ := hother
    refine .inl ⟨j, h.mem_rows.2 ⟨Tbl.mem_rows_of_get hget, decide_eq_false ?_⟩, htarget⟩
    exact fun hmem => hne ((mem_jobIds hget).1 hmem).1

/-- The target goes with its jobs, unless a job that stays refers to one of them or to it. -/
theorem delete_ok (hfound : get db tenantId targetId ≠ none)
    (horphans : ¬Orphans db (jobIds db tenantId targetId))
    (honly : OneTenant db tenantId targetId) :
    ∃ db', delete db tenantId targetId = .ok (true, db'.without .targets fun t => t.id = targetId) ∧
      Left (goes db targetId (jobIds db tenantId targetId)) db db' := by
  obtain ⟨record, hrecord⟩ := Option.ne_none_iff_exists'.1 hfound
  have hid : record.id = targetId :=
    (db .targets).keyed targetId record (Option.filter_eq_some_iff.1 hrecord).1
  obtain ⟨db', hjobs, hleft⟩ := deleteJobs_ok targetId jobIds_stored horphans
  refine ⟨db', ?_, hleft⟩
  unfold DiscoveryTargetRepository.delete
  rw [hrecord]
  dsimp only
  rw [hid, hjobs]
  simp only [bind, Except.bind]
  rw [Db.deleteWhere_free (S := schema)]
  intro t _ hp hreferred
  rw [show schema.key .targets t = targetId from of_decide_eq_true hp] at hreferred
  exact (target_referred_iff hleft).1 hreferred honly

theorem delete_error (hfound : get db tenantId targetId ≠ none)
    (h : Orphans db (jobIds db tenantId targetId) ∨ ¬OneTenant db tenantId targetId) :
    delete db tenantId targetId = .error .integrity := by
  obtain ⟨record, hrecord⟩ := Option.ne_none_iff_exists'.1 hfound
  have hget := (Option.filter_eq_some_iff.1 hrecord).1
  have hid : record.id = targetId := (db .targets).keyed targetId record hget
  unfold DiscoveryTargetRepository.delete
  rw [hrecord]
  dsimp only
  rw [hid]
  by_cases horphans : Orphans db (jobIds db tenantId targetId)
  · rw [deleteJobs_error jobIds_stored horphans]
    rfl
  · obtain ⟨db', hjobs, hleft⟩ := deleteJobs_ok targetId jobIds_stored horphans
    rw [hjobs]
    simp only [bind, Except.bind]
    rw [Db.deleteWhere_error (S := schema)]
    have hstays : (db' .targets).get targetId = some record := by
      rw [hleft, hget]
      rfl
    refine ⟨record, Tbl.mem_rows_of_get hstays, decide_eq_true hid, ?_⟩
    rw [show schema.key .targets record = targetId from hid]
    exact (target_referred_iff hleft).2 (h.resolve_left horphans)

/-! ## Clean deletions -/

theorem deleteResults_shrunk {resultIds : List UUID} (h : deleteResults db resultIds = .ok db') :
    Db.Shrunk foreignKeys db db' := by
  unfold deleteResults at h
  split at h
  · cases h
    exact Db.Shrunk.refl _ _
  · obtain ⟨db₁, hattempts, hresults⟩ := bind_ok h
    exact (Db.deleteWhere_shrunk hattempts).trans (Db.deleteWhere_shrunk hresults)

theorem deleteJobs_shrunk (h : deleteJobs db targetId ids = .ok db') :
    Db.Shrunk foreignKeys db db' := by
  unfold deleteJobs at h
  split at h
  · exact Db.deleteWhere_shrunk h
  · obtain ⟨db₁, hresults, h⟩ := bind_ok h
    obtain ⟨db₂, hevidence, hjobs⟩ := bind_ok h
    exact ((deleteResults_shrunk hresults).trans (Db.deleteWhere_shrunk hevidence)).trans
      (Db.deleteWhere_shrunk hjobs)

/-- A deletion that succeeds leaves no reference to a row that is gone. -/
theorem delete_closed {answer : Bool} (h : delete db tenantId targetId = .ok (answer, db')) :
    Db.Closed foreignKeys db db' := by
  unfold DiscoveryTargetRepository.delete at h
  split at h
  · cases h
    exact Db.Closed.refl _ _
  · obtain ⟨db₁, hjobs, h⟩ := bind_ok h
    obtain ⟨db₂, htargets, h⟩ := bind_ok h
    cases h
    exact ((deleteJobs_shrunk hjobs).trans (Db.deleteWhere_shrunk htargets)).closed

/-- The tree of the target is its own jobs, when these have no children that stay. -/
theorem inTree_iff (honly : OneTenant db tenantId targetId)
    (horphans : ¬Orphans db (jobIds db tenantId targetId)) {id : UUID} :
    InTree db targetId id ↔ id ∈ jobIds db tenantId targetId := by
  constructor
  · intro h
    induction h with
    | own hjob htarget => exact (mem_jobIds hjob).2 ⟨honly _ hjob htarget, htarget⟩
    | @child job parentId hjob hparent _ ih =>
      by_contra hstays
      exact horphans ⟨job, Tbl.mem_rows_of_get hjob, hstays, parentId, ih, hparent⟩
  · intro h
    obtain ⟨job, hrow, rfl⟩ := jobIds_stored id h
    have hget : (db .jobs).get job.id = some job := Tbl.mem_rows.1 hrow
    exact .own hget ((mem_jobIds hget).1 h).2

/-- What a deletion takes: the target, and what goes with its jobs. -/
theorem gone_iff (h : Left (goes db targetId ids) db db') {t : Table} {r : Row t}
    (hr : (db t).get k = some r) :
    (db'.without .targets (fun t => t.id = targetId) t).get k = none ↔
      goes db targetId ids t r = true ∨ t = .targets ∧ k = targetId := by
  by_cases ht : t = .targets
  · subst ht
    have hkey : r.id = k := (db .targets).keyed k r hr
    rw [Db.without_self (S := schema), Tbl.get_filter, h, hr]
    by_cases hid : k = targetId <;> simp [goes, hkey, hid]
  · rw [Db.without_of_ne (S := schema) ht, h, hr, Option.filter_some]
    cases goes db targetId ids t r <;> simp [ht]

theorem CleanDeletion.apart (h : CleanDeletion db tenantId targetId)
    (hfound : get db tenantId targetId ≠ none) : Apart db tenantId targetId := by
  have hnot : ¬(Orphans db (jobIds db tenantId targetId) ∨ ¬OneTenant db tenantId targetId) := by
    intro hor
    obtain ⟨answer, hanswer⟩ := h.unviolated
    rw [delete_error hfound hor] at hanswer
    cases hanswer
  rw [not_or, not_not] at hnot
  obtain ⟨horphans, honly⟩ := hnot
  obtain ⟨db', hdelete, hleft⟩ := delete_ok hfound horphans honly
  have hown : ∀ t (r : Row t), (db t).get (primaryKey t r) = some r →
      goes db targetId (jobIds db tenantId targetId) t r = true → Own db tenantId targetId t r := by
    intro t r hr hgoes
    exact h.confined _ hdelete t _ r hr ((gone_iff hleft hr).2 (.inl hgoes))
  have htree : ∀ {id}, InTree db targetId id ↔ id ∈ jobIds db tenantId targetId :=
    inTree_iff honly horphans
  refine ⟨honly, ?_, ?_, ?_, ?_⟩
  · intro job hjob parentId hparent hmem
    by_contra hstays
    exact horphans ⟨job, Tbl.mem_rows_of_get hjob, hstays, parentId, hmem, hparent⟩
  · intro r hr hgoes
    obtain ⟨htenant, hdiscovery, hchild⟩ := hown .results r hr (by simpa [goes] using hgoes)
    exact ⟨htenant, htree.1 hdiscovery, htree.1 hchild⟩
  · intro a ha hgoes
    exact (hown .attempts a ha (decide_eq_true hgoes)).1
  · intro e he hgoes
    obtain ⟨htenant, hjob, htarget⟩ := hown .evidence e he (by simpa [goes] using hgoes)
    refine ⟨htenant, htree.1 hjob, ?_⟩
    rcases htarget with htarget | ⟨job, hjob, hin, htarget⟩
    · exact htarget
    · rw [← htarget]
      exact ((mem_jobIds hjob).1 (htree.1 hin)).2

theorem Apart.clean (h : Apart db tenantId targetId)
    (hfound : get db tenantId targetId ≠ none) : CleanDeletion db tenantId targetId := by
  have horphans : ¬Orphans db (jobIds db tenantId targetId) := by
    rintro ⟨j, hrow, hstays, parentId, hmem, hparent⟩
    exact hstays (h.children j (Tbl.mem_rows.1 hrow) parentId hparent hmem)
  obtain ⟨db₁, hdelete, hleft⟩ := delete_ok hfound horphans h.jobs
  have htree : ∀ {id}, InTree db targetId id ↔ id ∈ jobIds db tenantId targetId :=
    inTree_iff h.jobs horphans
  refine ⟨⟨_, hdelete⟩, fun db' => delete_closed, fun db' hdb' t k r hr hgone => ?_⟩
  rw [hdelete, Except.ok.injEq, Prod.mk.injEq] at hdb'
  rw [← hdb'.2, gone_iff hleft hr] at hgone
  have hkey : primaryKey t r = k := (db t).keyed k r hr
  rw [← hkey] at hr
  rcases hgone with hgoes | ⟨rfl, hid⟩
  · cases t with
    | jobs =>
      have hmem := of_decide_eq_true hgoes
      exact ⟨((mem_jobIds hr).1 hmem).1, htree.2 hmem⟩
    | results =>
      obtain ⟨htenant, hdiscovery, hchild⟩ := h.results r hr (by simpa [goes] using hgoes)
      exact ⟨htenant, htree.2 hdiscovery, htree.2 hchild⟩
    | attempts =>
      have hmem := of_decide_eq_true hgoes
      obtain ⟨result, hresult, hid⟩ := List.mem_map.1 hmem
      obtain ⟨hrow, hmatch⟩ := List.mem_filter.1 hresult
      have hget : (db .results).get result.id = some result := Tbl.mem_rows.1 hrow
      obtain ⟨_, hdiscovery, hchild⟩ := h.results result hget (by simpa using hmatch)
      exact ⟨h.attempts r hr hmem, result, hid ▸ hget, htree.2 hdiscovery, htree.2 hchild⟩
    | evidence =>
      obtain ⟨htenant, hjob, htarget⟩ := h.evidence r hr (by simpa [goes] using hgoes)
      exact ⟨htenant, htree.2 hjob, .inl htarget⟩
    | _ => cases hgoes
  · obtain ⟨record, hrecord⟩ := Option.ne_none_iff_exists'.1 hfound
    obtain ⟨hget, htenant⟩ := Option.filter_eq_some_iff.1 hrecord
    rw [hkey, hid] at hr
    have hsame : record = r := Option.some.inj (hget.symm.trans hr)
    rw [← hsame]
    exact ⟨of_decide_eq_true htenant, (db .targets).keyed targetId record hget⟩

/-- The deletion of a target is clean if and only if there is no such target, or the rows that hang
on its jobs stand apart from all others. -/
theorem deletion_clean_iff (db : Db schema) (tenantId : String) (targetId : UUID) :
    CleanDeletion db tenantId targetId ↔
      (get db tenantId targetId ≠ none → Apart db tenantId targetId) := by
  constructor
  · exact fun h hfound => h.apart hfound
  · intro h
    by_cases hfound : get db tenantId targetId = none
    · have hnone : delete db tenantId targetId = .ok (false, db) := by
        unfold DiscoveryTargetRepository.delete
        rw [hfound]
      refine ⟨⟨_, hnone⟩, fun db' hdb' => ?_, fun db' hdb' => ?_⟩ <;>
      · rw [hnone] at hdb'
        cases hdb'
    · exact (h hfound).clean hfound

/-! ## A scope with a child -/

/-- The scope has its job, and the fan-out creates the child of its one address. -/
def fannedOut : Option (Except Exn (DiscoveryJobRecord × DiscoveryDeviceResultRecord) ×
    Store schema Unit) :=
  (ExceptT.run (DiscoveryFanoutService.createChild Samples.tenant Samples.scopeJob
    Samples.scopeTarget "10.0.0.1")).drive (Samples.world 0 50) ()
    (Samples.store (Samples.tables [Samples.scopeJob] []))

/-- The child is there, and the deletion of the scope violates a foreign key. -/
def refusesDeletion (r : Except Exn (DiscoveryJobRecord × DiscoveryDeviceResultRecord) ×
    Store schema Unit) : Bool :=
  match r.1, delete (fun t => r.2.pending () t) Samples.tenant 1 with
  | .ok _, .error .integrity => true
  | _, _ => false

theorem fannedOut_refuses : fannedOut.map refusesDeletion = some true := by
  decide

/-- A scope whose fan-out has created a child cannot be deleted. -/
theorem scope_deletion_violates : ∃ child σ, fannedOut = some (.ok child, σ) ∧
    delete (fun t => σ.pending () t) Samples.tenant 1 = .error .integrity ∧
    ¬CleanDeletion (fun t => σ.pending () t) Samples.tenant 1 := by
  obtain ⟨⟨r, σ⟩, hrun, hrefuses⟩ := Option.map_eq_some_iff.1 fannedOut_refuses
  cases r with
  | error e => cases hrefuses
  | ok child =>
    unfold refusesDeletion at hrefuses
    split at hrefuses
    · rename_i _ _ hdelete
      refine ⟨child, σ, hrun, hdelete, fun h => ?_⟩
      obtain ⟨answer, hanswer⟩ := h.unviolated
      rw [hdelete] at hanswer
      cases hanswer
    · cases hrefuses

end Discovery
end NetOps
