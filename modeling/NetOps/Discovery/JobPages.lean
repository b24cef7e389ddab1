import Mathlib.Data.Rat.Defs
import Mathlib.Algebra.Order.Ring.Unbundled.Rat
import Mathlib.Data.String.Basic
import NetOps.Discovery.Records
import NetOps.Paging
import NetOps.Text

/-!
# Discovery.JobPages

The listing of discovery jobs by pages (`DiscoveryJobRepository.list_page` and `list_jobs` of
`api/v1/discovery.py`). The database answers the query of every page anew: in some order that its
`ORDER BY` allows, which for the duration depends on the time of the query.

* `joined_eq`: a job has one row in the outer join.
* `pages_exact_iff`: pages 1 to `total_pages` list every matching job once, whatever the database
  answers, exactly when every row is settled.
* `timeless_iff`: for the other sorts, when no rows that are equal in the order are on two pages.
-/

namespace NetOps
namespace Discovery
namespace JobPages

open Paging
open Text (lower orElse strip)

/-! ## Tables -/

/-- The tables of jobs and targets, by their primary keys. -/
structure Tables where
  jobs : List DiscoveryJobRecord
  targets : List DiscoveryTargetRecord
  jobs_nodup : (jobs.map DiscoveryJobRecord.id).Nodup
  targets_nodup : (targets.map DiscoveryTargetRecord.id).Nodup

abbrev Row := DiscoveryJobRecord × Option DiscoveryTargetRecord

namespace Tables

/-- The outer join of the jobs and their targets. -/
def joined (t : Tables) : List Row :=
  t.jobs.flatMap fun job =>
    match t.targets.filter fun target => target.id == job.targetId with
    | [] => [(job, none)]
    | targets => targets.map fun target => (job, some target)

def target? (t : Tables) (job : DiscoveryJobRecord) : Option DiscoveryTargetRecord :=
  t.targets.find? fun target => target.id == job.targetId

end Tables

/-- What the database does with its columns. `collation` is the order of texts, `nullsLast` says
where it puts nulls when it is not told, and `julianDifference` is SQLite's difference of two
`julianday`s. -/
structure Database where
  isSqlite : Bool
  castUuid : UUID → String
  ilike : String → String → Bool
  collation : SortOrder String
  nullsLast : Bool → Bool
  julianDifference : DateTime → DateTime → ℚ

/-! ## Filters -/

/-- The parameters of a listing; the page size is at least 1 (`ge=1`). -/
structure JobListQuery where
  tenantId : String
  q : Option String := none
  status : Option String := none
  targetId : Option UUID := none
  dateFrom : Option DateTime := none
  dateTo : Option DateTime := none
  sort : Option String := none
  order : Option String := none
  pageSize : Nat := 25
  pageSize_pos : 0 < pageSize := by decide

/-- The state that the status filter asks for, if any. -/
def statusFilter (status : Option String) : Option String :=
  let state := lower (strip (status.getD ""))
  if state = "" ∨ state = "all" then none else some state

/-- `DiscoveryFailureCode.value`. -/
def failureCodeValue : DiscoveryFailureCode → String
  | .targetNotFound => "TARGET_NOT_FOUND"
  | .targetDisabled => "TARGET_DISABLED"
  | .unsupportedVendor => "UNSUPPORTED_VENDOR"
  | .credentialResolutionFailed => "CREDENTIAL_RESOLUTION_FAILED"
  | .authenticationFailed => "AUTHENTICATION_FAILED"
  | .unsupportedCredential => "UNSUPPORTED_CREDENTIAL"
  | .connectionFailed => "CONNECTION_FAILED"
  | .connectionTimeout => "CONNECTION_TIMEOUT"
  | .hostUnreachable => "HOST_UNREACHABLE"
  | .connectionRefused => "CONNECTION_REFUSED"
  | .timeout => "TIMEOUT"
  | .discoveryTimeout => "DISCOVERY_TIMEOUT"
  | .discoveryFailed => "DISCOVERY_FAILED"
  | .transportUnavailable => "TRANSPORT_UNAVAILABLE"
  | .transportDisabled => "TRANSPORT_DISABLED"
  | .unsupportedPlatform => "UNSUPPORTED_PLATFORM"
  | .ambiguousPlatform => "AMBIGUOUS_PLATFORM"
  | .unsupportedCapability => "UNSUPPORTED_CAPABILITY"
  | .collectorFailed => "COLLECTOR_FAILED"
  | .parserFailed => "PARSER_FAILED"
  | .normalizationFailed => "NORMALIZATION_FAILED"
  | .evidencePersistenceFailed => "EVIDENCE_PERSISTENCE_FAILED"
  | .snapshotPersistenceFailed => "SNAPSHOT_PERSISTENCE_FAILED"
  | .cancelled => "CANCELLED"

/-- The columns of `q_conditions`; a null matches nothing. -/
def searchedColumns (db : Database) (row : Row) : List (Option String) :=
  [some (db.castUuid row.1.id), some (db.castUuid row.1.runId), some (db.castUuid row.1.targetId),
    row.1.executionOwner.map db.castUuid, row.1.failureCode.map failureCodeValue,
    row.1.failureMessage, some row.1.state.value, row.2.map DiscoveryTargetRecord.identifier,
    row.2.map DiscoveryTargetRecord.address]

def searched (db : Database) (q : Option String) (row : Row) : Bool :=
  let cleanQ := strip (q.getD "")
  cleanQ == "" ||
    (searchedColumns db row).any fun column =>
      column.any fun text => db.ilike text ("%" ++ cleanQ ++ "%")

def accepts (db : Database) (query : JobListQuery) (row : Row) : Bool :=
  row.1.tenantId == query.tenantId &&
  (statusFilter query.status).all (fun state => row.1.state.value == state) &&
  query.targetId.all (fun targetId => row.1.targetId == targetId) &&
  query.dateFrom.all (fun date => decide (row.1.requestedAt ≥ date)) &&
  query.dateTo.all (fun date => decide (row.1.requestedAt ≤ date)) &&
  searched db query.q row

/-- The rows of the count, and of the select without `OFFSET` and `LIMIT`. -/
def rows (db : Database) (t : Tables) (query : JobListQuery) : List Row :=
  t.joined.filter (accepts db query)

/-! ## Sorts -/

inductive SortField where
  | requestedAt
  | startedAt
  | completedAt
  | duration
  | target
  | state
  deriving DecidableEq

structure OrderClause where
  field : SortField
  ascending : Bool
  deriving DecidableEq

/-- `direction == "asc"`, where `direction` is `normalized_order or default`. -/
def ascends (order : Option String) (default : String) : Bool :=
  orElse (lower (strip (order.getD ""))) default == "asc"

/-- The order clause of `list_page`. -/
def orderClause (sort order : Option String) : Except String OrderClause :=
  let normalizedSort := lower (strip (orElse (sort.getD "") "newest"))
  if normalizedSort ∈ ["newest", "requested_at", "created_at"] then
    .ok ⟨.requestedAt, ascends order "desc"⟩
  else if normalizedSort = "oldest" then .ok ⟨.requestedAt, true⟩
  else if normalizedSort ∈ ["started_at", "recently_started"] then
    .ok ⟨.startedAt, ascends order "desc"⟩
  else if normalizedSort ∈ ["completed_at", "finished_at", "recently_completed"] then
    .ok ⟨.completedAt, ascends order "desc"⟩
  else if normalizedSort ∈ ["duration", "longest_running"] then
    .ok ⟨.duration, ascends order "desc"⟩
  else if normalizedSort ∈ ["target", "target_identifier", "target_name"] then
    .ok ⟨.target, ascends order "asc"⟩
  else if normalizedSort ∈ ["status", "state"] then .ok ⟨.state, ascends order "asc"⟩
  else .error ("Unsupported sort field: " ++ sort.getD "")

/-- SQLite's `datetime('now')` has whole seconds. -/
def wholeSeconds (now : DateTime) : DateTime := now / 1000000 * 1000000

/-- `duration_expr` at the time of the query. -/
def durationExpr (db : Database) (now : DateTime) (job : DiscoveryJobRecord) : Option ℚ :=
  job.startedAt.map fun startedAt =>
    if db.isSqlite then db.julianDifference (job.completedAt.getD (wholeSeconds now)) startedAt
    else ((job.completedAt.getD now - startedAt : Int) : ℚ)

/-- The order of the rows that the clause asks for at the time of the query. -/
def OrderClause.sortOrder (clause : OrderClause) (db : Database) (now : DateTime) :
    SortOrder Row :=
  match clause.field with
  | .requestedAt =>
    ((SortOrder.ofLinearOrder Int).directed clause.ascending).comap fun row => row.1.requestedAt
  | .startedAt =>
    (((SortOrder.ofLinearOrder Int).directed clause.ascending).withNulls true).comap
      fun row => row.1.startedAt
  | .completedAt =>
    (((SortOrder.ofLinearOrder Int).directed clause.ascending).withNulls true).comap
      fun row => row.1.completedAt
  | .duration =>
    (((SortOrder.ofLinearOrder ℚ).directed clause.ascending).withNulls true).comap
      fun row => durationExpr db now row.1
  | .target =>
    ((db.collation.directed clause.ascending).withNulls (db.nullsLast clause.ascending)).comap
      fun row => row.2.map DiscoveryTargetRecord.identifier
  | .state => (db.collation.directed clause.ascending).comap fun row => row.1.state.value

/-! ## Pages -/

section

variable (db : Database) (t : Tables) (query : JobListQuery)

/-- `list_page`, when the select without `OFFSET` and `LIMIT` gives `answer`. -/
def listPage (page : Nat) (answer : List Row) :
    Except String (List DiscoveryJobRecord × Nat) := do
  let _ ← orderClause query.sort query.order
  let total := (rows db t query).length
  return (((answer.drop ((page - 1) * query.pageSize)).take query.pageSize).map Prod.fst, total)

structure DiscoveryJobListResponse where
  items : List DiscoveryJobRecord
  page : Nat
  pageSize : Nat
  total : Nat
  totalPages : Nat
  hasNext : Bool

def totalPages (total pageSize : Nat) : Nat :=
  if total > 0 then (total + pageSize - 1) / pageSize else 1

/-- `list_jobs`; a `ValueError` is answered with status 422. -/
def listJobs (page : Nat) (answer : List Row) : Except String DiscoveryJobListResponse := do
  let (records, total) ← listPage db t query page answer
  return {
    items := records
    page
    pageSize := query.pageSize
    total
    totalPages := totalPages total query.pageSize
    hasNext := page * query.pageSize < total }

/-- Pages 1 to `total_pages`, of which the first page tells. -/
def allPages (answers : Nat → List Row) : Except String (List DiscoveryJobRecord) := do
  let first ← listJobs db t query 1 (answers 1)
  let responses ← (List.range first.totalPages).mapM fun k =>
    listJobs db t query (k + 1) (answers (k + 1))
  return responses.flatMap (·.items)

/-- A job of the table whose row meets the filters. -/
def Matching (job : DiscoveryJobRecord) : Prop :=
  job ∈ t.jobs ∧ accepts db query (job, t.target? job) = true

/-- Every matching job is listed exactly once, and no other. -/
structure EveryJobOnce (jobs : List DiscoveryJobRecord) : Prop where
  nodup : jobs.Nodup
  mem_iff : ∀ job, job ∈ jobs ↔ Matching db t query job

end

/-! ## The rows of the jobs -/

section

variable {db : Database} {t : Tables} {query : JobListQuery}

/-- At most one target has an id. -/
theorem filter_targets {targets : List DiscoveryTargetRecord} (id : UUID)
    (hnodup : (targets.map DiscoveryTargetRecord.id).Nodup) :
    targets.filter (fun target => target.id == id) =
      (targets.find? fun target => target.id == id).toList := by
  induction targets with
  | nil => rfl
  | cons target targets ih =>
    rw [List.map_cons, List.nodup_cons] at hnodup
    cases heq : target.id == id with
    | false => simpa [heq] using ih hnodup.2
    | true =>
      have hnone : targets.filter (fun other => other.id == id) = [] := by
        rw [List.filter_eq_nil_iff]
        intro other hother hid
        have hsame : other.id = target.id := (eq_of_beq hid).trans (eq_of_beq heq).symm
        exact hnodup.1 (hsame ▸ List.mem_map_of_mem hother)
      simp [heq, hnone]

/-- A job has one row. -/
theorem joined_eq (t : Tables) : t.joined = t.jobs.map fun job => (job, t.target? job) := by
  unfold Tables.joined
  simp only [filter_targets _ t.targets_nodup]
  rw [List.map_eq_flatMap]
  congr 1
  funext job
  change _ = [(job, t.targets.find? fun target => target.id == job.targetId)]
  cases t.targets.find? fun target => target.id == job.targetId <;> rfl

theorem mem_rows {row : Row} :
    row ∈ rows db t query ↔ Matching db t query row.1 ∧ row.2 = t.target? row.1 := by
  rw [rows, joined_eq, List.mem_filter, List.mem_map]
  constructor
  · rintro ⟨⟨job, hjob, rfl⟩, haccepts⟩
    exact ⟨⟨hjob, haccepts⟩, rfl⟩
  · rintro ⟨⟨hjob, haccepts⟩, htarget⟩
    rw [← htarget] at haccepts
    exact ⟨⟨row.1, hjob, Prod.ext rfl htarget.symm⟩, haccepts⟩

theorem jobs_of_rows_nodup : ((rows db t query).map Prod.fst).Nodup := by
  have hjobs : (t.joined.map Prod.fst).Nodup := by
    rw [joined_eq, List.map_map]
    change (t.jobs.map id).Nodup
    rw [List.map_id]
    exact t.jobs_nodup.of_map _
  exact hjobs.sublist (List.filter_sublist.map _)

theorem rows_nodup : (rows db t query).Nodup := jobs_of_rows_nodup.of_map _

/-- The jobs of some rows are every matching job exactly once if the rows are all rows. -/
theorem everyJobOnce_iff {listed : List Row} (hsub : ∀ row ∈ listed, row ∈ rows db t query) :
    EveryJobOnce db t query (listed.map Prod.fst) ↔ listed.Perm (rows db t query) := by
  constructor
  · intro h
    refine (List.perm_ext_iff_of_nodup (h.nodup.of_map _) rows_nodup).2 fun row => ?_
    constructor
    · exact hsub row
    · intro hrow
      have hmatching := mem_rows.1 hrow
      obtain ⟨row', hlisted, hjob⟩ := List.mem_map.1 ((h.mem_iff row.1).2 hmatching.1)
      have hrow' := (mem_rows.1 (hsub row' hlisted)).2
      have hsame : row' = row := by
        rw [hjob, ← hmatching.2] at hrow'
        exact Prod.ext hjob hrow'
      exact hsame ▸ hlisted
  · intro h
    refine ⟨(h.map _).nodup_iff.2 jobs_of_rows_nodup, fun job => ?_⟩
    rw [(h.map _).mem_iff, List.mem_map]
    constructor
    · rintro ⟨row, hrow, rfl⟩
      exact (mem_rows.1 hrow).1
    · intro hjob
      exact ⟨(job, t.target? job), mem_rows.2 ⟨hjob, rfl⟩, rfl⟩

end

/-! ## Exactness -/

section

variable {db : Database} {t : Tables} {query : JobListQuery} {clause : OrderClause}

theorem le_totalPages (total : Nat) {pageSize : Nat} (h : 0 < pageSize) :
    total ≤ totalPages total pageSize * pageSize := by
  unfold totalPages
  split
  · have hlt := Nat.lt_div_mul_add h (a := total + pageSize - 1)
    omega
  · omega

variable (db t query) in
/-- The response to an accepted query. -/
def response (page : Nat) (answer : List Row) : DiscoveryJobListResponse where
  items := ((answer.drop ((page - 1) * query.pageSize)).take query.pageSize).map Prod.fst
  page := page
  pageSize := query.pageSize
  total := (rows db t query).length
  totalPages := totalPages (rows db t query).length query.pageSize
  hasNext := page * query.pageSize < (rows db t query).length

theorem listJobs_eq (hclause : orderClause query.sort query.order = .ok clause) (page : Nat)
    (answer : List Row) :
    listJobs db t query page answer = .ok (response db t query page answer) := by
  unfold listJobs listPage
  rw [hclause]
  rfl

/-- The pages that are read are the pages of the answers. -/
theorem allPages_eq (hclause : orderClause query.sort query.order = .ok clause)
    (answers : Nat → List Row) :
    allPages db t query answers = .ok
      ((listing query.pageSize (totalPages (rows db t query).length query.pageSize)
        fun k => answers (k + 1)).map Prod.fst) := by
  unfold allPages
  simp only [listJobs_eq hclause]
  have hresponses : ∀ ks : List Nat, (ks.mapM fun k =>
      (Except.ok (response db t query (k + 1) (answers (k + 1))) :
        Except String DiscoveryJobListResponse)) =
      .ok (ks.map fun k => response db t query (k + 1) (answers (k + 1))) :=
    fun ks => List.mapM_pure
  change (((List.range (totalPages (rows db t query).length query.pageSize)).mapM fun k =>
    (Except.ok (response db t query (k + 1) (answers (k + 1))) :
      Except String DiscoveryJobListResponse)) >>= fun responses => _) = _
  rw [hresponses]
  change Except.ok _ = Except.ok _
  rw [listing, List.map_flatMap, List.flatMap_map]
  rfl

/-- The database's answers to the queries of the pages, which are asked at these times. -/
def Answers (db : Database) (t : Tables) (query : JobListQuery) (clause : OrderClause)
    (times : Nat → DateTime) (answers : Nat → List Row) : Prop :=
  ∀ page, 1 ≤ page → page ≤ totalPages (rows db t query).length query.pageSize →
    (clause.sortOrder db (times page)).Answer (rows db t query) (answers page)

/-- Pages 1 to `total_pages` list every matching job once, whatever the database answers. -/
def PagesExact (db : Database) (t : Tables) (query : JobListQuery) (clause : OrderClause)
    (times : Nat → DateTime) : Prop :=
  ∀ answers, Answers db t query clause times answers →
    ∃ jobs, allPages db t query answers = .ok jobs ∧ EveryJobOnce db t query jobs

/-- Row by row: it stands on one page, whatever the database answers, and on no other. -/
def RowsSettled (db : Database) (t : Tables) (query : JobListQuery) (clause : OrderClause)
    (times : Nat → DateTime) : Prop :=
  ∀ row ∈ rows db t query, Paging.Settled (fun k => clause.sortOrder db (times (k + 1)))
    (rows db t query) query.pageSize (totalPages (rows db t query).length query.pageSize) row

/-- The pages list every matching job once if they hold every row once. -/
theorem everyJobOnce_pages_iff {times : Nat → DateTime} {answers : Nat → List Row}
    (hclause : orderClause query.sort query.order = .ok clause)
    (hanswers : Answers db t query clause times answers) :
    (∃ jobs, allPages db t query answers = .ok jobs ∧ EveryJobOnce db t query jobs) ↔
      (listing query.pageSize (totalPages (rows db t query).length query.pageSize)
        fun k => answers (k + 1)).Perm (rows db t query) := by
  rw [allPages_eq hclause]
  simp only [Except.ok.injEq, exists_eq_left']
  refine everyJobOnce_iff fun row hrow => ?_
  obtain ⟨k, hk, hpage⟩ := mem_listing.1 hrow
  have hanswer := hanswers (k + 1) (Nat.succ_pos k) hk
  exact hanswer.perm.mem_iff.1 (mem_of_mem_page hpage)

/-- The pages partition the matching jobs, whatever the database answers, exactly when every row
is settled. -/
theorem pages_exact_iff (db : Database) (t : Tables) (query : JobListQuery) (clause : OrderClause)
    (times : Nat → DateTime) (hclause : orderClause query.sort query.order = .ok clause) :
    PagesExact db t query clause times ↔ RowsSettled db t query clause times := by
  have hiff : Exact (fun k => clause.sortOrder db (times (k + 1))) (rows db t query)
      query.pageSize (totalPages (rows db t query).length query.pageSize) ↔
        RowsSettled db t query clause times := exact_iff rows_nodup
  rw [← hiff]
  constructor
  · intro h answers hanswers
    have hpages : Answers db t query clause times fun page => answers (page - 1) := by
      intro page hpos hle
      have hanswer := hanswers (page - 1) (by omega)
      simp only [Nat.sub_add_cancel hpos] at hanswer
      exact hanswer
    exact (everyJobOnce_pages_iff hclause hpages).1 (h _ hpages)
  · intro h answers hanswers
    refine (everyJobOnce_pages_iff hclause hanswers).2 (h _ fun k hk => ?_)
    exact hanswers (k + 1) (Nat.succ_pos k) hk

/-- A clause that does not look at the clock. -/
theorem sortOrder_timeless (hfield : clause.field ≠ .duration) (now now' : DateTime) :
    clause.sortOrder db now = clause.sortOrder db now' := by
  unfold OrderClause.sortOrder
  cases hf : clause.field with
  | duration => exact absurd hf hfield
  | requestedAt => rfl
  | startedAt => rfl
  | completedAt => rfl
  | target => rfl
  | state => rfl

/-- Without the clock: rows that are equal in the order stand on one page. -/
theorem timeless_iff {times : Nat → DateTime} (hfield : clause.field ≠ .duration) :
    RowsSettled db t query clause times ↔
      ∀ row ∈ rows db t query,
        (clause.sortOrder db 0).before (rows db t query) row / query.pageSize =
          ((clause.sortOrder db 0).upto (rows db t query) row - 1) / query.pageSize := by
  have hconst : (fun k => clause.sortOrder db (times (k + 1))) = fun _ => clause.sortOrder db 0 :=
    funext fun k => sortOrder_timeless hfield _ _
  rw [RowsSettled, hconst]
  refine forall₂_congr fun row hrow => settled_iff_of_const ?_ hrow
  exact le_totalPages _ query.pageSize_pos

end

/-- PostgreSQL, as far as listings without a search need it. -/
def postgres : Database where
  isSqlite := false
  castUuid id := toString id
  ilike _ _ := false
  collation := SortOrder.ofLinearOrder String
  nullsLast ascending := ascending
  julianDifference a b := ((a - b : Int) : ℚ) / 86400000000

def queuedJob (id : UUID) (requestedAt : DateTime) : DiscoveryJobRecord where
  id := id
  tenantId := "tenant-1"
  targetId := 0
  runId := 0
  requestedAt := requestedAt

/-- Two queued jobs. -/
def twoJobs : Tables where
  jobs := [queuedJob 1 0, queuedJob 2 60000000]
  targets := []
  jobs_nodup := by decide
  targets_nodup := .nil

/-- One job a page. -/
def oneAPage (sort : String) : JobListQuery where
  tenantId := "tenant-1"
  sort := some sort
  pageSize := 1

def twoRows : List Row := [(queuedJob 1 0, none), (queuedJob 2 60000000, none)]

/-- By the time of the request the jobs are not equal, and each is listed once. -/
theorem different_jobs_listed :
    PagesExact postgres twoJobs (oneAPage "newest") ⟨.requestedAt, false⟩ fun _ => 0 := by
  refine (pages_exact_iff postgres twoJobs (oneAPage "newest") ⟨.requestedAt, false⟩ (fun _ => 0)
    rfl).2 ((timeless_iff (by decide)).2 ?_)
  have hrows : rows postgres twoJobs (oneAPage "newest") = twoRows := rfl
  rw [hrows]
  intro row hrow
  simp only [twoRows, List.mem_cons, List.not_mem_nil, or_false] at hrow
  rcases hrow with rfl | rfl <;> decide

/-- By state they are: the database answers the query of the second page the other way round. -/
def stateAnswers (page : Nat) : List Row := if page = 1 then twoRows else twoRows.reverse

theorem equal_jobs_repeat :
    ¬ PagesExact postgres twoJobs (oneAPage "state") ⟨.state, true⟩ fun _ => 0 := by
  intro h
  have hanswers : Answers postgres twoJobs (oneAPage "state") ⟨.state, true⟩ (fun _ => 0)
      stateAnswers := by
    intro page _ _
    have hrows : rows postgres twoJobs (oneAPage "state") = twoRows := rfl
    rw [hrows]
    constructor
    · unfold stateAnswers
      split
      · exact .refl _
      · exact List.reverse_perm _
    · have hqueued : ∀ row ∈ stateAnswers page, row.1.state = .queued := by
        intro row hrow
        unfold stateAnswers at hrow
        split at hrow <;> simp [twoRows] at hrow <;> rcases hrow with rfl | rfl <;> rfl
      refine List.pairwise_of_forall_mem_list fun a ha b hb => ?_
      change postgres.collation.le a.1.state.value b.1.state.value = true
      rw [hqueued a ha, hqueued b hb]
      exact SortOrder.refl _ _
  obtain ⟨jobs, hjobs, honce⟩ := h stateAnswers hanswers
  have hlisted : allPages postgres twoJobs (oneAPage "state") stateAnswers =
      .ok [queuedJob 1 0, queuedJob 1 0] := rfl
  rw [hlisted] at hjobs
  cases hjobs
  have hnodup := honce.nodup
  simp at hnodup

end JobPages
end Discovery
end NetOps
