import NetOps.Discovery.Reconciled

/-!
# Discovery.Accounting

The books of a fan-out: one result and one child of the scope job for every expected address
(`Accounted`), and what a reconciliation needs to find for that (`AsExpected`). Reconciliation
looks results up by their address, and a result has the address its device reported.
-/

namespace NetOps
namespace Discovery

open Conc

/-- The six totals of a run, and the two in its metadata. -/
def DiscoveryRunRecord.outcomes (run : DiscoveryRunRecord) : Nat :=
  run.totalDiscovered + run.totalUnreachable + run.totalReachableNoManagement +
    run.totalAuthenticationFailed + run.totalPartialDiscovery + run.totalUnverified +
    run.metadataJson.totalCancelled.getD 0 + run.metadataJson.totalInterrupted.getD 0

namespace DiscoveryFanoutService

open DiscoveryJobRepository

/-- `k` is a child of the job. -/
def IsChild (job : DiscoveryJobRecord) (T : Tbl (Row .jobs) (primaryKey .jobs)) (k : UUID) : Prop :=
  ∃ child, T.get k = some child ∧ child.parentJobId = some job.id

/-- The children of the job are those of its results, one each. -/
structure Paired (job : DiscoveryJobRecord) (db : Db schema) : Prop where
  nodup : ((rootResults job (db .results)).map (·.childJobId)).Nodup
  mem : ∀ k, IsChild job (db .jobs) k ↔ k ∈ (rootResults job (db .results)).map (·.childJobId)

/-- One result and one child for every expected address, none for another, and a run whose totals
add up. -/
structure Accounted (job : DiscoveryJobRecord) (expected : List String) (db : Db schema) :
    Prop where
  once : ((rootResults job (db .results)).map (·.address)).Nodup
  expected : ∀ a, a ∈ (rootResults job (db .results)).map (·.address) ↔ a ∈ expected
  paired : Paired job db
  sum : ∃ run, (db .runs).get job.runId = some run ∧ run.totalScanned = run.outcomes

/-- What reconciliation needs to find: no address twice, only expected ones, and one child for
each result. -/
structure AsExpected (job : DiscoveryJobRecord) (expected : List String) (db : Db schema) :
    Prop where
  once : ((rootResults job (db .results)).map (·.address)).Nodup
  subset : ∀ a ∈ (rootResults job (db .results)).map (·.address), a ∈ expected
  paired : Paired job db
  nodup : expected.Nodup

variable {job : DiscoveryJobRecord}

theorem isChild_iff {T : Tbl (Row .jobs) (primaryKey .jobs)} {k : UUID} :
    IsChild job T k ↔ ∃ x : DiscoveryJobRecord,
      (treeFocus job).shown (t := .jobs) T k = some x ∧ x.parentJobId = some job.id := by
  unfold IsChild Focus.shown
  constructor
  · rintro ⟨child, hget, hparent⟩
    refine ⟨child.steady, ?_, hparent⟩
    rw [hget, Option.bind_some]
    exact focus_job.2 ⟨rfl, .inr hparent⟩
  · rintro ⟨x, hx, hparent⟩
    obtain ⟨child, hget, hof⟩ := Option.bind_eq_some_iff.1 hx
    refine ⟨child, hget, ?_⟩
    rw [(focus_job.1 hof).1] at hparent
    exact hparent

/-- Every classified result is counted in one total. -/
theorem summary_outcomes (n : Nat) (results : List DiscoveryDeviceResultRecord)
    (metadata : RunMetadata) (now : DateTime) (run : DiscoveryRunRecord) :
    (summary n results metadata now run).outcomes =
      results.countP fun r => r.resultState.isSome := by
  have hsum : (summary n results metadata now run).outcomes =
      countState results .discovered + countState results .unreachable +
        countState results .reachableNoManagement + countState results .authenticationFailed +
        countState results .partialDiscovery + countState results .unverified +
        countState results .cancelled + countState results .interrupted := rfl
  rw [hsum]
  unfold countState
  induction results with
  | nil => rfl
  | cons r results ih =>
    simp only [List.countP_cons]
    have htail := ih rfl
    rcases hr : r.resultState with _ | (_ | _ | _ | _ | _ | _ | _ | _) <;> simp <;> omega

end DiscoveryFanoutService
end Discovery
end NetOps
