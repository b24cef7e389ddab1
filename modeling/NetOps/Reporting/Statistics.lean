import Mathlib.Data.Rat.Defs
import NetOps.Comparison.Engine

/-!
# Reporting.Statistics

The statistics of a report (`reporting/statistics.py`, over `reporting/context.py`) and the KPIs of
the dashboard (`dashboard/service.py`). Percentages are before `round(…, 2)`.
-/

namespace NetOps
namespace Reporting

open Comparison (ComparisonMetrics DifferenceType InventoryComparisonResult)

structure DiscoveryRunSnapshot where
  totalTargets : Nat
  successfulTargets : Nat

/-- `ReportContext`. A comparison always has metrics, and of an evaluation only the score is
read. -/
structure ReportContext where
  netboxInventory : Option Inventory.InventorySnapshot := none
  liveSnapshot : Option Snapshot.InventorySnapshot := none
  comparisonResult : Option InventoryComparisonResult := none
  complianceScore : Option Int := none
  discoveryRun : Option DiscoveryRunSnapshot := none

structure ReportStatistics where
  totalDevices : Nat
  reachableDevices : Nat
  unreachableDevices : Nat
  discoverySuccessPct : ℚ
  netboxAccuracyPct : ℚ
  complianceScore : Int
  missingDevices : Nat
  extraDevices : Nat
  changedDevices : Nat
  interfaceChanges : Nat
  vlanChanges : Nat
  configurationChanges : Nat

namespace StatisticsCalculator

variable (context : ReportContext)

/-- `_total_devices`. -/
def totalDevices : Nat :=
  match context.netboxInventory, context.liveSnapshot with
  | some netbox, _ => netbox.devices.length
  | none, some live => live.devices.length
  | none, none => 0

/-- `_reachable_devices`. -/
def reachableDevices : Nat :=
  match context.liveSnapshot, context.discoveryRun with
  | some live, _ => live.devices.length
  | none, some run => run.successfulTargets
  | none, none => 0

/-- `_discovery_success_pct`. -/
def discoverySuccessPct : ℚ :=
  match context.discoveryRun with
  | none => if context.liveSnapshot.isSome then 100 else 0
  | some run =>
    if run.totalTargets = 0 then (if context.liveSnapshot.isSome then 100 else 0)
    else (run.successfulTargets : ℚ) / run.totalTargets * 100

/-- `_netbox_accuracy_pct`. -/
def netboxAccuracyPct : ℚ :=
  let netboxCount : Nat := match context.netboxInventory with
    | some netbox => netbox.devices.length
    | none => 0
  if netboxCount = 0 then 100
  else match context.comparisonResult with
    | none => (reachableDevices context : ℚ) / netboxCount * 100
    | some comparison =>
      let accurate : Int :=
        netboxCount - comparison.metrics.count .missing - comparison.metrics.count .modified
      (max accurate 0 : Int) / netboxCount * 100

/-- `_compliance_score`. -/
def complianceScore : Int :=
  match context.complianceScore, context.comparisonResult with
  | some score, _ => score
  | none, some comparison => if comparison.differences = [] then 100 else 0
  | none, none => 0

/-- `_device_drift_counts`. -/
def deviceDriftCounts : Nat × Nat × Nat :=
  match context.comparisonResult with
  | none => (0, 0, 0)
  | some comparison =>
    (comparison.metrics.count .missing, comparison.metrics.count .unexpected,
      comparison.metrics.count .modified)

/-- The modified differences of subjects of some types. -/
def changes (subjects : List String) : Nat :=
  match context.comparisonResult with
  | none => 0
  | some comparison => comparison.differences.countP fun d =>
      d.differenceType = .modified && subjects.contains (Text.lower d.subjectType)

def calculate : ReportStatistics where
  totalDevices := totalDevices context
  reachableDevices := reachableDevices context
  unreachableDevices := totalDevices context - reachableDevices context
  discoverySuccessPct := discoverySuccessPct context
  netboxAccuracyPct := netboxAccuracyPct context
  complianceScore := complianceScore context
  missingDevices := (deviceDriftCounts context).1
  extraDevices := (deviceDriftCounts context).2.1
  changedDevices := (deviceDriftCounts context).2.2
  interfaceChanges := changes context ["interface"]
  vlanChanges := changes context ["vlan"]
  configurationChanges := changes context ["device", "configuration", "config"]

end StatisticsCalculator

/-! ## The dashboard -/

/-- The metrics of a stored comparison: `asdict(result.metrics)`. -/
def asdict (metrics : ComparisonMetrics) : Dict String Int :=
  Dict.ofList [("total_differences", metrics.totalDifferences),
    ("total_findings", metrics.totalFindings),
    ("missing", metrics.count .missing), ("unexpected", metrics.count .unexpected),
    ("modified", metrics.count .modified), ("conflict", metrics.count .conflict),
    ("duplicate", metrics.count .duplicate), ("unsupported", metrics.count .unsupported),
    ("unknown", metrics.count .unknown)]

structure DashboardKpiSummary where
  totalDevices : Option Nat := none
  reachableDevices : Option Nat := none
  netboxAccuracyPct : Option ℚ := none
  missingDevices : Option Int := none
  extraDevices : Option Int := none
  modifiedDevices : Option Int := none
  findingsTotal : Option Int := none

namespace DashboardService

/-- `_netbox_accuracy_from_comparison`. -/
def netboxAccuracyFromComparison (metrics : Dict String Int) (totalDevices : Option Nat) :
    Option ℚ :=
  match totalDevices, metrics.get? "missing", metrics.get? "modified" with
  | some total, some missing, some modified =>
    if total = 0 then none
    else
      let accurate : Int := total - missing - modified
      some ((max accurate 0 : Int) / total * 100)
  | _, _, _ => none

/-- `current_kpis`, of the live snapshots and the metrics of the latest comparison that the
repository has. -/
def currentKpis (liveSnapshots : List Snapshot.InventorySnapshot)
    (comparison : Option (Dict String Int)) : DashboardKpiSummary :=
  let totalDevices := liveSnapshots.head?.map fun latest => latest.devices.length
  match comparison with
  | none => { totalDevices := totalDevices, reachableDevices := totalDevices }
  | some metrics =>
    { totalDevices := totalDevices
      reachableDevices := totalDevices
      netboxAccuracyPct := netboxAccuracyFromComparison metrics totalDevices
      missingDevices := metrics.get? "missing"
      extraDevices := metrics.get? "unexpected"
      modifiedDevices := metrics.get? "modified"
      findingsTotal := metrics.get? "total_findings" }

end DashboardService
end Reporting
end NetOps
