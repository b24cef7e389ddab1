import NetOps.Comparison.Differences
import NetOps.Compliance.Models
import NetOps.Reporting.Renderer

/-!
# Reporting.Sections

The sections of a report (`reporting/sections`, `reporting/summary.py`) and `ReportBuilder`
(`reporting/builder.py`), over what they read of the cached history. Ids and times are the texts
that `str` and `isoformat` make of them; the statistics are given.

`build_tabular`: every list of every built section is a table.
-/

namespace NetOps
namespace Reporting

open Comparison (DifferenceType)
open Compliance (SeverityLevel)

/-! ## The cached history -/

structure EvidenceItem where
  id : String
  source : String
  description : String
  reference : Option String

structure FindingItem where
  id : String
  ruleId : String
  title : String
  level : SeverityLevel
  score : Int
  description : Option String
  evidence : List EvidenceItem

structure DifferenceItem where
  differenceType : DifferenceType
  subjectType : String
  subjectId : String
  fieldName : Option String
  expected : Value
  observed : Value
  description : Option String

def DifferenceItem.key (d : DifferenceItem) : String :=
  d.differenceType.value ++ ":" ++ d.subjectType ++ ":" ++ d.subjectId ++ ":" ++ d.fieldName.getD ""

structure ComparisonItem where
  findings : List FindingItem
  differences : List DifferenceItem

structure MetricsItem where
  totalRules : Int
  evaluatedRules : Int
  compliant : Int
  nonCompliant : Int
  waived : Int
  notApplicable : Int
  errors : Int
  riskScore : Int
  complianceScore : Int

structure RuleResultItem where
  ruleKey : String
  status : String
  passed : Bool
  riskScore : Int
  severity : SeverityLevel
  subjectType : String
  subjectId : String

structure DecisionItem where
  status : String
  riskScore : Int
  metrics : Option MetricsItem
  ruleResults : List RuleResultItem
  evidence : List EvidenceItem

structure NetboxDeviceItem where
  name : String
  serial : Option String
  platform : Option String
  deviceType : String
  manufacturer : String

structure LiveDeviceItem where
  deviceId : String
  name : String
  serialNumber : Option String
  platform : Option String
  model : Option String
  manufacturer : Option String
  managementIp : Option String

structure RunItem where
  runId : String
  totalTargets : Int
  successfulTargets : Int
  failedTargets : Int
  skippedTargets : Int
  startedAt : String
  finishedAt : Option String

structure HistoryItem where
  runId : String
  capturedAt : String
  totalDevices : Int
  missingDevices : Int
  extraDevices : Int
  changedDevices : Int
  complianceScore : Option Int
  criticalFindings : Int
  majorFindings : Int
  minorFindings : Int

/-- What the sections read of a `ReportContext`. -/
structure History where
  netboxInventory : Option (List NetboxDeviceItem) := none
  liveSnapshot : Option (List LiveDeviceItem) := none
  comparisonResult : Option ComparisonItem := none
  evaluationDecision : Option DecisionItem := none
  discoveryRun : Option RunItem := none
  historicalRuns : List HistoryItem := []
  runId : Option String := none
  jobId : Option String := none
  site : Option String := none
  deviceRole : Option String := none
  platform : Option String := none

/-! ## Objects -/

namespace Value

def int (n : Int) : Value := .scalar (toString n) (toString n)

def bool (b : Bool) : Value :=
  .scalar (if b then "True" else "False") (if b then "True" else "False")

def ofText : Option String → Value
  | some s => .text s
  | Option.none => .none

def ofInt : Option Int → Value
  | some n => int n
  | Option.none => .none

/-- Pairs of a text and a count. -/
def counts (pairs : List (String × Nat)) : Value :=
  .tuple (pairs.map fun e => .tuple [.text e.1, int e.2])

end Value

open Value (int ofText ofInt)

/-! ## Sections -/

/-- `SummaryGenerator._headline`. -/
def headline (s : ShownStatistics) : String :=
  "compliance_score:" ++ s.complianceScore.text ++ "|netbox_accuracy:" ++
    s.netboxAccuracyPct.text ++ "|devices:" ++ s.totalDevices.text

/-- `SummaryGenerator._build_highlights`. -/
def highlights (repr : String → String) (s : ShownStatistics) : List Value :=
  (s.items.take 12).map fun e => .text (e.1 ++ ":" ++ e.2.str repr)

def summaryMetrics (s : ShownStatistics) : Entries :=
  [("total_devices", s.totalDevices.value),
    ("compliance_score", s.complianceScore.value),
    ("netbox_accuracy_pct", s.netboxAccuracyPct.value),
    ("discovery_success_pct", s.discoverySuccessPct.value),
    ("critical_findings", s.criticalFindings.value),
    ("missing_devices", s.missingDevices.value),
    ("extra_devices", s.extraDevices.value)]

/-- `build_executive_summary_section`. -/
def buildExecutiveSummarySection (repr : String → String) (h : History) (s : ShownStatistics) :
    ReportSection where
  sectionType := .executiveSummary
  data := [("headline", .text (headline s)),
    ("highlights", .tuple (highlights repr s)),
    ("metrics", .dict (summaryMetrics s)),
    ("run_id", ofText h.runId)]

def netboxRow (d : NetboxDeviceItem) : Value :=
  .dict [("name", .text d.name),
    ("serial", ofText d.serial),
    ("platform", ofText d.platform),
    ("device_type", .text d.deviceType),
    ("manufacturer", .text d.manufacturer)]

def liveRow (d : LiveDeviceItem) : Value :=
  .dict [("device_id", .text d.deviceId),
    ("name", .text d.name),
    ("serial_number", ofText d.serialNumber),
    ("platform", ofText d.platform),
    ("model", ofText d.model),
    ("manufacturer", ofText d.manufacturer),
    ("management_ip", ofText d.managementIp)]

/-- `build_inventory_section`. -/
def buildInventorySection (h : History) (s : ShownStatistics) : ReportSection where
  sectionType := .inventory
  data := [("netbox_devices", .tuple ((h.netboxInventory.getD []).map netboxRow)),
    ("live_devices", .tuple ((h.liveSnapshot.getD []).map liveRow)),
    ("device_type_counts", .counts s.deviceTypeCounts),
    ("vendor_counts", .counts s.vendorCounts),
    ("platform_counts", .counts s.platformCounts)]

def metricsDict (m : MetricsItem) : Value :=
  .dict [("total_rules", int m.totalRules),
    ("evaluated_rules", int m.evaluatedRules),
    ("compliant", int m.compliant),
    ("non_compliant", int m.nonCompliant),
    ("waived", int m.waived),
    ("not_applicable", int m.notApplicable),
    ("errors", int m.errors),
    ("risk_score", int m.riskScore),
    ("compliance_score", int m.complianceScore)]

def ruleResultRow (r : RuleResultItem) : Value :=
  .dict [("rule_key", .text r.ruleKey),
    ("status", .text r.status),
    ("passed", .bool r.passed),
    ("risk_score", int r.riskScore),
    ("severity", .text r.severity.value),
    ("subject_type", .text r.subjectType),
    ("subject_id", .text r.subjectId)]

/-- `build_compliance_section`. -/
def buildComplianceSection (h : History) (s : ShownStatistics) : ReportSection where
  sectionType := .compliance
  data :=
    let decision := h.evaluationDecision
    [("status", ofText (decision.map (·.status))),
      ("risk_score", ofInt (decision.map (·.riskScore))),
      ("compliance_score", s.complianceScore.value),
      ("metrics", ((decision.bind (·.metrics)).map metricsDict).getD .none),
      ("rule_results", .tuple ((decision.map (·.ruleResults)).getD [] |>.map ruleResultRow))]

def findingRow (f : FindingItem) : Value :=
  .dict [("finding_id", .text f.id),
    ("rule_id", .text f.ruleId),
    ("title", .text f.title),
    ("severity", .text f.level.value),
    ("severity_score", int f.score),
    ("description", ofText f.description),
    ("evidence_count", int f.evidence.length)]

/-- `build_findings_section`. -/
def buildFindingsSection (h : History) (s : ShownStatistics) : ReportSection where
  sectionType := .findings
  data := [("findings", .tuple ((h.comparisonResult.map (·.findings)).getD [] |>.map findingRow)),
    ("critical_findings", s.criticalFindings.value),
    ("major_findings", s.majorFindings.value),
    ("minor_findings", s.minorFindings.value)]

def differenceRow (d : DifferenceItem) : Value :=
  .dict [("difference_type", .text d.differenceType.value),
    ("subject_type", .text d.subjectType),
    ("subject_id", .text d.subjectId),
    ("field_name", ofText d.fieldName),
    ("expected", d.expected),
    ("observed", d.observed),
    ("description", ofText d.description),
    ("key", .text d.key)]

/-- `build_discrepancies_section`. -/
def buildDiscrepanciesSection (h : History) (s : ShownStatistics) : ReportSection where
  sectionType := .discrepancies
  data := [("differences",
      .tuple ((h.comparisonResult.map (·.differences)).getD [] |>.map differenceRow)),
    ("missing_devices", s.missingDevices.value),
    ("extra_devices", s.extraDevices.value),
    ("changed_devices", s.changedDevices.value),
    ("interface_changes", s.interfaceChanges.value),
    ("vlan_changes", s.vlanChanges.value),
    ("configuration_changes", s.configurationChanges.value)]

def runDict (r : RunItem) : Value :=
  .dict [("run_id", .text r.runId),
    ("total_targets", int r.totalTargets),
    ("successful_targets", int r.successfulTargets),
    ("failed_targets", int r.failedTargets),
    ("skipped_targets", int r.skippedTargets),
    ("started_at", .text r.startedAt),
    ("finished_at", ofText r.finishedAt)]

def historyRow (e : HistoryItem) : Value :=
  .dict [("run_id", .text e.runId),
    ("captured_at", .text e.capturedAt),
    ("total_devices", int e.totalDevices),
    ("missing_devices", int e.missingDevices),
    ("extra_devices", int e.extraDevices),
    ("changed_devices", int e.changedDevices),
    ("compliance_score", ofInt e.complianceScore),
    ("critical_findings", int e.criticalFindings),
    ("major_findings", int e.majorFindings),
    ("minor_findings", int e.minorFindings)]

/-- `build_metrics_section`. -/
def buildMetricsSection (h : History) (s : ShownStatistics) : ReportSection where
  sectionType := .metrics
  data := [("statistics", .dict s.items),
    ("discovery", (h.discoveryRun.map runDict).getD .none),
    ("historical_runs", .tuple (h.historicalRuns.map historyRow))]

def evidenceRow (findingId : Option String) (e : EvidenceItem) : Value :=
  .dict [("evidence_id", .text e.id),
    ("source", .text e.source),
    ("description", .text e.description),
    ("reference", ofText e.reference),
    ("finding_id", ofText findingId)]

/-- The evidence of the findings, then that of the decision. -/
def evidenceRows (h : History) : List Value :=
  ((h.comparisonResult.map (·.findings)).getD []).flatMap
      (fun f => f.evidence.map (evidenceRow (some f.id))) ++
    ((h.evaluationDecision.map (·.evidence)).getD []).map (evidenceRow none)

/-- `build_appendix_section`. -/
def buildAppendixSection (h : History) (s : ShownStatistics) : ReportSection where
  sectionType := .appendix
  data := [("evidence", .tuple (evidenceRows h)),
    ("run_id", ofText h.runId),
    ("job_id", ofText h.jobId),
    ("site", ofText h.site),
    ("device_role", ofText h.deviceRole),
    ("platform", ofText h.platform),
    ("total_devices", s.totalDevices.value)]

/-! ## Recommendations -/

structure ReportRecommendation where
  recommendationId : String
  category : String
  action : String
  priority : String
  subjectType : String
  subjectId : String
  reasonCode : String
  relatedFindingIds : List String := []
  relatedDifferenceKeys : List String := []
  attributes : Entries := []

/-- `_priority_from_severity`. -/
def priorityFromSeverity : SeverityLevel → String
  | .critical => "critical"
  | .high => "high"
  | .medium => "medium"
  | _ => "low"

/-- `_action_for_difference`. -/
def actionForDifference : DifferenceType → String
  | .missing => "investigate"
  | .unexpected => "update_source_of_truth"
  | _ => "remediate_drift"

/-- `_priority_for_difference`. -/
def priorityForDifference : DifferenceType → String
  | .missing | .conflict => "high"
  | .unexpected => "medium"
  | _ => "low"

def findingRecommendation (id : String) (f : FindingItem) : ReportRecommendation where
  recommendationId := id
  category := "compliance"
  action := "remediate_drift"
  priority := priorityFromSeverity f.level
  subjectType := "finding"
  subjectId := f.id
  reasonCode := "finding." ++ f.level.value
  relatedFindingIds := [f.id]

def differenceRecommendation (id : String) (d : DifferenceItem) : ReportRecommendation where
  recommendationId := id
  category := "inventory"
  action := actionForDifference d.differenceType
  priority := priorityForDifference d.differenceType
  subjectType := d.subjectType
  subjectId := d.subjectId
  reasonCode := "difference." ++ d.differenceType.value
  relatedDifferenceKeys := [d.key]

def runRecommendation (id : String) (r : RunItem) : ReportRecommendation where
  recommendationId := id
  category := "discovery"
  action := "verify_connectivity"
  priority := "high"
  subjectType := "discovery_run"
  subjectId := r.runId
  reasonCode := "discovery.failed_targets"
  attributes := [("failed_targets", int r.failedTargets)]

/-- `build_recommendations`; `uuid4 n` is the id of recommendation `n`. -/
def buildRecommendations (uuid4 : Nat → String) (h : History) : List ReportRecommendation :=
  match h.comparisonResult with
  | none => []
  | some comparison =>
    let makers : List (String → ReportRecommendation) :=
      comparison.findings.map (fun f id => findingRecommendation id f) ++
        comparison.differences.map (fun d id => differenceRecommendation id d) ++
        (match h.discoveryRun with
          | some run => if 0 < run.failedTargets then [fun id => runRecommendation id run] else []
          | none => [])
    makers.zipIdx.map fun m => m.1 (uuid4 m.2)

def recommendationRow (r : ReportRecommendation) : Value :=
  .dict [("recommendation_id", .text r.recommendationId),
    ("category", .text r.category),
    ("action", .text r.action),
    ("priority", .text r.priority),
    ("subject_type", .text r.subjectType),
    ("subject_id", .text r.subjectId),
    ("reason_code", .text r.reasonCode),
    ("related_finding_ids", .list (r.relatedFindingIds.map .text)),
    ("related_difference_keys", .list (r.relatedDifferenceKeys.map .text)),
    ("attributes", .dict r.attributes)]

/-- `build_recommendations_section`. -/
def buildRecommendationsSection (s : ShownStatistics) (rs : List ReportRecommendation) :
    ReportSection where
  sectionType := .recommendations
  data := [("recommendations", .tuple (rs.map recommendationRow)),
    ("count", int rs.length),
    ("critical_findings", s.criticalFindings.value)]

/-! ## ReportBuilder -/

namespace ReportBuilder

variable (repr : String → String) (uuid4 : Nat → String) (h : History) (s : ShownStatistics)

def buildSection : SectionType → ReportSection
  | .executiveSummary => buildExecutiveSummarySection repr h s
  | .inventory => buildInventorySection h s
  | .compliance => buildComplianceSection h s
  | .findings => buildFindingsSection h s
  | .discrepancies => buildDiscrepanciesSection h s
  | .recommendations => buildRecommendationsSection s (buildRecommendations uuid4 h)
  | .metrics => buildMetricsSection h s
  | .appendix => buildAppendixSection h s

def build (reportType : ReportType) : ReportData where
  reportType := reportType
  title := titleKey reportType
  statistics := s
  sections := (sectionsByReport reportType).map (buildSection repr uuid4 h s)

end ReportBuilder

/-! ## Built lists are tables -/

open ReportRenderer (Rectangular Tabular serializeRow headers)

/-- Rows that all have one list of keys make a table. -/
theorem rectangular_of_keys {items : List Value} (keys : List String)
    (hkeys : ∀ item ∈ items, (serializeRow item).map Prod.fst = keys) : Rectangular items := by
  intro item hitem column hcolumn
  have hheaders : headers (items.map serializeRow) = keys := by
    obtain ⟨first, rest, rfl⟩ := List.exists_cons_of_ne_nil (List.ne_nil_of_mem hitem)
    exact hkeys first List.mem_cons_self
  rw [hheaders, ← hkeys item hitem] at hcolumn
  obtain ⟨e, he, rfl⟩ := List.mem_map.1 hcolumn
  rw [Entries.has, Entries.get?, Option.isSome_map, List.find?_isSome]
  exact ⟨e, he, beq_self_eq_true _⟩

/-- Rows that are made alike make a table. -/
theorem rectangular_map {α : Type} {row : α → Value}
    (hrow : ∀ x y, (serializeRow (row x)).map Prod.fst = (serializeRow (row y)).map Prod.fst)
    (xs : List α) : Rectangular (xs.map row) := by
  cases xs with
  | nil => exact fun item hitem => by cases hitem
  | cons first rest =>
    refine rectangular_of_keys ((serializeRow (row first)).map Prod.fst) fun item hitem => ?_
    obtain ⟨x, _, rfl⟩ := List.mem_map.1 hitem
    exact hrow x first

theorem rectangular_counts (pairs : List (String × Nat)) :
    Rectangular (pairs.map fun e => .tuple [.text e.1, int e.2]) :=
  rectangular_map (fun _ _ => rfl) pairs

/-- If the object is a list or a tuple, then it is a table. -/
def ListsTable (v : Value) : Prop :=
  ∀ items, (v = .list items ∨ v = .tuple items) → Rectangular items

@[simp] theorem listsTable_tuple {items : List Value} :
    ListsTable (.tuple items) ↔ Rectangular items := by
  simp [ListsTable]

@[simp] theorem listsTable_counts (pairs : List (String × Nat)) : ListsTable (.counts pairs) :=
  listsTable_tuple.2 (rectangular_counts pairs)

@[simp] theorem listsTable_number (n : Number) : ListsTable n.value := by
  simp [ListsTable, Number.value]

@[simp] theorem listsTable_int (n : Int) : ListsTable (int n) := by
  simp [ListsTable, int]

@[simp] theorem listsTable_ofText (t : Option String) : ListsTable (ofText t) := by
  cases t <;> simp [ListsTable, ofText]

@[simp] theorem listsTable_ofInt (n : Option Int) : ListsTable (ofInt n) := by
  cases n <;> simp [ListsTable, ofInt, int]

@[simp] theorem listsTable_dict (entries : List (String × Value)) :
    ListsTable (.dict entries) := by
  simp [ListsTable]

/-- A dictionary, or `None`. -/
theorem listsTable_optional {α : Type} {row : α → Value} (hrow : ∀ a, ListsTable (row a))
    (x : Option α) : ListsTable ((x.map row).getD .none) := by
  cases x with
  | none => simp [ListsTable]
  | some a => exact hrow a

section

variable (repr : String → String) (uuid4 : Nat → String) (h : History) (s : ShownStatistics)

theorem evidence_rectangular : Rectangular (evidenceRows h) := by
  refine rectangular_of_keys ["evidence_id", "source", "description", "reference", "finding_id"]
    fun item hitem => ?_
  rcases List.mem_append.1 hitem with hitem | hitem
  · obtain ⟨f, _, hitem⟩ := List.mem_flatMap.1 hitem
    obtain ⟨e, _, rfl⟩ := List.mem_map.1 hitem
    rfl
  · obtain ⟨e, _, rfl⟩ := List.mem_map.1 hitem
    rfl

theorem buildSection_tabular (t : SectionType) :
    Tabular (ReportBuilder.buildSection repr uuid4 h s t) := by
  intro hne
  suffices ∀ e ∈ (ReportBuilder.buildSection repr uuid4 h s t).data, ListsTable e.2 from this
  cases t with
  | executiveSummary => exact absurd rfl hne
  | inventory =>
    simp [ReportBuilder.buildSection, buildInventorySection]
    exact ⟨rectangular_map (fun _ _ => rfl) _, rectangular_map (fun _ _ => rfl) _⟩
  | compliance =>
    have hmetrics : ∀ m, ListsTable (metricsDict m) := fun m => listsTable_dict _
    simp only [ReportBuilder.buildSection, buildComplianceSection, List.forall_mem_cons,
      listsTable_ofText, listsTable_ofInt, listsTable_number, listsTable_tuple, true_and]
    exact ⟨listsTable_optional hmetrics _, rectangular_map (fun _ _ => rfl) _,
      List.forall_mem_nil _⟩
  | findings =>
    simp [ReportBuilder.buildSection, buildFindingsSection]
    exact rectangular_map (fun _ _ => rfl) _
  | discrepancies =>
    simp [ReportBuilder.buildSection, buildDiscrepanciesSection]
    exact rectangular_map (fun _ _ => rfl) _
  | recommendations =>
    simp [ReportBuilder.buildSection, buildRecommendationsSection]
    exact rectangular_map (fun _ _ => rfl) _
  | metrics =>
    have hrun : ∀ r, ListsTable (runDict r) := fun r => listsTable_dict _
    simp [ReportBuilder.buildSection, buildMetricsSection]
    exact ⟨listsTable_optional hrun _, rectangular_map (fun _ _ => rfl) _⟩
  | appendix =>
    simp [ReportBuilder.buildSection, buildAppendixSection]
    exact evidence_rectangular h

theorem build_tabular (reportType : ReportType) :
    ∀ section_ ∈ (ReportBuilder.build repr uuid4 h s reportType).sections, Tabular section_ := by
  intro section_ hmem
  obtain ⟨t, _, rfl⟩ := List.mem_map.1 hmem
  exact buildSection_tabular repr uuid4 h s t

end

end Reporting
end NetOps
