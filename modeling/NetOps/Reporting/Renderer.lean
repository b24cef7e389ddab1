import Mathlib.Data.List.Basic
import NetOps.Outcomes

/-!
# Reporting.Renderer

What a report is made of (`reporting/enums.py`, `reporting/models.py`, `reporting/templates.py`):
Python values, sections, and the tree of document nodes between the renderer and the exporters.
Dictionaries have string keys; the first entry of a key counts.

`ReportRenderer` (`reporting/renderer.py`) makes a tree of document nodes of the report data. The
only exception it raises is the `KeyError` of a listed row that lacks a column of the first row
(`render_succeeds_iff`).
-/

namespace NetOps
namespace Reporting

/-! ## Values -/

/-- A Python object. `mapping` is a mapping proxy; `scalar` is anything else, with its `str` and its
`repr`. -/
inductive Value where
  | none
  | text (s : String)
  | scalar (str repr : String)
  | list (items : List Value)
  | tuple (items : List Value)
  | dict (entries : List (String × Value))
  | mapping (entries : List (String × Value))

namespace Value

/-- `repr` of a dictionary with shown entries. -/
def reprEntries (repr : String → String) (entries : List (String × String)) : String :=
  "\x7b" ++ String.intercalate ", " (entries.map fun e => repr e.1 ++ ": " ++ e.2) ++ "\x7d"

/-- `repr` of a tuple of shown items. -/
def reprTuple : List String → String
  | [item] => "(" ++ item ++ ",)"
  | items => "(" ++ String.intercalate ", " items ++ ")"

variable (repr : String → String)

mutual

/-- `repr(value)`, over `repr` of texts. -/
def represent : Value → String
  | none => "None"
  | text s => repr s
  | scalar _ r => r
  | list items => "[" ++ String.intercalate ", " (representAll items) ++ "]"
  | tuple items => reprTuple (representAll items)
  | dict entries => reprEntries repr (representEntries entries)
  | mapping entries => "mappingproxy(" ++ reprEntries repr (representEntries entries) ++ ")"

def representAll : List Value → List String
  | [] => []
  | v :: vs => v.represent :: representAll vs

def representEntries : List (String × Value) → List (String × String)
  | [] => []
  | e :: es => representEntry e :: representEntries es

def representEntry : String × Value → String × String
  | (k, v) => (k, v.represent)

end

/-- `str(value)`; that of a mapping proxy is that of the dictionary behind it. -/
def str : Value → String
  | text s => s
  | scalar s _ => s
  | mapping entries => reprEntries repr (representEntries repr entries)
  | v => v.represent repr

end Value

abbrev Entries := List (String × Value)

/-- `d.get(key)`; `none` when the key is absent. -/
def Entries.get? (d : Entries) (key : String) : Option Value :=
  (d.find? fun e => e.1 == key).map Prod.snd

def Entries.has (d : Entries) (key : String) : Bool := (d.get? key).isSome

/-- `d[key]`. -/
def Entries.getItem (d : Entries) (key : String) : Except String Value :=
  match d.get? key with
  | some v => .ok v
  | none => .error key

/-! ## Enumerations -/

inductive ReportType where
  | executiveSummary
  | inventory
  | discovery
  | compliance
  | difference
  | finding
  | historical
  | technical
  deriving DecidableEq

def ReportType.value : ReportType → String
  | executiveSummary => "executive_summary"
  | inventory => "inventory"
  | discovery => "discovery"
  | compliance => "compliance"
  | difference => "difference"
  | finding => "finding"
  | historical => "historical"
  | technical => "technical"

inductive SectionType where
  | executiveSummary
  | inventory
  | compliance
  | findings
  | discrepancies
  | recommendations
  | metrics
  | appendix
  deriving DecidableEq

def SectionType.value : SectionType → String
  | executiveSummary => "executive_summary"
  | inventory => "inventory"
  | compliance => "compliance"
  | findings => "findings"
  | discrepancies => "discrepancies"
  | recommendations => "recommendations"
  | metrics => "metrics"
  | appendix => "appendix"

inductive DocumentNodeType where
  | document
  | sectionNode
  | heading
  | paragraph
  | table
  | list
  | keyValue
  | metric
  | divider
  deriving DecidableEq

/-! ## Templates -/

/-- `_SECTIONS_BY_REPORT`. -/
def sectionsByReport : ReportType → List SectionType
  | .executiveSummary => [.executiveSummary, .metrics, .recommendations]
  | .inventory => [.inventory, .metrics, .appendix]
  | .discovery => [.executiveSummary, .inventory, .metrics, .appendix]
  | .compliance => [.executiveSummary, .compliance, .findings, .recommendations, .metrics]
  | .difference => [.discrepancies, .metrics, .appendix]
  | .finding => [.findings, .recommendations, .appendix]
  | .historical => [.executiveSummary, .metrics, .appendix]
  | .technical => [.inventory, .compliance, .findings, .discrepancies, .metrics, .appendix]

/-- The `title_key` of a registered template. -/
def titleKey (reportType : ReportType) : String := "report." ++ reportType.value

/-- `DefaultReportTemplate.section_title`. -/
def sectionTitle (sectionType : SectionType) : String := "section." ++ sectionType.value

/-! ## Models -/

/-- An integer or a float, by its text. -/
structure Number where
  text : String

def Number.value (n : Number) : Value := .scalar n.text n.text

/-- The statistics that reports show. -/
structure ShownStatistics where
  totalDevices : Number
  reachableDevices : Number
  unreachableDevices : Number
  discoverySuccessPct : Number
  netboxAccuracyPct : Number
  complianceScore : Number
  criticalFindings : Number
  majorFindings : Number
  minorFindings : Number
  missingDevices : Number
  extraDevices : Number
  changedDevices : Number
  interfaceChanges : Number
  vlanChanges : Number
  configurationChanges : Number
  deviceTypeCounts : List (String × Nat)
  vendorCounts : List (String × Nat)
  platformCounts : List (String × Nat)

/-- The dictionary of statistics that the renderer, the metrics section and every exporter spell
out. -/
def ShownStatistics.items (s : ShownStatistics) : Entries :=
  [("total_devices", s.totalDevices.value),
    ("reachable_devices", s.reachableDevices.value),
    ("unreachable_devices", s.unreachableDevices.value),
    ("discovery_success_pct", s.discoverySuccessPct.value),
    ("netbox_accuracy_pct", s.netboxAccuracyPct.value),
    ("compliance_score", s.complianceScore.value),
    ("critical_findings", s.criticalFindings.value),
    ("major_findings", s.majorFindings.value),
    ("minor_findings", s.minorFindings.value),
    ("missing_devices", s.missingDevices.value),
    ("extra_devices", s.extraDevices.value),
    ("changed_devices", s.changedDevices.value),
    ("interface_changes", s.interfaceChanges.value),
    ("vlan_changes", s.vlanChanges.value),
    ("configuration_changes", s.configurationChanges.value)]

structure ReportSection where
  sectionType : SectionType
  data : Entries

/-- `ReportData`; of the metadata the title is what documents show. -/
structure ReportData where
  reportType : ReportType
  title : String
  statistics : ShownStatistics
  sections : List ReportSection

inductive DocumentNode where
  | mk (nodeType : DocumentNodeType) (attributes : List (String × Value))
      (children : List DocumentNode)

namespace DocumentNode

def nodeType : DocumentNode → DocumentNodeType
  | mk t _ _ => t

def attributes : DocumentNode → Entries
  | mk _ a _ => a

def children : DocumentNode → List DocumentNode
  | mk _ _ c => c

end DocumentNode

structure RenderedDocument where
  reportType : ReportType
  title : String
  root : DocumentNode
  statistics : ShownStatistics

/-! ## Rendering -/

namespace ReportRenderer

open Outcomes

/-- `isinstance(value, (list, tuple, dict))`. -/
def isNested : Value → Bool
  | .list _ | .tuple _ | .dict _ => true
  | _ => false

/-- A key with a value. -/
def valueNode (key : String) (value : Value) : DocumentNode :=
  .mk .keyValue [("key", .text key), ("value", value)] []

/-- A key with nodes below it. -/
def groupNode (key : String) (children : List DocumentNode) : DocumentNode :=
  .mk .keyValue [("key", .text key)] children

section

variable (repr : String → String)

mutual

/-- `_render_key_values`. -/
def renderKeyValues : List (String × Value) → List DocumentNode
  | [] => []
  | e :: es => renderKeyValue e :: renderKeyValues es

def renderKeyValue : String × Value → DocumentNode
  | (key, value) =>
    if isNested value then groupNode key (renderNested value) else valueNode key value

/-- `_render_nested`. -/
def renderNested : Value → List DocumentNode
  | .dict entries => renderKeyValues entries
  | .mapping entries => renderKeyValues entries
  | .list items => [.mk .list [("items", .tuple items)] []]
  | .tuple items => [.mk .list [("items", .tuple items)] []]
  | .none => [.mk .paragraph [("text", .text (Value.str repr .none))] []]
  | .text s => [.mk .paragraph [("text", .text (Value.str repr (.text s)))] []]
  | .scalar s r => [.mk .paragraph [("text", .text (Value.str repr (.scalar s r)))] []]

end

end

/-- `_serialize_row`. -/
def serializeRow : Value → Entries
  | .dict entries | .mapping entries => entries
  | item => [("value", item)]

/-- The columns of a table: those of its first row. -/
def headers (rows : List Entries) : List String := ((rows.head?.getD []).map Prod.fst)

/-- `tuple(row[col] for col in headers)`. -/
def tableRow (columns : List String) (row : Entries) : Except String (List Value) :=
  columns.mapM row.getItem

def tableNode (key : String) (columns : List String) (rows : List (List Value)) : DocumentNode :=
  .mk .table [("key", .text key), ("headers", .tuple (columns.map .text)),
    ("rows", .tuple (rows.map .tuple))] []

/-- A list of `_render_structured_payload`; every row is a dictionary. -/
def renderRows (key : String) (items : List Value) : Except String DocumentNode :=
  if items.isEmpty then
    pure (.mk .list [("key", .text key), ("items", .tuple items)] [])
  else do
    let rows ← (items.map serializeRow).mapM (tableRow (headers (items.map serializeRow)))
    pure (tableNode key (headers (items.map serializeRow)) rows)

variable (repr : String → String)

/-- `_render_structured_payload` of one entry. -/
def renderStructured (e : String × Value) : Except String DocumentNode :=
  match e.2 with
  | .list items | .tuple items => renderRows e.1 items
  | .dict entries => pure (groupNode e.1 (renderKeyValues repr entries))
  | value => pure (valueNode e.1 value)

/-- `_render_section_data`. -/
def renderSectionData (sectionType : SectionType) (data : Entries) :
    Except String (List DocumentNode) :=
  match sectionType with
  | .executiveSummary => pure (renderKeyValues repr data)
  | _ => data.mapM (renderStructured repr)

/-- `_render_section`. -/
def renderSection (s : ReportSection) : Except String DocumentNode := do
  let children ← renderSectionData repr s.sectionType s.data
  pure (.mk .sectionNode [("title", .text (sectionTitle s.sectionType)),
    ("section_type", .text s.sectionType.value)] children)

/-- `_render_statistics`. -/
def renderStatistics (statistics : ShownStatistics) : List DocumentNode :=
  statistics.items.map fun e => .mk .metric [("key", .text e.1), ("value", e.2)] []

/-- The node of the statistics. -/
def statisticsNode (statistics : ShownStatistics) : DocumentNode :=
  .mk .sectionNode [("title", .text "section.statistics")] (renderStatistics statistics)

def render (data : ReportData) : Except String RenderedDocument := do
  let sectionNodes ← data.sections.mapM (renderSection repr)
  pure
    { reportType := data.reportType
      title := data.title
      root := .mk .document [("title", .text data.title),
        ("report_type", .text data.reportType.value)]
        (statisticsNode data.statistics :: sectionNodes)
      statistics := data.statistics }

/-! ## When rendering raises -/

/-- Every row has the columns of the first one. -/
def Rectangular (items : List Value) : Prop :=
  ∀ item ∈ items, ∀ column ∈ headers (items.map serializeRow), (serializeRow item).has column

/-- What the renderer asks of a section: its lists are tables. -/
def Tabular (s : ReportSection) : Prop :=
  s.sectionType ≠ .executiveSummary → ∀ e ∈ s.data, ∀ items,
    (e.2 = .list items ∨ e.2 = .tuple items) → Rectangular items

theorem getItem_succeeds_iff {d : Entries} {key : String} :
    (∃ v, d.getItem key = .ok v) ↔ d.has key := by
  rw [Entries.has, Entries.getItem]
  cases d.get? key <;> simp

theorem tableRow_succeeds_iff {columns : List String} {row : Entries} :
    (∃ cells, tableRow columns row = .ok cells) ↔ ∀ column ∈ columns, row.has column := by
  rw [tableRow, mapM_succeeds_iff]
  simp only [getItem_succeeds_iff]

theorem renderRows_succeeds_iff {key : String} {items : List Value} :
    (∃ node, renderRows key items = .ok node) ↔ Rectangular items := by
  have hrows : (∃ rows, (items.map serializeRow).mapM
      (tableRow (headers (items.map serializeRow))) = .ok rows) ↔ Rectangular items := by
    rw [mapM_succeeds_iff]
    simp only [tableRow_succeeds_iff, List.forall_mem_map]
    rfl
  rw [renderRows]
  split
  · rename_i hnil
    rw [List.isEmpty_iff] at hnil
    subst hnil
    simp [Rectangular, pure, Except.pure]
  · rw [← hrows]
    constructor
    · rintro ⟨node, h⟩
      obtain ⟨rows, hok, _⟩ := bind_ok h
      exact ⟨rows, hok⟩
    · rintro ⟨rows, h⟩
      exact ⟨_, by rw [h]; rfl⟩

theorem renderStructured_succeeds_iff {e : String × Value} :
    (∃ node, renderStructured repr e = .ok node) ↔
      ∀ items, (e.2 = .list items ∨ e.2 = .tuple items) → Rectangular items := by
  obtain ⟨key, value⟩ := e
  cases value with
  | list items => simp [renderStructured, renderRows_succeeds_iff]
  | tuple items => simp [renderStructured, renderRows_succeeds_iff]
  | _ => simp [renderStructured, pure, Except.pure]

theorem renderSection_succeeds_iff {s : ReportSection} :
    (∃ node, renderSection repr s = .ok node) ↔ Tabular s := by
  have hdata : (∃ node, renderSection repr s = .ok node) ↔
      ∃ children, renderSectionData repr s.sectionType s.data = .ok children := by
    constructor
    · rintro ⟨node, h⟩
      obtain ⟨children, hok, _⟩ := bind_ok h
      exact ⟨children, hok⟩
    · rintro ⟨children, h⟩
      exact ⟨_, by rw [renderSection, h]; rfl⟩
  rw [hdata, Tabular]
  unfold renderSectionData
  split
  · rename_i htype
    simp [htype, pure, Except.pure]
  · rename_i htype
    rw [mapM_succeeds_iff]
    simp only [renderStructured_succeeds_iff]
    exact ⟨fun h _ => h, fun h => h htype⟩

/-- A report is rendered exactly when the lists of its sections are tables; otherwise rendering
raises the `KeyError` of a missing column. -/
theorem render_succeeds_iff {data : ReportData} :
    (∃ document, render repr data = .ok document) ↔ ∀ s ∈ data.sections, Tabular s := by
  have hsections : (∃ document, render repr data = .ok document) ↔
      ∃ nodes, data.sections.mapM (renderSection repr) = .ok nodes := by
    constructor
    · rintro ⟨document, h⟩
      obtain ⟨nodes, hok, _⟩ := bind_ok h
      exact ⟨nodes, hok⟩
    · rintro ⟨nodes, h⟩
      exact ⟨_, by rw [render, h]; rfl⟩
  rw [hsections, mapM_succeeds_iff]
  simp only [renderSection_succeeds_iff]

end ReportRenderer
end Reporting
end NetOps
