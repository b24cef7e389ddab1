import NetOps.Reporting.HtmlExport
import NetOps.Reporting.Sections

/-!
# Reporting.Reports

`ReportEngine.generate` (`reporting/engine.py`): building, rendering and exporting a report, for
the CSV and the HTML format.

* `generate_csv`, `generate_html`: every report of every cached history is generated, and what a
  reader gets from the export is what the sections of the report say.
-/

namespace NetOps
namespace Reporting

open ReportRenderer

/-! ## Rendered nodes are no headings -/

mutual

/-- No node of the tree is a heading. -/
def Headless : DocumentNode → Prop
  | .mk t _ children => t ≠ .heading ∧ AllHeadless children

def AllHeadless : List DocumentNode → Prop
  | [] => True
  | n :: ns => Headless n ∧ AllHeadless ns

end

theorem allHeadless_of_forall {ns : List DocumentNode} (h : ∀ n ∈ ns, Headless n) :
    AllHeadless ns := by
  induction ns with
  | nil => trivial
  | cons n ns ih =>
    exact ⟨h n List.mem_cons_self, ih fun m hm => h m (List.mem_cons_of_mem _ hm)⟩

section

variable {repr : String → String}

mutual

theorem renderKeyValues_headless (entries : List (String × Value)) :
    AllHeadless (renderKeyValues repr entries) := by
  cases entries with
  | nil => trivial
  | cons e es =>
    rw [renderKeyValues, AllHeadless]
    exact ⟨renderKeyValue_headless e, renderKeyValues_headless es⟩

theorem renderKeyValue_headless (e : String × Value) : Headless (renderKeyValue repr e) := by
  obtain ⟨key, value⟩ := e
  rw [renderKeyValue]
  split
  · rw [groupNode, Headless]
    exact ⟨by decide, renderNested_headless value⟩
  · rw [valueNode, Headless]
    exact ⟨by decide, trivial⟩

theorem renderNested_headless (value : Value) : AllHeadless (renderNested repr value) := by
  have hsingle : ∀ t attributes, t ≠ .heading → AllHeadless [.mk t attributes []] := by
    intro t attributes ht
    rw [AllHeadless, Headless]
    exact ⟨⟨ht, trivial⟩, trivial⟩
  cases value with
  | dict entries =>
    rw [renderNested]
    exact renderKeyValues_headless entries
  | mapping entries =>
    rw [renderNested]
    exact renderKeyValues_headless entries
  | _ =>
    rw [renderNested]
    exact hsingle _ _ (by decide)

end

theorem renderStructured_headless {e : String × Value} {node : DocumentNode}
    (h : renderStructured repr e = .ok node) : Headless node := by
  have hleaf : ∀ t attributes, t ≠ .heading → Headless (.mk t attributes []) := by
    intro t attributes ht
    rw [Headless]
    exact ⟨ht, trivial⟩
  have hrows : ∀ {key items}, renderRows key items = .ok node → Headless node := by
    intro key items h
    rw [renderRows] at h
    split at h
    · cases h
      exact hleaf _ _ (by decide)
    · obtain ⟨rows, _, h⟩ := Outcomes.bind_ok h
      cases h
      exact hleaf _ _ (by decide)
  obtain ⟨key, value⟩ := e
  cases value with
  | list items => exact hrows h
  | tuple items => exact hrows h
  | dict entries =>
    cases h
    rw [groupNode, Headless]
    exact ⟨by decide, renderKeyValues_headless entries⟩
  | _ =>
    cases h
    exact hleaf _ _ (by decide)

theorem renderSection_headless {s : ReportSection} {node : DocumentNode}
    (h : renderSection repr s = .ok node) : Headless node := by
  obtain ⟨children, hchildren, h⟩ := Outcomes.bind_ok h
  cases h
  rw [Headless]
  refine ⟨by decide, ?_⟩
  unfold renderSectionData at hchildren
  split at hchildren
  · cases hchildren
    exact renderKeyValues_headless s.data
  · rw [Outcomes.mapM_ok_iff] at hchildren
    refine allHeadless_of_forall fun n hn => ?_
    obtain ⟨e, _, he⟩ := Outcomes.exists_of_mem hchildren hn
    exact renderStructured_headless he

theorem render_headless {data : ReportData} {document : RenderedDocument}
    (h : render repr data = .ok document) : Headless document.root := by
  obtain ⟨nodes, hnodes, h⟩ := Outcomes.bind_ok h
  cases h
  have hmetrics : AllHeadless (renderStatistics data.statistics) := by
    refine allHeadless_of_forall fun n hn => ?_
    obtain ⟨e, _, rfl⟩ := List.mem_map.1 hn
    rw [Headless]
    exact ⟨by decide, trivial⟩
  have hsections : AllHeadless nodes := by
    rw [Outcomes.mapM_ok_iff] at hnodes
    refine allHeadless_of_forall fun n hn => ?_
    obtain ⟨s, _, hs⟩ := Outcomes.exists_of_mem hnodes hn
    exact renderSection_headless hs
  rw [Headless, AllHeadless, statisticsNode, Headless]
  exact ⟨by decide, ⟨by decide, hmetrics⟩, hsections⟩

/-! ## Trees without headings have a page -/

theorem nodeTree_succeeds {t : DocumentNodeType} (ht : t ≠ .heading) (attributes : Entries)
    (children : List Markup.Node) :
    ∃ ns, HtmlExporter.nodeTree repr t attributes children = .ok ns := by
  cases t with
  | heading => exact absurd rfl ht
  | keyValue =>
    simp only [HtmlExporter.nodeTree]
    split <;> exact ⟨_, rfl⟩
  | _ => exact ⟨_, rfl⟩

mutual

theorem tree_succeeds (n : DocumentNode) (h : Headless n) :
    ∃ ns, HtmlExporter.tree repr n = .ok ns := by
  obtain ⟨t, attributes, children⟩ := n
  rw [Headless] at h
  obtain ⟨inner, hinner⟩ := trees_succeed children h.2
  rw [HtmlExporter.tree]
  split
  · rw [hinner]
    exact nodeTree_succeeds h.1 attributes inner
  · exact nodeTree_succeeds h.1 attributes []

theorem trees_succeed (ns : List DocumentNode) (h : AllHeadless ns) :
    ∃ ms, HtmlExporter.trees repr ns = .ok ms := by
  cases ns with
  | nil => exact ⟨[], rfl⟩
  | cons n ns =>
    rw [AllHeadless] at h
    obtain ⟨first, hfirst⟩ := tree_succeeds n h.1
    obtain ⟨rest, hrest⟩ := trees_succeed ns h.2
    rw [HtmlExporter.trees, hfirst, hrest]
    exact ⟨_, rfl⟩

end

end

/-! ## ReportEngine -/

inductive GenerateError where
  | keyError (column : String)
  | valueError
  deriving DecidableEq

namespace ReportEngine

variable (repr : String → String) (uuid4 : Nat → String) (h : History) (s : ShownStatistics)

/-- Build and render. -/
def document (reportType : ReportType) : Except GenerateError RenderedDocument :=
  (render repr (ReportBuilder.build repr uuid4 h s reportType)).mapError .keyError

/-- `generate(report_type, context, ExportFormat.CSV)`. -/
def generateCsv (reportType : ReportType) : Except GenerateError (List Char) := do
  let document ← document repr uuid4 h s reportType
  pure (CsvExporter.export repr document)

/-- `generate(report_type, context, ExportFormat.HTML)`. -/
def generateHtml (reportType : ReportType) : Except GenerateError (List Char) := do
  let document ← document repr uuid4 h s reportType
  (HtmlExporter.export repr document).mapError fun _ => .valueError

theorem document_succeeds (reportType : ReportType) :
    ∃ d, render repr (ReportBuilder.build repr uuid4 h s reportType) = .ok d ∧
      document repr uuid4 h s reportType = .ok d := by
  obtain ⟨d, hd⟩ := (render_succeeds_iff repr).2 (build_tabular repr uuid4 h s reportType)
  exact ⟨d, hd, by rw [document, hd]; rfl⟩

/-- Generating a report as CSV raises nothing, and what a CSV reader gets are the rows of the built
sections. -/
theorem generate_csv (reportType : ReportType) :
    ∃ text, generateCsv repr uuid4 h s reportType = .ok text ∧
      Csv.read text = some
        ((CsvExporter.reportRows (ReportBuilder.build repr uuid4 h s reportType)).map
          (List.map (CsvExporter.cellText repr))) := by
  obtain ⟨d, hd, hdocument⟩ := document_succeeds repr uuid4 h s reportType
  exact ⟨CsvExporter.export repr d, by rw [generateCsv, hdocument]; rfl,
    CsvExporter.read_export_render repr hd⟩

/-- Generating a report as HTML raises nothing, and the page is read back as a tree whose elements
are those of the report's nodes. -/
theorem generate_html (reportType : ReportType) :
    ∃ d text body, document repr uuid4 h s reportType = .ok d ∧
      generateHtml repr uuid4 h s reportType = .ok text ∧
      HtmlExporter.tree repr d.root = .ok body ∧
      Markup.read HtmlExporter.voids text = some (HtmlExporter.page d.title body) ∧
      (HtmlExporter.outline repr d.root).map HtmlExporter.pageOutline =
        .ok (Markup.skeletons (HtmlExporter.page d.title body)) := by
  obtain ⟨d, hd, hdocument⟩ := document_succeeds repr uuid4 h s reportType
  obtain ⟨body, hbody⟩ : ∃ body, HtmlExporter.tree repr d.root = .ok body :=
    tree_succeeds d.root (render_headless hd)
  have hgenerate : generateHtml repr uuid4 h s reportType =
      .ok (Markup.write (HtmlExporter.page d.title body)) := by
    rw [generateHtml, hdocument]
    change (HtmlExporter.export repr d).mapError _ = _
    rw [HtmlExporter.export_write, hbody]
    rfl
  exact ⟨d, _, body, hdocument, hgenerate, hbody, HtmlExporter.read_page hbody⟩

end ReportEngine
end Reporting
end NetOps
