import NetOps.Csv
import NetOps.Reporting.Renderer

/-!
# Reporting.CsvExport

`CsvExporter` (`reporting/exporters/csv.py`). A CSV reader gets from an exported report the
statistics, again as the first section, and one row for every value and every table cell of its
sections in order (`read_export_render`). Lists of a summary have no rows.
-/

namespace NetOps
namespace Reporting

/-- `isinstance(value, tuple)`. -/
def Value.asTuple? : Value → Option (List Value)
  | .tuple items => some items
  | _ => Option.none

namespace CsvExporter

open Outcomes ReportRenderer

variable (repr : String → String)

/-- What `csv.writer` makes of an object. -/
def cellText : Value → String
  | .none => ""
  | v => v.str repr

/-- The cells of a `TABLE` node. -/
def tableCells (title : String) (attributes : Entries) : List (List Value) :=
  match ((attributes.get? "headers").getD (.tuple [])).asTuple?,
      ((attributes.get? "rows").getD (.tuple [])).asTuple? with
  | some columns, some rows => rows.flatMap fun row =>
      match row.asTuple? with
      | some cells => (columns.zip cells).map fun c => [.text title, c.1, c.2]
      | none => []
  | _, _ => []

/-- The rows a node writes before its children. -/
def nodeRows (title : String) (nodeType : DocumentNodeType) (attributes : Entries) :
    List (List Value) :=
  let row : List Value := [.text title, (attributes.get? "key").getD .none,
    (attributes.get? "value").getD .none]
  match nodeType with
  | .metric => [row]
  | .keyValue => if attributes.has "value" then [row] else []
  | .table => tableCells title attributes
  | _ => []

/-- The section a node and its children belong to. -/
def sectionOf (title : String) (nodeType : DocumentNodeType) (attributes : Entries) : String :=
  if nodeType = .sectionNode then ((attributes.get? "title").getD (.text title)).str repr else title

mutual

/-- `_write_nodes`. -/
def writeNodes (title : String) : DocumentNode → List (List Value)
  | .mk t attributes children =>
    nodeRows (sectionOf repr title t attributes) t attributes ++
      writeChildren (sectionOf repr title t attributes) children

def writeChildren (title : String) : List DocumentNode → List (List Value)
  | [] => []
  | n :: ns => writeNodes title n ++ writeChildren title ns

end

/-- `_write_statistics`. -/
def writeStatistics (statistics : ShownStatistics) : List (List Value) :=
  statistics.items.map fun e => [.text "statistics", .text e.1, e.2]

/-- The rows `export` writes. -/
def rows (document : RenderedDocument) : List (List Value) :=
  [.text "section", .text "key", .text "value"] ::
    (writeStatistics document.statistics ++ writeNodes repr "document" document.root)

/-- The text of `CsvExporter.export`. -/
def «export» (document : RenderedDocument) : List Char :=
  Csv.write ((rows repr document).map (List.map (cellText repr)))

/-! ## What the rows say -/

mutual

/-- The values of a dictionary, those of dictionaries in it in their place. -/
def keyValueRows (title : String) : List (String × Value) → List (List Value)
  | [] => []
  | e :: es => keyValueRow title e ++ keyValueRows title es

def keyValueRow (title : String) : String × Value → List (List Value)
  | (key, value) => valueRows title key value

def valueRows (title : String) (key : String) : Value → List (List Value)
  | .dict entries => keyValueRows title entries
  | .list _ => []
  | .tuple _ => []
  | .none => [[.text title, .text key, .none]]
  | .text s => [[.text title, .text key, .text s]]
  | .scalar s r => [[.text title, .text key, .scalar s r]]
  | .mapping entries => [[.text title, .text key, .mapping entries]]

end

/-- The cells of a list of rows, by the columns of the first row. -/
def cellRows (title : String) (items : List Value) : List (List Value) :=
  items.flatMap fun item => (headers (items.map serializeRow)).map fun column =>
    [.text title, .text column, ((serializeRow item).get? column).getD .none]

def structuredRows (title : String) (e : String × Value) : List (List Value) :=
  match e.2 with
  | .list items | .tuple items => cellRows title items
  | .dict entries => keyValueRows title entries
  | value => [[.text title, .text e.1, value]]

def sectionRows (s : ReportSection) : List (List Value) :=
  match s.sectionType with
  | .executiveSummary => keyValueRows (sectionTitle s.sectionType) s.data
  | _ => s.data.flatMap (structuredRows (sectionTitle s.sectionType))

def statisticsRows (title : String) (statistics : ShownStatistics) : List (List Value) :=
  statistics.items.map fun e => [.text title, .text e.1, e.2]

def reportRows (data : ReportData) : List (List Value) :=
  [.text "section", .text "key", .text "value"] ::
    (statisticsRows "statistics" data.statistics ++
      (statisticsRows "section.statistics" data.statistics ++ data.sections.flatMap sectionRows))

/-! ## What is written of rendered nodes -/

section

variable {repr : String → String} {title : String}

theorem writeChildren_flatMap (ns : List DocumentNode) :
    writeChildren repr title ns = ns.flatMap (writeNodes repr title) := by
  induction ns with
  | nil => rfl
  | cons n ns ih => rw [writeChildren, List.flatMap_cons, ih]

theorem writeNodes_groupNode (key : String) (children : List DocumentNode) :
    writeNodes repr title (groupNode key children) = writeChildren repr title children := rfl

mutual

theorem writeChildren_renderKeyValues (entries : List (String × Value)) :
    writeChildren repr title (renderKeyValues repr entries) = keyValueRows title entries := by
  cases entries with
  | nil => rfl
  | cons e es =>
    rw [renderKeyValues, writeChildren, writeNodes_renderKeyValue, writeChildren_renderKeyValues,
      keyValueRows]

theorem writeNodes_renderKeyValue (e : String × Value) :
    writeNodes repr title (renderKeyValue repr e) = keyValueRow title e := by
  obtain ⟨key, value⟩ := e
  rw [renderKeyValue, keyValueRow]
  exact writeNodes_value key value

theorem writeNodes_value (key : String) (value : Value) :
    writeNodes repr title (if isNested value then groupNode key (renderNested repr value)
      else valueNode key value) = valueRows title key value := by
  cases value with
  | dict entries =>
    have hrows := writeChildren_renderKeyValues entries
    rw [isNested, if_pos rfl, writeNodes_groupNode, renderNested, hrows, valueRows]
  | list items => rfl
  | tuple items => rfl
  | none => rfl
  | text s => rfl
  | scalar s r => rfl
  | mapping entries => rfl

end

/-- The rows of parts, one after the other. -/
theorem flatMap_of_forall₂ {α β : Type} {f : α → Except String β}
    {rows : β → List (List Value)} {rows' : α → List (List Value)} {xs : List α} {ys : List β}
    (h : xs.mapM f = .ok ys) (hrows : ∀ x y, f x = .ok y → rows y = rows' x) :
    ys.flatMap rows = xs.flatMap rows' := by
  rw [mapM_ok_iff] at h
  induction h with
  | nil => rfl
  | cons hx _ ih => rw [List.flatMap_cons, List.flatMap_cons, hrows _ _ hx, ih]

theorem cells_tableRow {columns : List String} {row : Entries} {cells : List Value}
    (h : tableRow columns row = .ok cells) :
    ((columns.map Value.text).zip cells).map (fun c => [.text title, c.1, c.2]) =
      columns.map fun column => [.text title, .text column, (row.get? column).getD .none] := by
  rw [tableRow, mapM_ok_iff] at h
  induction h with
  | nil => rfl
  | @cons column cell columns cells hcell _ ih =>
    have hget : (row.get? column).getD .none = cell := by
      rw [Entries.getItem] at hcell
      split at hcell
      · rename_i v hv
        cases hcell
        rw [hv, Option.getD_some]
      · cases hcell
    rw [List.map_cons, List.zip_cons_cons, List.map_cons, List.map_cons, ih, hget]

theorem writeNodes_tableNode (key : String) (columns : List String) (rows : List (List Value)) :
    writeNodes repr title (tableNode key columns rows) = rows.flatMap fun cells =>
      ((columns.map Value.text).zip cells).map fun c => [.text title, c.1, c.2] := by
  have hcells : tableCells title [("key", .text key), ("headers", .tuple (columns.map .text)),
      ("rows", .tuple (rows.map .tuple))] = (rows.map Value.tuple).flatMap fun row =>
        match row.asTuple? with
        | some cells => ((columns.map Value.text).zip cells).map fun c => [.text title, c.1, c.2]
        | none => [] := rfl
  have hnode : writeNodes repr title (tableNode key columns rows) =
      tableCells title [("key", .text key), ("headers", .tuple (columns.map .text)),
        ("rows", .tuple (rows.map .tuple))] ++ [] := rfl
  rw [hnode, hcells, List.append_nil, List.flatMap_map]
  rfl

theorem writeNodes_renderRows {key : String} {items : List Value} {node : DocumentNode}
    (h : renderRows key items = .ok node) : writeNodes repr title node = cellRows title items := by
  rw [renderRows] at h
  split at h
  · rename_i hnil
    rw [List.isEmpty_iff] at hnil
    subst hnil
    cases h
    rfl
  · obtain ⟨rows, hrows, h⟩ := bind_ok h
    cases h
    rw [writeNodes_tableNode, cellRows, ← List.flatMap_map serializeRow fun row =>
      (headers (items.map serializeRow)).map fun column =>
        [Value.text title, .text column, (row.get? column).getD .none]]
    exact flatMap_of_forall₂ hrows fun _ _ h => cells_tableRow h

theorem writeNodes_renderStructured {e : String × Value} {node : DocumentNode}
    (h : renderStructured repr e = .ok node) :
    writeNodes repr title node = structuredRows title e := by
  obtain ⟨key, value⟩ := e
  cases value with
  | list items => exact writeNodes_renderRows h
  | tuple items => exact writeNodes_renderRows h
  | dict entries =>
    cases h
    rw [writeNodes_groupNode, writeChildren_renderKeyValues]
    rfl
  | none => cases h; rfl
  | text s => cases h; rfl
  | scalar s r => cases h; rfl
  | mapping entries => cases h; rfl

theorem sectionRows_listed {s : ReportSection} (h : s.sectionType ≠ .executiveSummary) :
    sectionRows s = s.data.flatMap (structuredRows (sectionTitle s.sectionType)) := by
  rcases s with ⟨sectionType, data⟩
  cases sectionType with
  | executiveSummary => exact absurd rfl h
  | _ => rfl

theorem writeNodes_renderSection {s : ReportSection} {node : DocumentNode}
    (h : renderSection repr s = .ok node) : writeNodes repr title node = sectionRows s := by
  obtain ⟨children, hchildren, h⟩ := bind_ok h
  cases h
  have hnode : writeNodes repr title (.mk .sectionNode
      [("title", .text (sectionTitle s.sectionType)), ("section_type", .text s.sectionType.value)]
      children) = writeChildren repr (sectionTitle s.sectionType) children := rfl
  rw [hnode]
  unfold renderSectionData at hchildren
  split at hchildren
  · rename_i htype
    cases hchildren
    simp only [sectionRows, htype]
    exact writeChildren_renderKeyValues s.data
  · rename_i htype
    rw [sectionRows_listed htype, writeChildren_flatMap]
    exact flatMap_of_forall₂ hchildren fun _ _ h => writeNodes_renderStructured h

theorem writeNodes_statisticsNode (statistics : ShownStatistics) :
    writeNodes repr title (statisticsNode statistics) =
      statisticsRows "section.statistics" statistics := rfl

end

/-- The exported text of a rendered report is read back as the report's rows. -/
theorem read_export_render {data : ReportData} {document : RenderedDocument}
    (h : render repr data = .ok document) :
    Csv.read («export» repr document) =
      some ((reportRows data).map (List.map (cellText repr))) := by
  obtain ⟨nodes, hnodes, h⟩ := bind_ok h
  cases h
  have hsections : nodes.flatMap (writeNodes repr "document") = data.sections.flatMap sectionRows :=
    flatMap_of_forall₂ hnodes fun _ _ h => writeNodes_renderSection h
  have hroot : ∀ attributes, writeNodes repr "document" (.mk .document attributes
      (statisticsNode data.statistics :: nodes)) =
        statisticsRows "section.statistics" data.statistics ++
          data.sections.flatMap sectionRows := by
    intro attributes
    have hstatistics : writeNodes repr "document" (statisticsNode data.statistics) =
        statisticsRows "section.statistics" data.statistics := writeNodes_statisticsNode _
    rw [← hsections, ← writeChildren_flatMap, ← hstatistics]
    rfl
  rw [«export», Csv.read_write, rows, hroot]
  rfl

end CsvExporter
end Reporting
end NetOps
