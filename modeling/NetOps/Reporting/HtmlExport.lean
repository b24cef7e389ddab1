import NetOps.Digits
import NetOps.Markup
import NetOps.Reporting.CsvExport

/-!
# Reporting.HtmlExport

`HtmlExporter` (`reporting/exporters/html.py`). The page is the written form of a tree of elements
(`read_export`): whatever the texts of a document hold, an HTML reader finds each of them as one
text or one attribute value, and the elements of the page are those of the document's nodes
(`skeletons_page`).
-/

namespace NetOps
namespace Reporting
namespace HtmlExporter

open Digits (IntError)
open Markup (escape)

variable (repr : String → String)

/-- `str(attributes.get(key, ""))`. -/
def shown (attributes : Entries) (key : String) : List Char :=
  (((attributes.get? key).getD (.text "")).str repr).toList

/-- `int(str(attributes.get("level", 3)))`. -/
def level (attributes : Entries) : Except IntError Int :=
  Digits.int (Text.strip (((attributes.get? "level").getD (.scalar "3" "3")).str repr))

/-- The items of a tuple, shown; nothing when the attribute is no tuple. -/
def shownItems (value : Value) : List (List Char) :=
  (value.asTuple?.getD []).map fun item => (item.str repr).toList

def items (attributes : Entries) : List (List Char) :=
  shownItems repr ((attributes.get? "items").getD (.tuple []))

def columns (attributes : Entries) : List (List Char) :=
  shownItems repr ((attributes.get? "headers").getD (.tuple []))

/-- The rows of a table that are tuples. -/
def tableRows (attributes : Entries) : List (List (List Char)) :=
  (((attributes.get? "rows").getD (.tuple [])).asTuple?.getD []).filterMap fun row =>
    row.asTuple?.map fun cells => cells.map fun cell => (cell.str repr).toList

/-- The nodes whose children are rendered. -/
def contains (t : DocumentNodeType) (attributes : Entries) : Bool :=
  match t with
  | .document | .sectionNode => true
  | .keyValue => !attributes.has "value"
  | _ => false

/-- `_render_node`, around the text of the children. -/
def nodeHtml (t : DocumentNodeType) (attributes : Entries) (children : List Char) :
    Except IntError (List Char) :=
  match t with
  | .document =>
    let title := escape (shown repr attributes "title")
    let reportType := escape (shown repr attributes "report_type")
    pure ("<article data-report-type='".toList ++ reportType ++ "'>".toList ++
      "<h1>".toList ++ title ++ "</h1>".toList ++ children ++ "</article>".toList)
  | .sectionNode =>
    let title := escape (shown repr attributes "title")
    pure ("<section data-title='".toList ++ title ++ "'><h2>".toList ++ title ++
      "</h2>".toList ++ children ++ "</section>".toList)
  | .heading => do
    let level ← level repr attributes
    let text := escape (shown repr attributes "text")
    pure ("<h".toList ++ (toString level).toList ++ ">".toList ++ text ++ "</h".toList ++
      (toString level).toList ++ ">".toList)
  | .paragraph =>
    let text := escape (shown repr attributes "text")
    pure ("<p>".toList ++ text ++ "</p>".toList)
  | .metric =>
    let key := escape (shown repr attributes "key")
    let value := escape (shown repr attributes "value")
    pure ("<div class='metric' data-key='".toList ++ key ++ "'>".toList ++ "<span>".toList ++ key ++
      "</span><strong>".toList ++ value ++ "</strong></div>".toList)
  | .keyValue =>
    let key := escape (shown repr attributes "key")
    if attributes.has "value" then
      let value := escape (shown repr attributes "value")
      pure ("<div class='kv'><span>".toList ++ key ++ "</span><span>".toList ++ value ++
        "</span></div>".toList)
    else
      pure ("<div class='kv-group' data-key='".toList ++ key ++ "'>".toList ++ children ++
        "</div>".toList)
  | .list =>
    let rendered := (items repr attributes).flatMap fun item =>
      "<li>".toList ++ escape item ++ "</li>".toList
    pure ("<ul>".toList ++ rendered ++ "</ul>".toList)
  | .table =>
    let header := (columns repr attributes).flatMap fun column =>
      "<th>".toList ++ escape column ++ "</th>".toList
    let body := (tableRows repr attributes).flatMap fun cells =>
      "<tr>".toList ++ (cells.flatMap fun cell => "<td>".toList ++ escape cell ++ "</td>".toList) ++
        "</tr>".toList
    pure ("<table><thead><tr>".toList ++ header ++ "</tr></thead>".toList ++ "<tbody>".toList ++
      body ++ "</tbody></table>".toList)
  | .divider => pure "<hr />".toList

mutual

/-- `_render_node`. -/
def renderNode : DocumentNode → Except IntError (List Char)
  | .mk t attributes children => do
    let inner ← if contains t attributes then renderNodes children else pure []
    nodeHtml repr t attributes inner

def renderNodes : List DocumentNode → Except IntError (List Char)
  | [] => pure []
  | n :: ns => do
    let first ← renderNode n
    let rest ← renderNodes ns
    pure (first ++ rest)

end

/-- The page of `HtmlExporter.export`. -/
def «export» (document : RenderedDocument) : Except IntError (List Char) := do
  let body ← renderNode repr document.root
  pure ("<!DOCTYPE html><html><head><meta charset='utf-8'>".toList ++
    "<title>".toList ++ escape document.title.toList ++ "</title>".toList ++
    "</head><body>".toList ++ body ++ "</body></html>".toList)

/-! ## The tree of a page -/

open Markup (Node text write)

/-- The elements of HTML that have no content. -/
def voids : List (List Char) :=
  ["area".toList, "base".toList, "br".toList, "col".toList, "embed".toList, "hr".toList,
    "img".toList, "input".toList, "link".toList, "meta".toList, "source".toList, "track".toList,
    "wbr".toList]

def element (tag : String) (attributes : List (String × List Char)) (children : List Node) :
    Node :=
  .element tag.toList (attributes.map fun a => (a.1.toList, a.2)) children

/-- What a node is on the page, around the trees of the children. -/
def nodeTree (t : DocumentNodeType) (attributes : Entries) (children : List Node) :
    Except IntError (List Node) :=
  match t with
  | .document => pure [element "article" [("data-report-type", shown repr attributes "report_type")]
      (element "h1" [] (text (shown repr attributes "title")) :: children)]
  | .sectionNode => pure [element "section" [("data-title", shown repr attributes "title")]
      (element "h2" [] (text (shown repr attributes "title")) :: children)]
  | .heading => do
    let level ← level repr attributes
    pure [.element ('h' :: (toString level).toList) [] (text (shown repr attributes "text"))]
  | .paragraph => pure [element "p" [] (text (shown repr attributes "text"))]
  | .metric => pure [element "div"
      [("class", "metric".toList), ("data-key", shown repr attributes "key")]
      [element "span" [] (text (shown repr attributes "key")),
        element "strong" [] (text (shown repr attributes "value"))]]
  | .keyValue =>
    if attributes.has "value" then
      pure [element "div" [("class", "kv".toList)]
        [element "span" [] (text (shown repr attributes "key")),
          element "span" [] (text (shown repr attributes "value"))]]
    else
      pure [element "div" [("class", "kv-group".toList), ("data-key", shown repr attributes "key")]
        children]
  | .list => pure [element "ul" []
      ((items repr attributes).flatMap fun item => [element "li" [] (text item)])]
  | .table => pure [element "table" []
      [element "thead" [] [element "tr" []
          ((columns repr attributes).flatMap fun column => [element "th" [] (text column)])],
        element "tbody" [] ((tableRows repr attributes).flatMap fun cells =>
          [element "tr" [] (cells.flatMap fun cell => [element "td" [] (text cell)])])]]
  | .divider => pure [.void "hr".toList [] true]

mutual

/-- What a document node is on the page. -/
def tree : DocumentNode → Except IntError (List Node)
  | .mk t attributes children => do
    let inner ← if contains t attributes then trees children else pure []
    nodeTree repr t attributes inner

def trees : List DocumentNode → Except IntError (List Node)
  | [] => pure []
  | n :: ns => do
    let first ← tree n
    let rest ← trees ns
    pure (first ++ rest)

end

/-- The page, around the trees of its body. -/
def page (title : String) (body : List Node) : List Node :=
  [.declaration "DOCTYPE html".toList,
    element "html" []
      [element "head" [] [.void "meta".toList [("charset".toList, "utf-8".toList)] false,
          element "title" [] (text title.toList)],
        element "body" [] body]]

section

variable {repr : String → String}

@[simp] theorem write_elementNode (tag : String) (attributes : List (String × List Char))
    (children ns : List Node) :
    write (element tag attributes children :: ns) =
      '<' :: (tag.toList ++ ((attributes.map fun a => (a.1.toList, a.2)).flatMap
        Markup.writeAttribute ++ '>' :: (write children ++ '<' :: '/' ::
          (tag.toList ++ '>' :: write ns)))) :=
  Markup.write_element ..

/-- The class names of the nodes need no references. -/
theorem escape_class : escape ['k', 'v'] = ['k', 'v'] ∧
    escape ['k', 'v', '-', 'g', 'r', 'o', 'u', 'p'] = ['k', 'v', '-', 'g', 'r', 'o', 'u', 'p'] ∧
    escape ['m', 'e', 't', 'r', 'i', 'c'] = ['m', 'e', 't', 'r', 'i', 'c'] ∧
    escape ['u', 't', 'f', '-', '8'] = ['u', 't', 'f', '-', '8'] := by decide

/-- The text of a node is the written form of its tree. -/
theorem nodeHtml_write (t : DocumentNodeType) (attributes : Entries) (children : List Node) :
    nodeHtml repr t attributes (write children) =
      (nodeTree repr t attributes children).map write := by
  cases t with
  | heading =>
    cases hlevel : level repr attributes with
    | error e => simp [nodeHtml, nodeTree, hlevel, bind, Except.bind, Except.map]
    | ok n =>
      simp [nodeHtml, nodeTree, hlevel, bind, Except.bind, Except.map, pure, Except.pure]
  | keyValue =>
    cases hvalue : attributes.has "value" <;>
      simp [nodeHtml, nodeTree, hvalue, Except.map, pure, Except.pure, Markup.writeAttribute,
        escape_class]
  | _ =>
    simp [nodeHtml, nodeTree, Except.map, pure, Except.pure, Markup.writeAttribute,
      Markup.write_flatMap, Markup.writeEnd, escape_class]

mutual

theorem renderNode_write (n : DocumentNode) :
    renderNode repr n = (tree repr n).map write := by
  obtain ⟨t, attributes, children⟩ := n
  rw [renderNode, tree]
  by_cases hcontains : contains t attributes = true
  · rw [if_pos hcontains, if_pos hcontains, renderNodes_write children]
    cases trees repr children with
    | error e => rfl
    | ok inner => exact nodeHtml_write t attributes inner
  · rw [if_neg hcontains, if_neg hcontains]
    exact nodeHtml_write t attributes []

theorem renderNodes_write (ns : List DocumentNode) :
    renderNodes repr ns = (trees repr ns).map write := by
  cases ns with
  | nil => rfl
  | cons n ns =>
    rw [renderNodes, trees, renderNode_write n, renderNodes_write ns]
    cases tree repr n with
    | error e => rfl
    | ok first =>
      cases trees repr ns with
      | error e => rfl
      | ok rest => exact congrArg Except.ok (Markup.write_append first rest).symm

end

/-! ## Trees are well formed -/

open Markup (IsName)

theorem nameChar_level {n : Int} {c : Char} (h : c ∈ (toString n).toList) :
    Markup.nameChar c = true := by
  have hdigit {m : Nat} (hc : c ∈ Nat.toDigits 10 m) : Markup.nameChar c = true := by
    rw [Markup.nameChar, Char.isAlphanum,
      Nat.isDigit_of_mem_toDigits (by decide) (by decide) hc, Bool.or_true,
      Bool.true_or]
  cases n with
  | ofNat n =>
    change c ∈ n.repr.toList at h
    rw [Nat.toList_repr] at h
    exact hdigit h
  | negSucc n =>
    change c ∈ ("-" ++ (n + 1).repr).toList at h
    rw [String.toList_append, Nat.toList_repr] at h
    rcases List.mem_append.1 h with h | h
    · rw [List.mem_singleton.1 h]
      decide
    · exact hdigit h

theorem isName_level (n : Int) : IsName ('h' :: (toString n).toList) := by
  refine ⟨List.cons_ne_nil _ _, fun c hc => ?_⟩
  rcases List.mem_cons.1 hc with rfl | hc
  · decide
  · exact nameChar_level hc

/-- A heading is no rule: its name goes on with a digit or a minus. -/
theorem level_not_void (n : Int) : 'h' :: (toString n).toList ∉ voids := by
  intro h
  have hr : (toString n).toList = ['r'] := by simpa [voids] using h
  have hname := nameChar_level (n := n) (c := 'r')
  have hvisible : ∀ {m : Nat}, 'r' ∉ Nat.toDigits 10 m := fun hc =>
    absurd (Nat.isDigit_of_mem_toDigits (by decide) (by decide) hc) (by decide)
  cases n with
  | ofNat n =>
    change n.repr.toList = ['r'] at hr
    rw [Nat.toList_repr] at hr
    exact hvisible (by rw [hr]; exact List.mem_singleton_self _)
  | negSucc n =>
    change ("-" ++ (n + 1).repr).toList = ['r'] at hr
    rw [String.toList_append] at hr
    exact absurd (congrArg List.head? hr) (by simp)

/-- A tag of the pages, and an attribute of one. -/
abbrev IsTag (tag : String) : Prop := tag.toList ∉ voids ∧ IsName tag.toList

theorem valid_element {tag : String} {attributes : List (String × List Char)}
    {children ns : List Node} (htag : IsTag tag) (hattributes : ∀ a ∈ attributes, IsName a.1.toList)
    (hchildren : Node.ValidAll voids children) (hns : Node.ValidAll voids ns) :
    Node.ValidAll voids (element tag attributes children :: ns) := by
  simp only [Node.ValidAll, element, Node.Valid]
  exact ⟨⟨htag.1, htag.2, List.forall_mem_map.2 hattributes, hchildren⟩, hns⟩

theorem valid_nil : Node.ValidAll voids [] := trivial

/-- An element around a text. -/
theorem valid_text {tag : String} {cs : List Char} {ns : List Node} (htag : IsTag tag)
    (hns : Node.ValidAll voids ns) : Node.ValidAll voids (element tag [] (text cs) :: ns) :=
  valid_element htag (List.forall_mem_nil _) (Node.validAll_text cs) hns

theorem nodeTree_valid {t : DocumentNodeType} {attributes : Entries} {children ns : List Node}
    (h : nodeTree repr t attributes children = .ok ns) (hchildren : Node.ValidAll voids children) :
    Node.ValidAll voids ns := by
  have hclass : IsName "class".toList := by decide
  have hkey : IsName "data-key".toList := by decide
  cases t with
  | document =>
    cases h
    have hname : IsName "data-report-type".toList := by decide
    exact valid_element (by decide) (List.forall_mem_singleton.2 hname)
      (valid_text (by decide) hchildren) valid_nil
  | sectionNode =>
    cases h
    have hname : IsName "data-title".toList := by decide
    exact valid_element (by decide) (List.forall_mem_singleton.2 hname)
      (valid_text (by decide) hchildren) valid_nil
  | heading =>
    obtain ⟨n, _, h⟩ := Outcomes.bind_ok h
    cases h
    simp only [Node.ValidAll, Node.Valid]
    exact ⟨⟨level_not_void n, isName_level n, List.forall_mem_nil _, Node.validAll_text _⟩,
      trivial⟩
  | paragraph =>
    cases h
    exact valid_text (by decide) valid_nil
  | metric =>
    cases h
    exact valid_element (by decide)
      (List.forall_mem_cons.2 ⟨hclass, List.forall_mem_singleton.2 hkey⟩)
      (valid_text (by decide) (valid_text (by decide) valid_nil)) valid_nil
  | keyValue =>
    simp only [nodeTree] at h
    split at h
    · cases h
      exact valid_element (by decide) (List.forall_mem_singleton.2 hclass)
        (valid_text (by decide) (valid_text (by decide) valid_nil)) valid_nil
    · cases h
      exact valid_element (by decide)
        (List.forall_mem_cons.2 ⟨hclass, List.forall_mem_singleton.2 hkey⟩) hchildren valid_nil
  | list =>
    cases h
    exact valid_element (by decide) (List.forall_mem_nil _)
      (Node.validAll_flatMap fun _ _ => valid_text (by decide) valid_nil) valid_nil
  | table =>
    cases h
    have hheader : Node.ValidAll voids
        ((columns repr attributes).flatMap fun column => [element "th" [] (text column)]) :=
      Node.validAll_flatMap fun _ _ => valid_text (by decide) valid_nil
    have hbody : Node.ValidAll voids ((tableRows repr attributes).flatMap fun cells =>
        [element "tr" [] (cells.flatMap fun cell => [element "td" [] (text cell)])]) :=
      Node.validAll_flatMap fun _ _ => valid_element (by decide) (List.forall_mem_nil _)
        (Node.validAll_flatMap fun _ _ => valid_text (by decide) valid_nil) valid_nil
    exact valid_element (by decide) (List.forall_mem_nil _)
      (valid_element (by decide) (List.forall_mem_nil _)
        (valid_element (by decide) (List.forall_mem_nil _) hheader valid_nil)
        (valid_element (by decide) (List.forall_mem_nil _) hbody valid_nil)) valid_nil
  | divider =>
    cases h
    have hname : IsName "hr".toList := by decide
    simp only [Node.ValidAll, Node.Valid]
    exact ⟨⟨by decide, hname, List.forall_mem_nil _⟩, trivial⟩

mutual

theorem tree_valid {n : DocumentNode} {ns : List Node} (h : tree repr n = .ok ns) :
    Node.ValidAll voids ns := by
  obtain ⟨t, attributes, children⟩ := n
  rw [tree] at h
  by_cases hcontains : contains t attributes = true
  · rw [if_pos hcontains] at h
    obtain ⟨inner, hinner, h⟩ := Outcomes.bind_ok h
    exact nodeTree_valid h (trees_valid hinner)
  · rw [if_neg hcontains] at h
    exact nodeTree_valid h valid_nil

theorem trees_valid {ns : List DocumentNode} {ms : List Node} (h : trees repr ns = .ok ms) :
    Node.ValidAll voids ms := by
  cases ns with
  | nil =>
    cases h
    exact valid_nil
  | cons n ns =>
    rw [trees] at h
    obtain ⟨first, hfirst, h⟩ := Outcomes.bind_ok h
    obtain ⟨rest, hrest, h⟩ := Outcomes.bind_ok h
    cases h
    exact Node.validAll_append.2 ⟨tree_valid hfirst, trees_valid hrest⟩

end

theorem page_valid {title : String} {body : List Node} (h : Node.ValidAll voids body) :
    Node.ValidAll voids (page title body) := by
  have hmeta : Node.Valid voids
      (.void "meta".toList [("charset".toList, "utf-8".toList)] false) := by
    have hname : IsName "charset".toList := by decide
    rw [Node.Valid]
    exact ⟨by decide, by decide, List.forall_mem_singleton.2 hname⟩
  rw [page, Node.ValidAll, Node.Valid]
  exact ⟨by decide, valid_element (by decide) (List.forall_mem_nil _)
    (valid_element (by decide) (List.forall_mem_nil _) ⟨hmeta, valid_text (by decide) valid_nil⟩
      (valid_element (by decide) (List.forall_mem_nil _) h valid_nil)) valid_nil⟩

/-- The text of a page is the written form of its tree. -/
theorem export_write (document : RenderedDocument) :
    «export» repr document =
      (tree repr document.root).map fun body => write (page document.title body) := by
  rw [«export», renderNode_write]
  cases tree repr document.root with
  | error e => rfl
  | ok body =>
    simp [page, bind, Except.bind, Except.map, pure, Except.pure, Markup.writeAttribute,
      Markup.writeEnd, escape_class]

/-! ## The elements of a page -/

open Markup (Skeleton skeletons)

/-- An element without attributes and content. -/
def leaf (tag : String) : Skeleton := .mk tag.toList [] []

/-- The elements of a node: its type says which, and how many there are is the number of items,
columns and cells; what they show has no part in it. -/
def nodeOutline (repr : String → String) (t : DocumentNodeType) (attributes : Entries)
    (children : List Skeleton) : Except IntError (List Skeleton) :=
  match t with
  | .document => pure [.mk "article".toList ["data-report-type".toList] (leaf "h1" :: children)]
  | .sectionNode => pure [.mk "section".toList ["data-title".toList] (leaf "h2" :: children)]
  | .heading => do
    let level ← level repr attributes
    pure [.mk ('h' :: (toString level).toList) [] []]
  | .paragraph => pure [leaf "p"]
  | .metric =>
    pure [.mk "div".toList ["class".toList, "data-key".toList] [leaf "span", leaf "strong"]]
  | .keyValue =>
    if attributes.has "value" then
      pure [.mk "div".toList ["class".toList] [leaf "span", leaf "span"]]
    else pure [.mk "div".toList ["class".toList, "data-key".toList] children]
  | .list => pure [.mk "ul".toList [] (List.replicate (items repr attributes).length (leaf "li"))]
  | .table =>
    let body := (tableRows repr attributes).map fun cells =>
      .mk "tr".toList [] (List.replicate cells.length (leaf "td"))
    pure [.mk "table".toList [] [.mk "thead".toList [] [.mk "tr".toList []
      (List.replicate (columns repr attributes).length (leaf "th"))], .mk "tbody".toList [] body]]
  | .divider => pure [leaf "hr"]

mutual

/-- The elements of a document node on the page. -/
def outline (repr : String → String) : DocumentNode → Except IntError (List Skeleton)
  | .mk t attributes children => do
    let inner ← if contains t attributes then outlines repr children else pure []
    nodeOutline repr t attributes inner

def outlines (repr : String → String) : List DocumentNode → Except IntError (List Skeleton)
  | [] => pure []
  | n :: ns => do
    let first ← outline repr n
    let rest ← outlines repr ns
    pure (first ++ rest)

end

/-- The elements of a page, around those of its body. -/
def pageOutline (body : List Skeleton) : List Skeleton :=
  [.mk "html".toList []
    [.mk "head".toList [] [.mk "meta".toList ["charset".toList] [], leaf "title"],
    .mk "body".toList [] body]]

@[simp] theorem skeletons_elementNode (tag : String) (attributes : List (String × List Char))
    (children ns : List Node) :
    skeletons (element tag attributes children :: ns) =
      .mk tag.toList (attributes.map fun a => a.1.toList) (skeletons children) :: skeletons ns := by
  simp [skeletons, element, Node.skeleton, Function.comp_def]

theorem skeletons_texts (tag : String) (cells : List (List Char)) :
    skeletons (cells.flatMap fun cell => [element tag [] (text cell)]) =
      List.replicate cells.length (leaf tag) := by
  induction cells with
  | nil => rfl
  | cons cell cells ih =>
    rw [List.flatMap_cons, List.singleton_append, skeletons_elementNode, ih,
      Markup.skeletons_text]
    rfl

theorem nodeOutline_tree (t : DocumentNodeType) (attributes : Entries) (children : List Node) :
    nodeOutline repr t attributes (skeletons children) =
      (nodeTree repr t attributes children).map skeletons := by
  cases t with
  | heading =>
    cases hlevel : level repr attributes with
    | error e => simp [nodeOutline, nodeTree, hlevel, bind, Except.bind, Except.map]
    | ok n =>
      simp [nodeOutline, nodeTree, hlevel, bind, Except.bind, Except.map, pure, Except.pure,
        skeletons, Node.skeleton]
  | keyValue =>
    cases hvalue : attributes.has "value" <;>
      simp [nodeOutline, nodeTree, hvalue, Except.map, pure, Except.pure, leaf]
  | table =>
    have hbody : skeletons ((tableRows repr attributes).flatMap fun cells =>
        [element "tr" [] (cells.flatMap fun cell => [element "td" [] (text cell)])]) =
          (tableRows repr attributes).map fun cells =>
            .mk "tr".toList [] (List.replicate cells.length (leaf "td")) := by
      rw [Markup.skeletons_flatMap, List.map_eq_flatMap]
      simp [skeletons_texts]
    simp only [nodeOutline, nodeTree, Except.map, pure, Except.pure, skeletons_elementNode, hbody,
      skeletons_texts, List.map_nil, Markup.skeletons_nil]
  | list => simp [nodeOutline, nodeTree, Except.map, pure, Except.pure, skeletons_texts]
  | divider =>
    simp [nodeOutline, nodeTree, Except.map, pure, Except.pure, leaf, skeletons, Node.skeleton]
  | _ => simp [nodeOutline, nodeTree, Except.map, pure, Except.pure, leaf]

mutual

theorem outline_tree (n : DocumentNode) : outline repr n = (tree repr n).map skeletons := by
  obtain ⟨t, attributes, children⟩ := n
  rw [outline, tree]
  by_cases hcontains : contains t attributes = true
  · rw [if_pos hcontains, if_pos hcontains, outlines_trees children]
    cases trees repr children with
    | error e => rfl
    | ok inner => exact nodeOutline_tree t attributes inner
  · rw [if_neg hcontains, if_neg hcontains]
    exact nodeOutline_tree t attributes []

theorem outlines_trees (ns : List DocumentNode) :
    outlines repr ns = (trees repr ns).map skeletons := by
  cases ns with
  | nil => rfl
  | cons n ns =>
    rw [outlines, trees, outline_tree n, outlines_trees ns]
    cases tree repr n with
    | error e => rfl
    | ok first =>
      cases trees repr ns with
      | error e => rfl
      | ok rest => exact congrArg Except.ok (Markup.skeletons_append first rest).symm

end

theorem skeletons_page (title : String) (body : List Node) :
    skeletons (page title body) = pageOutline (skeletons body) := by
  simp [page, pageOutline, leaf]

/-- A written page is read back, and its elements are those of the document's nodes. -/
theorem read_page {document : RenderedDocument} {body : List Node}
    (h : tree repr document.root = .ok body) :
    Markup.read voids (write (page document.title body)) = some (page document.title body) ∧
      (outline repr document.root).map pageOutline =
        .ok (skeletons (page document.title body)) := by
  refine ⟨Markup.read_write (page_valid (tree_valid h)), ?_⟩
  rw [outline_tree, h, skeletons_page]
  rfl

/-- An exported page is read back as the tree of its document, where every text of the document is
one text or one attribute value; so the elements of the page are those of the document's nodes. -/
theorem read_export {document : RenderedDocument} {text : List Char}
    (h : «export» repr document = .ok text) :
    ∃ body, tree repr document.root = .ok body ∧
      Markup.read voids text = some (page document.title body) ∧
      (outline repr document.root).map pageOutline =
        .ok (skeletons (page document.title body)) := by
  rw [export_write] at h
  cases htree : tree repr document.root with
  | error e =>
    rw [htree] at h
    cases h
  | ok body =>
    rw [htree] at h
    cases h
    exact ⟨body, rfl, read_page htree⟩

/-- A paragraph that looks like markup. -/
def paragraph : RenderedDocument where
  reportType := .inventory
  title := "<b>"
  root := .mk .paragraph [("text", .text "</p>&'")] []
  statistics := ⟨⟨"0"⟩, ⟨"0"⟩, ⟨"0"⟩, ⟨"0.0"⟩, ⟨"100.0"⟩, ⟨"0"⟩, ⟨"0"⟩, ⟨"0"⟩, ⟨"0"⟩, ⟨"0"⟩, ⟨"0"⟩,
    ⟨"0"⟩, ⟨"0"⟩, ⟨"0"⟩, ⟨"0"⟩, [], [], []⟩

/-- The page has the one paragraph, with the text it was given. -/
theorem read_export_paragraph :
    ∃ text body, «export» id paragraph = .ok text ∧ tree id paragraph.root = .ok body ∧
      Markup.read voids text = some (page "<b>" body) ∧
      (outline id paragraph.root).map pageOutline = .ok (skeletons (page "<b>" body)) := by
  have hexport : «export» id paragraph = .ok ("<!DOCTYPE html><html><head><meta charset='utf-8'>" ++
    "<title>&lt;b&gt;</title></head><body><p>&lt;/p&gt;&amp;&#x27;</p></body></html>").toList := by
    decide +kernel
  obtain ⟨body, htree, hread⟩ := read_export hexport
  exact ⟨_, body, hexport, htree, hread⟩

end

end HtmlExporter
end Reporting
end NetOps
