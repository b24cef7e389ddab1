import NetOps.Dict
import NetOps.Discovery.Records
import NetOps.Outcomes
import NetOps.Paging

/-!
# Integrations.Pagination

Collections of NetBox (`integrations/netbox/pagination.py`, `list_collection` of
`integrations/netbox/client.py`). Where the next page is, a page says itself.

The server is a finite map from URLs to pages. How `httpx` makes a URL of an endpoint and its
parameters, and which results a model accepts, are parameters.

* `Chain`: the pages from a URL to the last page, or to the first URL that gives none.
* `iterResults_chain`: along a chain, every page is read once.
* `iterResults_eq_none_iff`: the loop goes on as long as the accepted pages have a next one.
* `collection_complete`: a collection is complete, and ends if no accepted page comes again.
-/

namespace NetOps
namespace Integrations

open Discovery (PyDict PyVal)
open Walks (walk Simple Ends)

variable {Url R M E : Type} [DecidableEq Url]

/-- `NetBoxCollectionResponse`. -/
structure NetBoxCollectionResponse (R : Type) where
  count : Int
  next : Option String
  results : List R

/-- The client and its server. `refused` is what is raised for a URL that gives no valid page,
`validate` is `model_type.model_validate`. -/
structure NetBoxClient (Url R M E : Type) [DecidableEq Url] where
  url : String → Option PyDict → Url
  pages : Dict Url (NetBoxCollectionResponse R)
  refused : Url → E
  validate : R → Except E M
  pageSize : Nat := 100

/-! ## Reading pages -/

/-- `current_endpoint` and `request_params` of `iter_pages`. -/
structure PageRequest where
  currentEndpoint : String
  requestParams : Option PyDict

/-- The first request. -/
def PageRequest.first (pageSize : Nat) (endpoint : String) (params : PyDict) : PageRequest where
  currentEndpoint := endpoint
  requestParams := some (params.set "limit" (.int pageSize))

/-- How `iter_pages` goes on after a page. -/
def PageRequest.after (page : NetBoxCollectionResponse R) : Option PageRequest :=
  page.next.map fun nextUrl => { currentEndpoint := nextUrl, requestParams := none }

/-- What `iter_results` has got so far, and the calls of the progress callback, if there is one:
the results retrieved and the count of the page. -/
structure Reading (M : Type) where
  retrieved : Nat := 0
  calls : List (Nat × Int) := []
  items : List M := []

namespace NetBoxClient

variable (c : NetBoxClient Url R M E)

def requestUrl (request : PageRequest) : Url := c.url request.currentEndpoint request.requestParams

/-- `fetch_page`. -/
def fetchPage (request : PageRequest) : Except E (NetBoxCollectionResponse R) :=
  match c.pages.get? (c.requestUrl request) with
  | some page => .ok page
  | none => .error (c.refused (c.requestUrl request))

/-- The results of a page, one after the other. -/
def readResults (count : Int) : Reading M → List R → Except E (Reading M)
  | reading, [] => .ok reading
  | reading, result :: results =>
    match c.validate result with
    | .error e => .error e
    | .ok item => readResults count
        { retrieved := reading.retrieved + 1
          calls := reading.calls ++ [(reading.retrieved + 1, count)]
          items := reading.items ++ [item] } results

/-- `iter_results` over `iter_pages`; `none` if it has not ended after so many pages. -/
def iterResults : Nat → PageRequest → Reading M → Option (Except E (Reading M))
  | 0, _, _ => none
  | fuel + 1, request, reading =>
    match c.fetchPage request with
    | .error e => some (.error e)
    | .ok page =>
      match c.readResults page.count reading page.results with
      | .error e => some (.error e)
      | .ok reading =>
        match PageRequest.after page with
        | none => some (.ok reading)
        | some request => iterResults fuel request reading

/-- `list_collection`. -/
def listCollection (fuel : Nat) (endpoint : String) (params : PyDict) :
    Option (Except E (List M)) :=
  (c.iterResults fuel (.first c.pageSize endpoint params) {}).map fun r => r.map (·.items)

/-! ## Results -/

/-- The results of a page are validated in their order, up to the first that is refused. -/
theorem readResults_cases (count : Int) (reading : Reading M) (results : List R) :
    (∃ e, c.readResults count reading results = .error e ∧ results.mapM c.validate = .error e) ∨
      ∃ reading' items, c.readResults count reading results = .ok reading' ∧
        results.mapM c.validate = .ok items ∧ reading'.items = reading.items ++ items := by
  induction results generalizing reading with
  | nil => exact .inr ⟨reading, [], rfl, rfl, by simp⟩
  | cons result results ih =>
    rw [readResults, List.mapM_cons]
    cases c.validate result with
    | error e => exact .inl ⟨e, rfl, rfl⟩
    | ok item =>
      dsimp only
      rcases ih _ with ⟨e, hread, hmap⟩ | ⟨reading', items, hread, hmap, hitems⟩
      · refine .inl ⟨e, hread, ?_⟩
        rw [hmap]
        rfl
      · refine .inr ⟨reading', item :: items, hread, ?_, ?_⟩
        · rw [hmap]
          rfl
        · rw [hitems, List.append_assoc, List.singleton_append]

/-- Every result of the page is valid. -/
def accepts (page : NetBoxCollectionResponse R) : Bool :=
  page.results.all fun result => (c.validate result).toOption.isSome

theorem accepts_iff (count : Int) (reading : Reading M) (page : NetBoxCollectionResponse R) :
    c.accepts page = true ↔
      ∃ reading', c.readResults count reading page.results = .ok reading' := by
  have hmapM : c.accepts page = true ↔ ∃ items, page.results.mapM c.validate = .ok items := by
    rw [Outcomes.mapM_succeeds_iff, accepts, List.all_eq_true]
    refine forall₂_congr fun result _ => ?_
    cases c.validate result <;> simp [Except.toOption]
  rw [hmapM]
  rcases c.readResults_cases count reading page.results with
    ⟨e, hread, hmap⟩ | ⟨reading', items, hread, hmap, _⟩ <;> simp [hread, hmap]

/-! ## Chains of pages -/

/-- Where a page says the next one is. -/
def link (u : Url) : Option Url :=
  (c.pages.get? u).bind fun page => page.next.map fun nextUrl => c.url nextUrl none

/-- The next page to be read after one whose results are valid. -/
def next (u : Url) : Option Url :=
  (c.pages.get? u).bind fun page => if c.accepts page then c.link u else none

/-- The URLs and pages from a URL on: to the page without a next one, or to a URL that gives no
page, and what is raised there. -/
inductive Chain : Url → List Url → List (NetBoxCollectionResponse R) → Option E → Prop
  | refused {u : Url} (hpage : c.pages.get? u = none) : Chain u [u] [] (some (c.refused u))
  | last {u : Url} {page : NetBoxCollectionResponse R} (hpage : c.pages.get? u = some page)
      (hnext : page.next = none) : Chain u [u] [page] none
  | more {u : Url} {page : NetBoxCollectionResponse R} {nextUrl : String} {urls : List Url}
      {pages : List (NetBoxCollectionResponse R)} {ending : Option E}
      (hpage : c.pages.get? u = some page) (hnext : page.next = some nextUrl)
      (hrest : Chain (c.url nextUrl none) urls pages ending) :
      Chain u (u :: urls) (page :: pages) ending

/-- The items of these pages, or what is raised first. -/
def collected (pages : List (NetBoxCollectionResponse R)) (ending : Option E) :
    Except E (List M) := do
  let items ← (pages.flatMap (·.results)).mapM c.validate
  match ending with
  | none => pure items
  | some e => throw e

variable {c}

/-- The URLs of a chain are where the links lead. -/
theorem Chain.getElem? {u : Url} {urls : List Url} {pages : List (NetBoxCollectionResponse R)}
    {ending : Option E} (h : Chain c u urls pages ending) (n : Nat) :
    urls[n]? = walk c.link n u := by
  induction h generalizing n with
  | refused hpage => cases n <;> simp [Walks.walk_succ, link, hpage]
  | last hpage hnext => cases n <;> simp [Walks.walk_succ, link, hpage, hnext]
  | more hpage hnext _ ih => cases n <;> simp [Walks.walk_succ, link, hpage, hnext, ih]

theorem Chain.nodup {u : Url} {urls : List Url} {pages : List (NetBoxCollectionResponse R)}
    {ending : Option E} (h : Chain c u urls pages ending) (hsimple : Simple c.link u) :
    urls.Nodup := by
  rw [List.nodup_iff_getElem?_ne_getElem?]
  intro i j hij hj heq
  have hat : walk c.link j u = some urls[j] := by
    rw [← h.getElem?, List.getElem?_eq_getElem hj]
  rw [h.getElem?, h.getElem?, hat] at heq
  have := hsimple i j _ heq hat
  omega

/-- Links that end lead along a chain. -/
theorem exists_chain {u : Url} (h : Ends c.link u) :
    ∃ urls pages ending, Chain c u urls pages ending := by
  obtain ⟨n, hn⟩ := h
  induction n generalizing u with
  | zero => simp at hn
  | succ n ih =>
    rw [Walks.walk_succ] at hn
    cases hpage : c.pages.get? u with
    | none => exact ⟨_, _, _, .refused hpage⟩
    | some page =>
      cases hnext : page.next with
      | none => exact ⟨_, _, _, .last hpage hnext⟩
      | some nextUrl =>
        rw [link, hpage, Option.bind_some, hnext, Option.map_some, Option.bind_some] at hn
        obtain ⟨urls, pages, ending, hrest⟩ := ih hn
        exact ⟨_, _, _, .more hpage hnext hrest⟩

/-- Only the URLs of the server have a link. -/
theorem link_mem {u : Url} (h : c.link u ≠ none) : u ∈ c.pages.items.map (·.1) := by
  cases hpage : c.pages.get? u with
  | none => simp [link, hpage] at h
  | some page => exact List.mem_map.2 ⟨(u, page), Dict.mem_items.2 hpage, rfl⟩

/-! ## The loop -/

theorem iterResults_page {request : PageRequest} {page : NetBoxCollectionResponse R}
    (hpage : c.pages.get? (c.requestUrl request) = some page) (fuel : Nat) (reading : Reading M) :
    c.iterResults (fuel + 1) request reading =
      match c.readResults page.count reading page.results with
      | .error e => some (.error e)
      | .ok reading =>
        match PageRequest.after page with
        | none => some (.ok reading)
        | some request => c.iterResults fuel request reading := by
  rw [iterResults, fetchPage, hpage]

theorem collected_cons (page : NetBoxCollectionResponse R)
    (pages : List (NetBoxCollectionResponse R)) (ending : Option E) :
    c.collected (page :: pages) ending = (do
      let items ← page.results.mapM c.validate
      (c.collected pages ending).map (items ++ ·)) := by
  unfold collected
  rw [List.flatMap_cons, List.mapM_append]
  cases page.results.mapM c.validate with
  | error e => rfl
  | ok items =>
    cases (pages.flatMap (·.results)).mapM c.validate with
    | error e => rfl
    | ok rest => cases ending <;> rfl

theorem collected_nil : c.collected [] none = .ok [] := rfl

/-- Along a chain, every page is read once. -/
theorem iterResults_chain {request : PageRequest} {urls : List Url}
    {pages : List (NetBoxCollectionResponse R)} {ending : Option E}
    (h : Chain c (c.requestUrl request) urls pages ending) (reading : Reading M) :
    (c.iterResults urls.length request reading).map (fun r => r.map (·.items)) =
      some ((c.collected pages ending).map (reading.items ++ ·)) := by
  generalize hu : c.requestUrl request = u at h
  induction h generalizing request reading with
  | refused hpage =>
    subst hu
    simp [iterResults, fetchPage, hpage, collected, Except.map, bind, Except.bind, pure,
      Except.pure, throw, throwThe, MonadExceptOf.throw]
  | @last u page hpage hnext =>
    subst hu
    rw [List.length_singleton, iterResults_page hpage, collected_cons, collected_nil]
    rcases c.readResults_cases page.count reading page.results with
      ⟨e, hread, hmap⟩ | ⟨reading', items, hread, hmap, hitems⟩
    · rw [hread, hmap]
      rfl
    · simp [hread, hmap, PageRequest.after, hnext, Except.map, bind, Except.bind, hitems]
  | @more u page nextUrl urls pages ending hpage hnext _ ih =>
    subst hu
    have hafter : PageRequest.after page = some ⟨nextUrl, none⟩ := by
      rw [PageRequest.after, hnext]
      rfl
    rw [List.length_cons, iterResults_page hpage, collected_cons]
    rcases c.readResults_cases page.count reading page.results with
      ⟨e, hread, hmap⟩ | ⟨reading', items, hread, hmap, hitems⟩
    · rw [hread, hmap]
      rfl
    · rw [hread, hmap]
      dsimp only
      rw [hafter]
      dsimp only
      rw [ih reading' rfl, hitems]
      cases c.collected pages ending with
      | error e => rfl
      | ok rest => simp [Except.map, bind, Except.bind]

/-- The loop has not ended as long as the pages read have a next one. -/
theorem iterResults_eq_none_iff (fuel : Nat) (request : PageRequest) (reading : Reading M) :
    c.iterResults fuel request reading = none ↔
      walk c.next fuel (c.requestUrl request) ≠ none := by
  induction fuel generalizing request reading with
  | zero => simp [iterResults]
  | succ fuel ih =>
    rw [iterResults, fetchPage, Walks.walk_succ, next]
    cases hpage : c.pages.get? (c.requestUrl request) with
    | none => simp
    | some page =>
      dsimp only
      have haccepts := c.accepts_iff page.count reading page
      cases hread : c.readResults page.count reading page.results with
      | error e => simp [hread] at haccepts; simp [haccepts]
      | ok reading' =>
        rw [hread] at haccepts
        have hvalid : c.accepts page = true := haccepts.2 ⟨reading', rfl⟩
        rw [Option.bind_some, if_pos hvalid, link, hpage, Option.bind_some, PageRequest.after]
        cases page.next with
        | none => simp
        | some nextUrl => exact ih _ _

/-- The first URL of a collection. -/
def firstUrl (c : NetBoxClient Url R M E) (endpoint : String) (params : PyDict) : Url :=
  c.requestUrl (.first c.pageSize endpoint params)

/-- A collection whose links visit no URL twice is that of a chain with every URL once: the items
of its pages in their order, or what is raised first. And a collection ends if and only if, as long
as the results are valid, the links visit no URL twice. -/
theorem collection_complete (c : NetBoxClient Url R M E) (endpoint : String) (params : PyDict) :
    (Simple c.link (c.firstUrl endpoint params) → ∃ urls pages ending fuel,
      Chain c (c.firstUrl endpoint params) urls pages ending ∧ urls.Nodup ∧
        c.listCollection fuel endpoint params = some (c.collected pages ending)) ∧
    ((∃ fuel result, c.listCollection fuel endpoint params = some result) ↔
      Simple c.next (c.firstUrl endpoint params)) := by
  constructor
  · intro hsimple
    obtain ⟨urls, pages, ending, hchain⟩ := exists_chain (hsimple.ends fun _ => link_mem)
    refine ⟨urls, pages, ending, urls.length, hchain, hchain.nodup hsimple, ?_⟩
    have hall := iterResults_chain hchain {}
    rw [listCollection, hall]
    cases c.collected pages ending <;> simp [Except.map]
  · have hplaces : ∀ u, c.next u ≠ none → u ∈ c.pages.items.map (·.1) := by
      intro u hu
      apply link_mem
      intro hlink
      simp [next, hlink] at hu
    rw [← Walks.ends_iff_simple hplaces]
    refine exists_congr fun fuel => ?_
    rw [listCollection, ← Option.ne_none_iff_exists', ne_eq, Option.map_eq_none_iff,
      iterResults_eq_none_iff, not_ne_iff]
    rfl

/-! ### A page that is its own next -/

/-- One page of sites, without results, whose next page is the same again. -/
def ownNext : NetBoxClient String Unit Unit Unit where
  url endpoint params := match params.bind (·.get? "limit") with
    | some limit => endpoint ++ "?limit=" ++ limit.text
    | none => endpoint
  pages := .ofList
    [("/api/dcim/sites/?limit=100", ⟨0, some "/api/dcim/sites/?limit=100", []⟩)]
  refused _ := ()
  validate _ := .ok ()

/-- It is requested again and again. -/
theorem ownNext_goes_on :
    ¬ ∃ fuel result, ownNext.listCollection fuel "/api/dcim/sites/" [] = some result := by
  rintro ⟨fuel, result, hresult⟩
  have hback : walk ownNext.next 1 "/api/dcim/sites/?limit=100" =
      some "/api/dcim/sites/?limit=100" := by decide
  have hon := Walks.walk_mul hback fuel
  rw [Nat.mul_one] at hon
  have hnone : ownNext.iterResults fuel (.first 100 "/api/dcim/sites/" []) {} = none := by
    rw [iterResults_eq_none_iff]
    exact fun h => absurd (hon.symm.trans h) (by simp)
  change (ownNext.iterResults fuel (.first 100 "/api/dcim/sites/" []) {}).map _ = _ at hresult
  rw [hnone] at hresult
  cases hresult

end NetBoxClient

end Integrations
end NetOps
