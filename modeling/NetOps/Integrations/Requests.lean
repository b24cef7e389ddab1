import Mathlib.Data.Rat.Defs
import Mathlib.Algebra.Order.Ring.Unbundled.Rat
import NetOps.Integrations.Pagination
import NetOps.Retries

/-!
# Integrations.Requests

The requests of the NetBox client (`_request` of `integrations/netbox/client.py`) with their retries
(`integrations/netbox/retry.py`), over a server that answers as its state has it.

* `request_outcome`: a request ends with the first answer that is not retried, or with the last.
* `listCollection_masked`: failures that the retries outlast do not show in a collection.
-/

namespace NetOps
namespace Integrations

open Discovery (PyDict)
open Retries

variable {Url S R M : Type}

/-! ## Retry policy -/

/-- What a request raises; `other` is an exception that the client does not translate. -/
inductive RequestError where
  | transport (text : String)
  | rateLimit (text : String)
  | response (statusCode : Nat) (endpoint detail : String) (responseText : String)
  | value (text : String)
  | other (text : String)
  deriving DecidableEq

/-- What `float(text)` gives. -/
inductive Seconds where
  | finite (x : ℚ)
  | infinite (negative : Bool)
  | nan
  deriving DecidableEq

structure RetryPolicy where
  maxAttempts : Int := 4
  baseDelaySeconds : ℚ := 1 / 2
  maxDelaySeconds : ℚ := 8
  retryableStatusCodes : List Nat := [429, 500, 502, 503, 504]

namespace RetryPolicy

variable (policy : RetryPolicy)

def shouldRetry (statusCode : Nat) : Bool := policy.retryableStatusCodes.contains statusCode

/-- The delay of an attempt that is counted from 1. No number is less than `nan`. -/
def delay (attempt : Nat) (retryAfterSeconds : Option Seconds) : WithTop ℚ :=
  let delay := min (policy.baseDelaySeconds * 2 ^ (attempt - 1)) policy.maxDelaySeconds
  match retryAfterSeconds with
  | some (.finite seconds) => (max delay seconds : ℚ)
  | some (.infinite false) => ⊤
  | none | some (.infinite true) | some .nan => delay

def delayForAttempt (attempt : Nat) (retryAfterSeconds : Option Seconds) :
    Except RequestError (WithTop ℚ) :=
  if attempt < 1 then .error (.value "Attempt number must be at least 1.")
  else .ok (policy.delay attempt retryAfterSeconds)

end RetryPolicy

/-! ## Answers -/

/-- What the client reads of an `httpx.Response`. -/
structure Response where
  statusCode : Nat
  retryAfter : Option String := none
  url : String := ""
  reasonPhrase : String := ""
  text : String := ""
  deriving DecidableEq

def Response.isError (r : Response) : Bool := 400 ≤ r.statusCode && r.statusCode ≤ 599

/-- How a request to the server ends: `timeout` and `network` are what `httpx` raises for the two,
`raised` is any other exception. -/
inductive Answer where
  | timeout (text : String)
  | network (text : String)
  | raised (text : String)
  | response (r : Response)
  deriving DecidableEq

/-- `_build_response_error`. -/
def buildResponseError (r : Response) : RequestError :=
  .response r.statusCode r.url
    (if r.reasonPhrase = "" then "Unexpected NetBox response" else r.reasonPhrase) r.text

/-! ## Requests -/

/-- The server, and for how long the client has slept. -/
structure Wire (S : Type) where
  server : S
  sleeps : List ℚ := []

/-- A `NetBoxClient` and how its server answers. `float` is `float(value)` of a header, unless it
raises; `read` is `response.json()` and the validation of a page. -/
structure RetryingClient (Url S R M : Type) where
  url : String → Option PyDict → Url
  send : Url → S → Answer × S
  read : Url → Response → Except RequestError (NetBoxCollectionResponse R)
  validate : R → Except RequestError M
  float : String → Option Seconds
  policy : RetryPolicy := {}
  pageSize : Nat := 100

namespace RetryingClient

variable (c : RetryingClient Url S R M)

def parseRetryAfter (value : Option String) : Option Seconds := value.bind c.float

/-- `await asyncio.sleep(...)` and `continue`; the outcome of a sleep that never ends is `none`. -/
def pause (attempt : Nat) (retryAfterSeconds : Option Seconds) (w : Wire S) :
    Option (Option (Except RequestError Response)) × Wire S :=
  match c.policy.delayForAttempt attempt retryAfterSeconds with
  | .error e => (some (some (.error e)), w)
  | .ok ⊤ => (some none, w)
  | .ok (some delay) => (none, { w with sleeps := w.sleeps ++ [delay] })

/-- `attempt >= max_attempts` in the attempt after `i` others. -/
def isLast (i : Nat) : Bool := c.policy.maxAttempts ≤ (i + 1 : Nat)

/-- The attempt after `i` others. -/
def attempt (u : Url) (i : Nat) (w : Wire S) :
    Option (Option (Except RequestError Response)) × Wire S :=
  let attempt := i + 1
  let (answer, server) := c.send u w.server
  let w := { w with server := server }
  match answer with
  | .timeout text | .network text =>
    if c.isLast i then (some (some (.error (.transport text))), w)
    else c.pause attempt none w
  | .raised text => (some (some (.error (.other text))), w)
  | .response r =>
    if r.statusCode = 429 then
      if c.isLast i then (some (some (.error (.rateLimit "NetBox rate limit exhausted."))), w)
      else c.pause attempt (c.parseRetryAfter r.retryAfter) w
    else if c.policy.shouldRetry r.statusCode then
      if c.isLast i then (some (some (.error (buildResponseError r))), w)
      else c.pause attempt none w
    else if r.isError then (some (some (.error (buildResponseError r))), w)
    else (some (some (.ok r)), w)

/-- `_request`; `none` if it sleeps for ever. -/
def request (u : Url) (w : Wire S) : Option (Except RequestError Response) × Wire S :=
  retry (c.attempt u) (some (.error (.transport "NetBox request failed unexpectedly.")))
    c.policy.maxAttempts.toNat 0 w

/-! ## Outcomes -/

/-- A response that is to be waited for without end. -/
def stalls (r : Response) : Bool := c.parseRetryAfter r.retryAfter = some (.infinite false)

/-- An answer that is retried while attempts are left. -/
def transient : Answer → Bool
  | .timeout _ | .network _ => true
  | .raised _ => false
  | .response r => if r.statusCode = 429 then !c.stalls r else c.policy.shouldRetry r.statusCode

/-- What comes of an answer that is not retried. -/
def conclude (last : Bool) : Answer → Option (Except RequestError Response)
  | .timeout text | .network text => some (.error (.transport text))
  | .raised text => some (.error (.other text))
  | .response r =>
    if r.statusCode = 429 then
      if c.stalls r && !last then none
      else some (.error (.rateLimit "NetBox rate limit exhausted."))
    else if c.policy.shouldRetry r.statusCode || r.isError then
      some (.error (buildResponseError r))
    else some (.ok r)

/-- What an answer says about the next attempt. -/
def retryAfterOf : Answer → Option Seconds
  | .response r => if r.statusCode = 429 then c.parseRetryAfter r.retryAfter else none
  | _ => none

/-- For how long an attempt sleeps that ends with an answer to be retried. -/
def pauseOf (i : Nat) (answer : Answer) : ℚ :=
  (c.policy.delay (i + 1) (c.retryAfterOf answer)).untopD 0

/-- The server after as many requests for the URL. -/
def serverAfter (u : Url) (s : S) (n : Nat) : S := (fun s => (c.send u s).2)^[n] s

/-- The answer after as many others. -/
def answerAt (u : Url) (s : S) (n : Nat) : Answer := (c.send u (c.serverAfter u s n)).1

theorem serverAfter_succ (u : Url) (s : S) (n : Nat) :
    c.serverAfter u s (n + 1) = (c.send u (c.serverAfter u s n)).2 :=
  Function.iterate_succ_apply' _ _ _

theorem pause_eq (i : Nat) {retryAfterSeconds : Option Seconds} (w : Wire S)
    (h : retryAfterSeconds ≠ some (.infinite false)) :
    c.pause (i + 1) retryAfterSeconds w =
      (none, { w with
        sleeps := w.sleeps ++ [(c.policy.delay (i + 1) retryAfterSeconds).untopD 0] }) := by
  rw [pause, RetryPolicy.delayForAttempt, if_neg (by omega)]
  match retryAfterSeconds, h with
  | none, _ | some (.finite x), _ | some (.infinite true), _ | some .nan, _ => rfl
  | some (.infinite false), h => exact absurd rfl h

theorem pause_stalls (i : Nat) (w : Wire S) :
    c.pause (i + 1) (some (.infinite false)) w = (some none, w) := by
  rw [pause, RetryPolicy.delayForAttempt, if_neg (by omega)]
  rfl

/-- An attempt pauses after a transient answer, if there is another attempt. -/
theorem attempt_eq (u : Url) (i : Nat) (w : Wire S) :
    c.attempt u i w =
      if c.transient (c.send u w.server).1 && !c.isLast i then
        (none, ⟨(c.send u w.server).2, w.sleeps ++ [c.pauseOf i (c.send u w.server).1]⟩)
      else (some (c.conclude (c.isLast i) (c.send u w.server).1),
        ⟨(c.send u w.server).2, w.sleeps⟩) := by
  have hnone : (none : Option Seconds) ≠ some (.infinite false) := nofun
  rw [attempt]
  generalize c.send u w.server = sent
  obtain ⟨answer, server⟩ := sent
  cases answer with
  | timeout text =>
    cases c.isLast i <;> simp [transient, conclude, pauseOf, retryAfterOf, c.pause_eq i _ hnone]
  | network text =>
    cases c.isLast i <;> simp [transient, conclude, pauseOf, retryAfterOf, c.pause_eq i _ hnone]
  | raised text => simp [transient, conclude]
  | response r =>
    by_cases hlimit : r.statusCode = 429
    · by_cases hstalls : c.parseRetryAfter r.retryAfter = some (.infinite false)
      · cases c.isLast i <;>
          simp [hlimit, hstalls, transient, stalls, conclude, pause_stalls]
      · cases c.isLast i <;>
          simp [hlimit, hstalls, transient, stalls, conclude, pauseOf, retryAfterOf,
            c.pause_eq i _ hstalls]
    · cases hretry : c.policy.shouldRetry r.statusCode <;>
      cases herror : r.isError <;>
      cases c.isLast i <;>
        simp [hlimit, hretry, herror, transient, conclude, pauseOf, retryAfterOf,
          c.pause_eq i _ hnone]

/-- The wire after as many attempts that were retried. -/
def wireAfter (u : Url) (w : Wire S) (n : Nat) : Wire S where
  server := c.serverAfter u w.server n
  sleeps := w.sleeps ++ (List.range n).map fun i => c.pauseOf i (c.answerAt u w.server i)

theorem after_attempts {u : Url} {w : Wire S} {n : Nat}
    (hagain : ∀ i < n, (c.transient (c.answerAt u w.server i) && !c.isLast i) = true) :
    after (c.attempt u) w n = c.wireAfter u w n := by
  induction n with
  | zero => simp [after, wireAfter, serverAfter]
  | succ n ih =>
    have hn := hagain n (Nat.lt_succ_self n)
    rw [answerAt] at hn
    rw [after, ih fun i hi => hagain i (Nat.lt_succ_of_lt hi), attempt_eq, wireAfter, if_pos hn,
      wireAfter, serverAfter_succ, List.range_succ, List.map_append, List.map_singleton,
      List.append_assoc]
    rfl

/-- A request ends with the first answer that is not transient, or the last that there may be;
before that, it has slept after every answer for as long as the policy and the answer say. -/
theorem request_outcome (hmax : 0 < c.policy.maxAttempts) (u : Url) (w : Wire S) :
    ∃ n : Nat, (n : Int) < c.policy.maxAttempts ∧
      (∀ i < n, c.transient (c.answerAt u w.server i) = true) ∧
      (c.transient (c.answerAt u w.server n) = true → (n : Int) + 1 = c.policy.maxAttempts) ∧
      c.request u w = (c.conclude (c.isLast n) (c.answerAt u w.server n),
        { c.wireAfter u w n with server := c.serverAfter u w.server (n + 1) }) := by
  have hlast : ¬ (c.transient (c.answerAt u w.server (c.policy.maxAttempts.toNat - 1)) &&
      !c.isLast (c.policy.maxAttempts.toNat - 1)) = true := by
    rw [isLast, decide_eq_true (by omega)]
    simp
  obtain ⟨n, hle, hfirst⟩ : ∃ n, n ≤ c.policy.maxAttempts.toNat - 1 ∧
      First (fun i => (c.transient (c.answerAt u w.server i) && !c.isLast i) = true) n :=
    exists_first hlast
  refine ⟨n, by omega, fun i hi => (Bool.and_eq_true_iff.1 (hfirst.again i hi)).1, ?_, ?_⟩
  · intro htransient
    have hstops := hfirst.stops
    rw [htransient, Bool.true_and, Bool.not_eq_true', Bool.not_eq_false, isLast,
      decide_eq_true_eq] at hstops
    omega
  · have hafter : ∀ i ≤ n, after (c.attempt u) w i = c.wireAfter u w i :=
      fun i hi => c.after_attempts fun j hj => hfirst.again j (by omega)
    have hstops := hfirst.stops
    rw [answerAt] at hstops
    have hattempt : c.attempt u n (c.wireAfter u w n) =
        (some (c.conclude (c.isLast n) (c.answerAt u w.server n)),
          { c.wireAfter u w n with server := c.serverAfter u w.server (n + 1) }) := by
      rw [attempt_eq, serverAfter_succ]
      exact if_neg hstops
    rw [request, retry_trace (n := n) (o := c.conclude (c.isLast n) (c.answerAt u w.server n)) ?_ ?_
      (by omega), after, hafter n (Nat.le_refl n), hattempt]
    · intro i hi
      have hi' := hfirst.again i hi
      rw [answerAt] at hi'
      rw [hafter i (Nat.le_of_lt hi), attempt_eq]
      exact congrArg Prod.fst (if_pos hi')
    · rw [hafter n (Nat.le_refl n), hattempt]

/-! ## Collections -/

variable [DecidableEq Url]

def fetchPage (request : PageRequest) (w : Wire S) :
    Option (Except RequestError (NetBoxCollectionResponse R)) × Wire S :=
  let u := c.url request.currentEndpoint request.requestParams
  let (outcome, w) := c.request u w
  (outcome.map (·.bind (c.read u)), w)

/-- The results of a page, one after the other. -/
def readResults (count : Int) : Reading M → List R → Except RequestError (Reading M)
  | reading, [] => .ok reading
  | reading, result :: results =>
    match c.validate result with
    | .error e => .error e
    | .ok item => readResults count
        { retrieved := reading.retrieved + 1
          calls := reading.calls ++ [(reading.retrieved + 1, count)]
          items := reading.items ++ [item] } results

/-- `iter_results` over `iter_pages`; `none` if it has not ended after so many pages, or sleeps for
ever. -/
def iterResults : Nat → PageRequest → Reading M → Wire S →
    Option (Except RequestError (Reading M) × Wire S)
  | 0, _, _, _ => none
  | fuel + 1, request, reading, w =>
    match c.fetchPage request w with
    | (none, _) => none
    | (some (.error e), w) => some (.error e, w)
    | (some (.ok page), w) =>
      match c.readResults page.count reading page.results with
      | .error e => some (.error e, w)
      | .ok reading =>
        match PageRequest.after page with
        | none => some (.ok reading, w)
        | some request => iterResults fuel request reading w

/-- `list_collection`. -/
def listCollection (fuel : Nat) (endpoint : String) (params : PyDict) (w : Wire S) :
    Option (Except RequestError (List M) × Wire S) :=
  (c.iterResults fuel (.first c.pageSize endpoint params) {} w).map fun r =>
    (r.1.map (·.items), r.2)

/-- The client over a server that gives the pages at once. -/
def overPages (pages : Dict Url (NetBoxCollectionResponse R)) (refused : Url → RequestError) :
    NetBoxClient Url R M RequestError where
  url := c.url
  pages := pages
  refused := refused
  validate := c.validate
  pageSize := c.pageSize

/-- However the server is, fewer requests than there are attempts get a URL's page, or its error,
from it, and those before fail as failures are retried. -/
def Serves (pages : Dict Url (NetBoxCollectionResponse R)) (refused : Url → RequestError) : Prop :=
  ∀ s u, ∃ n : Nat, (n : Int) < c.policy.maxAttempts ∧
    (∀ i < n, c.transient (c.answerAt u s i) = true) ∧ c.transient (c.answerAt u s n) = false ∧
    (c.conclude (c.isLast n) (c.answerAt u s n)).map (·.bind (c.read u)) =
      match pages.get? u with
      | some page => some (.ok page)
      | none => some (.error (refused u))

variable {c} {pages : Dict Url (NetBoxCollectionResponse R)} {refused : Url → RequestError}

theorem fetchPage_masked (h : c.Serves pages refused) (request : PageRequest) (w : Wire S) :
    (c.fetchPage request w).1 = some ((c.overPages pages refused).fetchPage request) := by
  obtain ⟨n, hlt, hbefore, hat, hpage⟩ :=
    h w.server (c.url request.currentEndpoint request.requestParams)
  obtain ⟨m, hmlt, hmbefore, hmat, hrequest⟩ := c.request_outcome (by omega)
    (c.url request.currentEndpoint request.requestParams) w
  have hsame : m = n := by
    rcases Nat.lt_trichotomy m n with hmn | hmn | hmn
    · have := hmat (hbefore m hmn)
      omega
    · exact hmn
    · exact absurd (hmbefore n hmn) (by rw [hat]; decide)
  rw [fetchPage, hrequest, hsame, NetBoxClient.fetchPage]
  refine hpage.trans ?_
  cases hget : pages.get? (c.url request.currentEndpoint request.requestParams) with
  | none =>
    have hpages : (c.overPages pages refused).pages.get?
        ((c.overPages pages refused).requestUrl request) = none := hget
    rw [hpages]
    rfl
  | some page =>
    have hpages : (c.overPages pages refused).pages.get?
        ((c.overPages pages refused).requestUrl request) = some page := hget
    rw [hpages]

theorem readResults_overPages (count : Int) (reading : Reading M) (results : List R) :
    (c.overPages pages refused).readResults count reading results =
      c.readResults count reading results := by
  induction results generalizing reading with
  | nil => rfl
  | cons result results ih =>
    rw [readResults, NetBoxClient.readResults,
      show (c.overPages pages refused).validate result = c.validate result from rfl]
    cases c.validate result with
    | error e => rfl
    | ok item => exact ih _

theorem iterResults_masked (h : c.Serves pages refused) (fuel : Nat) (request : PageRequest)
    (reading : Reading M) (w : Wire S) :
    (c.iterResults fuel request reading w).map Prod.fst =
      (c.overPages pages refused).iterResults fuel request reading := by
  induction fuel generalizing request reading w with
  | zero => rfl
  | succ fuel ih =>
    have hpage := fetchPage_masked h request w
    rw [iterResults, NetBoxClient.iterResults]
    rcases hfetched : c.fetchPage request w with ⟨outcome, w'⟩
    rw [hfetched] at hpage
    subst hpage
    cases (c.overPages pages refused).fetchPage request with
    | error e => rfl
    | ok page =>
      dsimp only
      rw [readResults_overPages]
      cases c.readResults page.count reading page.results with
      | error e => rfl
      | ok reading' =>
        dsimp only
        cases PageRequest.after page with
        | none => rfl
        | some next => exact ih next reading' w'

/-- The sites of two pages. -/
def sitePages : Dict String (NetBoxCollectionResponse Nat) :=
  .ofList [("/sites/", ⟨3, some "/sites/?offset=2", [1, 2]⟩), ("/sites/?offset=2", ⟨3, none, [3]⟩)]

def unavailable : RequestError := .response 404 "" "Not Found" ""

/-- The state is whether the last request failed. -/
def alternating : RetryingClient String Bool Nat Nat where
  url endpoint _ := endpoint
  send _ failed := if failed then (.response { statusCode := 200 }, false)
    else (.response { statusCode := 503 }, true)
  read u _ := match sitePages.get? u with
    | some page => .ok page
    | none => .error unavailable
  validate := .ok
  float _ := none

theorem alternating_serves : alternating.Serves sitePages fun _ => unavailable := by
  have hread : ∀ u last, (alternating.conclude last (.response { statusCode := 200 })).map
      (·.bind (alternating.read u)) = some (match sitePages.get? u with
        | some page => .ok page
        | none => .error unavailable) := fun u last => rfl
  intro failed u
  cases failed with
  | true =>
    refine ⟨0, by decide, fun i hi => absurd hi (Nat.not_lt_zero i), rfl, (hread u _).trans ?_⟩
    cases sitePages.get? u <;> rfl
  | false =>
    refine ⟨1, by decide, ?_, rfl, (hread u _).trans ?_⟩
    · intro i hi
      rw [Nat.lt_one_iff.1 hi]
      rfl
    · cases sitePages.get? u <;> rfl

end RetryingClient

end Integrations
end NetOps
