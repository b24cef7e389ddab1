import NetOps.Conc.Frame
import NetOps.Discovery.Fallback
import NetOps.Discovery.Runs
import NetOps.Discovery.Samples

/-!
# Discovery.FallbackTrace

The trace of a fallback.

* `Attempted`: what comes of an attempt, by what its health check, its collection and its validator
  did on the trace.
* `Chain`: the attempts of a chain of configurations on a trace, up to the first success.
* `Traced`: what a result says of the attempts it lists; `Explained`: a trace on which the result
  is that of a chain, in the order that the probe leads to.
* `Recorded`: the rows the attempts leave, in a session whose database does not fail.
* `fallback_traced`: both, of every run.
-/

namespace NetOps
namespace Discovery
namespace Fallback

open Conc
open MultiTransportDiscoveryOrchestrator (classifyException safeFailureMessage identifies
  startAttempt finishAttempt)

/-! ## What comes of an attempt -/

/-- What an attempt comes to: an exception, a payload with what it says of the device, or
nothing. -/
abbrev AttemptOutcome := Except Exn (Option (PyDict × Option DeviceInfo))

/-- No validator has said anything of the payload: there is none, or it returned `None`. -/
def Unjudged (config : TransportAttemptConfig) (payload : PyDict) (tr : List (Exchange lang)) :
    Prop :=
  (config.validatePayload = none ∧ tr = []) ∨
    ∃ validatePayload, config.validatePayload = some validatePayload ∧
      Raises.Ends (validatePayload payload) tr (.ok none)

/-- What comes of a payload that was collected. -/
inductive Judged (config : TransportAttemptConfig) (payload : PyDict) :
    List (Exchange lang) → AttemptOutcome → Prop
  | invalid {validatePayload : PyDict → M (Option PyDict)} {tr : List (Exchange lang)} {e : Exn}
      (hvalidate : config.validatePayload = some validatePayload)
      (h : Raises.Ends (validatePayload payload) tr (.error e)) :
      Judged config payload tr (.error e)
  | validated {validatePayload : PyDict → M (Option PyDict)} {tr : List (Exchange lang)}
      {info : PyDict} (hvalidate : config.validatePayload = some validatePayload)
      (h : Raises.Ends (validatePayload payload) tr (.ok (some info))) :
      Judged config payload tr (.ok (some (payload, some (.fields info))))
  | identified {tr : List (Exchange lang)} (h : Unjudged config payload tr)
      (hidentifies : identifies payload = true) :
      Judged config payload tr (.ok (some (payload, deviceInfoOf payload)))
  | unidentified {tr : List (Exchange lang)} (h : Unjudged config payload tr)
      (hidentifies : identifies payload = false) : Judged config payload tr (.ok none)

/-- What comes of an attempt, by what its collector does on the trace. -/
inductive Attempted (config : TransportAttemptConfig) : List (Exchange lang) → AttemptOutcome → Prop
  | unhealthy {tr : List (Exchange lang)} {e : Exn}
      (h : Raises.Ends config.healthCheck tr (.error e)) : Attempted config tr (.error e)
  | uncollected {tr tr' : List (Exchange lang)} {e : Exn}
      (hhealthy : Raises.Ends config.healthCheck tr (.ok ()))
      (h : Raises.Ends config.collect tr' (.error e)) : Attempted config (tr ++ tr') (.error e)
  | nothing {tr tr' : List (Exchange lang)} {collected : Option PyDict}
      (hhealthy : Raises.Ends config.healthCheck tr (.ok ()))
      (h : Raises.Ends config.collect tr' (.ok collected))
      (hnone : collected = none ∨ collected = some []) : Attempted config (tr ++ tr') (.ok none)
  | collected {tr tr' tr'' : List (Exchange lang)} {payload : PyDict} {outcome : AttemptOutcome}
      (hhealthy : Raises.Ends config.healthCheck tr (.ok ()))
      (h : Raises.Ends config.collect tr' (.ok (some payload))) (hpayload : payload ≠ [])
      (hjudged : Judged config payload tr'' outcome) :
      Attempted config (tr ++ (tr' ++ tr'')) outcome

/-- The result says what came of the attempt with this configuration, made as the `n`-th. -/
structure Made (redact : String → String) (config : TransportAttemptConfig) (n : Nat)
    (outcome : AttemptOutcome) (r : TransportAttemptResult) : Prop where
  transport : r.transportName = config.transportName
  order : r.attemptOrder = n
  success : r.success = true ↔ ∃ found, outcome = .ok (some found)
  found : ∀ payload info, outcome = .ok (some (payload, info)) →
    r.payload = some payload ∧ r.deviceInfo = info ∧ r.failureCode = none
  nothing : outcome = .ok none → r.failureCode = some .discoveryFailed
  raised : ∀ e, outcome = .error e → r.failureCode = some (classifyException e) ∧
    r.failureMessage = safeFailureMessage redact e.text

/-- One round of the loop: the attempt, between what is written of its row. -/
def Round (redact : String → String) (deviceResult : Option DiscoveryDeviceResultRecord) (n : Nat)
    (config : TransportAttemptConfig) (tr : List (Exchange lang)) (r : TransportAttemptResult) :
    Prop :=
  ∃ started attempted finished outcome, tr = started ++ (attempted ++ finished) ∧
    (deviceResult = none → started = [] ∧ finished = []) ∧ Attempted config attempted outcome ∧
      Made redact config n outcome r

/-! ## Chains of attempts -/

/-- The attempts of a chain from number `n` on: one configuration after the other, up to the first
that succeeds. -/
inductive Chain (redact : String → String) (deviceResult : Option DiscoveryDeviceResultRecord) :
    Nat → List TransportAttemptConfig → List (Exchange lang) → List TransportAttemptResult → Prop
  | done {n : Nat} : Chain redact deviceResult n [] [] []
  | success {n : Nat} {config : TransportAttemptConfig} {configs : List TransportAttemptConfig}
      {tr : List (Exchange lang)} {r : TransportAttemptResult}
      (hround : Round redact deviceResult n config tr r) (hr : r.success = true) :
      Chain redact deviceResult n (config :: configs) tr [r]
  | failure {n : Nat} {config : TransportAttemptConfig} {configs : List TransportAttemptConfig}
      {tr tr' : List (Exchange lang)} {r : TransportAttemptResult}
      {rs : List TransportAttemptResult} (hround : Round redact deviceResult n config tr r)
      (hr : r.success = false) (hrest : Chain redact deviceResult (n + 1) configs tr' rs) :
      Chain redact deviceResult n (config :: configs) (tr ++ tr') (r :: rs)

section chain

variable {redact : String → String} {deviceResult : Option DiscoveryDeviceResultRecord}
  {tr : List (Exchange lang)}

theorem Round.named {n : Nat} {config : TransportAttemptConfig} {r : TransportAttemptResult}
    (h : Round redact deviceResult n config tr r) :
    r.transportName = config.transportName ∧ r.attemptOrder = n := by
  obtain ⟨_, _, _, _, _, _, _, hmade⟩ := h
  exact ⟨hmade.transport, hmade.order⟩

/-- A chain is numbered without gaps and follows its configurations. -/
theorem Chain.follows {n : Nat} {configs : List TransportAttemptConfig}
    {rs : List TransportAttemptResult} (h : Chain redact deviceResult n configs tr rs) :
    rs.length ≤ configs.length ∧
      rs.map (·.transportName) = (configs.take rs.length).map (·.transportName) ∧
      rs.map (·.attemptOrder) = List.range' n rs.length := by
  induction h with
  | done => simp
  | success hround _ => simp [hround.named.1, hround.named.2]
  | failure hround _ _ ih =>
    obtain ⟨hlength, hnames, horders⟩ := ih
    refine ⟨Nat.succ_le_succ hlength, ?_, ?_⟩
    · rw [List.map_cons, List.length_cons, List.take_succ_cons, List.map_cons, hnames,
        hround.named.1]
    · rw [List.map_cons, List.length_cons, List.range'_succ, horders, hround.named.2]

/-- A chain uses up its configurations, or ends with its only success. -/
theorem Chain.ends {n : Nat} {configs : List TransportAttemptConfig}
    {rs : List TransportAttemptResult} (h : Chain redact deviceResult n configs tr rs) :
    ((∀ r ∈ rs, r.success = false) ∧ rs.length = configs.length) ∨
      ∃ failed r, rs = failed ++ [r] ∧ (∀ r' ∈ failed, r'.success = false) ∧
        r.success = true := by
  induction h with
  | done => exact .inl ⟨fun _ hr => absurd hr List.not_mem_nil, rfl⟩
  | success _ hr => exact .inr ⟨[], _, rfl, fun _ hr => absurd hr List.not_mem_nil, hr⟩
  | failure _ hr _ ih =>
    rcases ih with ⟨hall, hlength⟩ | ⟨failed, r', rfl, hfailed, hr'⟩
    · exact .inl ⟨List.forall_mem_cons.2 ⟨hr, hall⟩, congrArg (· + 1) hlength⟩
    · exact .inr ⟨_ :: failed, r', rfl, List.forall_mem_cons.2 ⟨hr, hfailed⟩, hr'⟩

end chain

/-! ## The result of a chain -/

theorem add_attempts (o : Outcome) (r : TransportAttemptResult) :
    (o.add r).attempts = o.attempts ++ [r] := by
  unfold Outcome.add
  split <;> rfl

theorem foldl_attempts (o : Outcome) (rs : List TransportAttemptResult) :
    (rs.foldl Outcome.add o).attempts = o.attempts ++ rs := by
  induction rs generalizing o with
  | nil => rw [List.foldl_nil, List.append_nil]
  | cons r rs ih => rw [List.foldl_cons, ih, add_attempts, List.append_assoc, List.singleton_append]

theorem foldl_fruitless {rs : List TransportAttemptResult} (h : ∀ r ∈ rs, r.success = false)
    {o : Outcome} (ho : o.Fruitless) : (rs.foldl Outcome.add o).Fruitless := by
  induction rs generalizing o with
  | nil => exact ho
  | cons r rs ih =>
    rw [List.forall_mem_cons] at h
    refine ih h.2 ?_
    unfold Outcome.add
    rw [if_neg (by rw [h.1]; exact Bool.false_ne_true)]
    exact ⟨ho.payload, ho.transport, ho.deviceInfo, ho.discovered⟩

/-- What a result says of the attempts it lists. -/
structure Traced (effective : List TransportAttemptConfig)
    (result : MultiTransportDiscoveryResult) : Prop where
  within : result.attempts.length ≤ effective.length
  transports : result.attempts.map (·.transportName) =
    (effective.take result.attempts.length).map (·.transportName)
  numbered : result.attempts.map (·.attemptOrder) = List.range' 1 result.attempts.length
  failed : ∀ r ∈ result.attempts.dropLast, r.success = false
  exhausted : (∀ r ∈ result.attempts, r.success = false) →
    result.attempts.length = effective.length
  discovered : result.resultState = .discovered ↔
    ∃ r, result.attempts.getLast? = some r ∧ r.success = true
  selected : ∀ r, result.attempts.getLast? = some r → r.success = true →
    result.selectedTransport = some r.transportName ∧ result.discoveryPayload = r.payload ∧
      result.deviceInfo = r.deviceInfo
  nothing : (∀ r ∈ result.attempts, r.success = false) →
    result.selectedTransport = none ∧ result.discoveryPayload = none ∧ result.deviceInfo = none

theorem discovered_iff (o : Outcome) (address : String) (now : DateTime) :
    (o.result address now).resultState = .discovered ↔ o.isFullyDiscovered = true := by
  unfold Outcome.result DiscoveryResultState.fromFailureAndSuccess
  cases o.isFullyDiscovered with
  | true => simp
  | false =>
    simp only [Bool.false_eq_true, if_false, iff_false]
    split_ifs <;> simp

theorem Chain.traced {redact : String → String}
    {deviceResult : Option DiscoveryDeviceResultRecord} {effective : List TransportAttemptConfig}
    {tr : List (Exchange lang)} {rs : List TransportAttemptResult}
    (h : Chain redact deviceResult 1 effective tr rs) (address : String) (now : DateTime) :
    Traced effective ((rs.foldl Outcome.add {}).result address now) := by
  obtain ⟨hlength, hnames, horders⟩ := h.follows
  have hattempts : ((rs.foldl Outcome.add {}).result address now).attempts = rs := by
    rw [Outcome.result, foldl_attempts, List.nil_append]
  have hstart : ({} : Outcome).Fruitless := ⟨rfl, rfl, rfl, rfl⟩
  rcases h.ends with ⟨hall, hexhausted⟩ | ⟨failed, r, rfl, hfailed, hr⟩
  · have hnone := foldl_fruitless hall hstart
    have hlast : ¬ ∃ r, rs.getLast? = some r ∧ r.success = true := by
      rintro ⟨r, hlast, hr⟩
      rw [hall r (List.mem_of_getLast? hlast)] at hr
      cases hr
    constructor <;> rw [hattempts] <;> try assumption
    · exact fun r hr => hall r (List.mem_of_mem_dropLast hr)
    · exact fun _ => hexhausted
    · rw [discovered_iff, hnone.discovered]
      exact iff_of_false Bool.false_ne_true hlast
    · exact fun r hlast' hr => absurd ⟨r, hlast', hr⟩ hlast
    · exact fun _ => ⟨hnone.transport, hnone.payload, hnone.deviceInfo⟩
  · have hnot : ¬ ∀ r' ∈ failed ++ [r], r'.success = false := by
      intro hall
      rw [hall r (List.mem_append_right _ List.mem_cons_self)] at hr
      cases hr
    have hadd : (failed ++ [r]).foldl Outcome.add {} = (failed.foldl Outcome.add {}).add r := by
      rw [List.foldl_append, List.foldl_cons, List.foldl_nil]
    constructor <;> rw [hattempts] <;> try assumption
    · rw [List.dropLast_concat]
      exact hfailed
    · exact fun hall => absurd hall hnot
    · rw [discovered_iff, hadd, Outcome.add, if_pos hr]
      exact iff_of_true rfl ⟨r, List.getLast?_concat .., hr⟩
    · intro r' hlast _
      rw [List.getLast?_concat, Option.some.injEq] at hlast
      subst hlast
      simp [Outcome.result, hadd, Outcome.add, hr]
    · exact fun hall => absurd hall hnot

/-! ## The trace of a result -/

section ends

variable {redact : String → String} {deviceResult : Option DiscoveryDeviceResultRecord}
  {config : TransportAttemptConfig} {tr : List (Exchange lang)}

theorem ends_ask {c : Statement} {r : Except Exn c.Ans} :
    Raises.Ends (ask c) tr r ↔ (∃ a, tr = [⟨c, .ok a⟩] ∧ r = .ok a) ∨
      ∃ e, tr = [⟨c, .error e⟩] ∧ r = .error (.db e) := by
  constructor
  · rintro (_ | ⟨⟨⟩⟩)
    rename_i x
    cases x with
    | ok a => exact .inl ⟨a, rfl, rfl⟩
    | error e => exact .inr ⟨e, rfl, rfl⟩
  · rintro (⟨a, rfl, rfl⟩ | ⟨e, rfl, rfl⟩) <;> exact .stmt (.pure _)

theorem ends_catching {α : Type} {m : M α} {r : Except Exn (Except Exn α)} :
    Raises.Ends (catching m) tr r ↔ ∃ x, r = .ok x ∧ Raises.Ends m tr x := by
  refine Raises.ends_tryCatch.trans ⟨?_, ?_⟩
  · rintro (⟨x, rfl, h⟩ | ⟨e, tr₁, tr₂, rfl, h₁, h₂⟩)
    · rcases Raises.ends_bind.1 h with ⟨e, he, _⟩ | ⟨a, tr₁, tr₂, rfl, h₁, h₂⟩
      · cases he
      · obtain ⟨rfl, hx⟩ := Raises.ends_pure.1 h₂
        cases hx
        exact ⟨.ok a, rfl, by rwa [List.append_nil]⟩
    · obtain ⟨rfl, rfl⟩ := Raises.ends_pure.1 h₂
      rcases Raises.ends_bind.1 h₁ with ⟨e', he, h⟩ | ⟨a, tr₁', tr₂', rfl, _, h₂'⟩
      · cases he
        exact ⟨.error e, rfl, by rwa [List.append_nil]⟩
      · cases (Raises.ends_pure.1 h₂').2
  · rintro ⟨e | a, rfl, h⟩
    · refine .inr ⟨e, tr, [], (List.append_nil tr).symm, ?_, Raises.ends_pure.2 ⟨rfl, rfl⟩⟩
      exact Raises.ends_bind.2 (.inl ⟨e, rfl, h⟩)
    · refine .inl ⟨.ok a, rfl, Raises.ends_bind.2 (.inr ⟨a, tr, [], ?_, h, ?_⟩)⟩
      · exact (List.append_nil tr).symm
      · exact Raises.ends_pure.2 ⟨rfl, rfl⟩

theorem usefulPayload_judged {payload : PyDict} {outcome : AttemptOutcome}
    (h : Raises.Ends (do
      let normalized ← match config.validatePayload with
        | none => pure none
        | some validatePayload => validatePayload payload
      pure (match normalized with
        | some info => some (payload, some (.fields info))
        | none => if identifies payload then some (payload, deviceInfoOf payload) else none))
      tr outcome) : Judged config payload tr outcome := by
  have unjudged : ∀ tr, Unjudged config payload tr → Judged config payload tr (.ok
      (if identifies payload then some (payload, deviceInfoOf payload) else none)) := by
    intro tr hun
    cases hid : identifies payload with
    | true => exact .identified hun hid
    | false => exact .unidentified hun hid
  cases hvalidate : config.validatePayload with
  | none =>
    rw [hvalidate] at h
    rcases Raises.ends_bind.1 h with ⟨e, _, h₁⟩ | ⟨normalized, tr₁, tr₂, rfl, h₁, h₂⟩
    · cases (Raises.ends_pure.1 h₁).2
    · obtain ⟨rfl, hn⟩ := Raises.ends_pure.1 h₁
      cases hn
      obtain ⟨rfl, rfl⟩ := Raises.ends_pure.1 h₂
      exact unjudged _ (.inl ⟨hvalidate, rfl⟩)
  | some validatePayload =>
    rw [hvalidate] at h
    rcases Raises.ends_bind.1 h with ⟨e, rfl, h₁⟩ | ⟨normalized, tr₁, tr₂, rfl, h₁, h₂⟩
    · exact .invalid hvalidate h₁
    · obtain ⟨rfl, rfl⟩ := Raises.ends_pure.1 h₂
      rw [List.append_nil]
      cases normalized with
      | none => exact unjudged _ (.inr ⟨validatePayload, hvalidate, h₁⟩)
      | some info => exact .validated hvalidate h₁

theorem usefulPayload_ends {outcome : AttemptOutcome}
    (h : Raises.Ends (usefulPayload config) tr outcome) :
    Attempted config tr outcome := by
  rcases Raises.ends_bind.1 h with ⟨e, rfl, h₁⟩ | ⟨_, tr₁, tr₂, rfl, hhealthy, h⟩
  · exact .unhealthy h₁
  rcases Raises.ends_bind.1 h with ⟨e, rfl, h₁⟩ | ⟨collected, tr₂, tr₃, rfl, hcollected, h⟩
  · exact .uncollected hhealthy h₁
  rcases collected with _ | _ | ⟨item, payload⟩
  · obtain ⟨rfl, rfl⟩ := Raises.ends_pure.1 h
    rw [List.append_nil]
    exact .nothing hhealthy hcollected (.inl rfl)
  · obtain ⟨rfl, rfl⟩ := Raises.ends_pure.1 h
    rw [List.append_nil]
    exact .nothing hhealthy hcollected (.inr rfl)
  · exact .collected hhealthy hcollected (List.cons_ne_nil item payload) (usefulPayload_judged h)

theorem resultOf_made (redact : String → String) (config : TransportAttemptConfig) (n : Nat)
    (outcome : AttemptOutcome) :
    Made redact config n outcome (resultOf redact config n outcome) := by
  rcases outcome with e | _ | ⟨payload, info⟩ <;> constructor <;>
    simp [resultOf, MultiTransportDiscoveryOrchestrator.TransportAttemptResult.success]

/-- An attempt never raises. -/
theorem executeTransportAttempt_ends {n : Nat} {r : Except Exn TransportAttemptResult}
    (h : Raises.Ends (executeTransportAttempt redact config n) tr r) :
    ∃ result outcome, r = .ok result ∧ Attempted config tr outcome ∧
      Made redact config n outcome result := by
  rcases Raises.ends_bind.1 h with ⟨e, _, h₁⟩ | ⟨outcome, tr₁, tr₂, rfl, h₁, h₂⟩
  · obtain ⟨x, hx, _⟩ := ends_catching.1 h₁
    cases hx
  · obtain ⟨x, hx, hends⟩ := ends_catching.1 h₁
    cases hx
    obtain ⟨rfl, rfl⟩ := Raises.ends_pure.1 h₂
    rw [List.append_nil]
    exact ⟨_, outcome, rfl, usefulPayload_ends hends, resultOf_made ..⟩

theorem startAttempt_ends {deviceResult : DiscoveryDeviceResultRecord} {transportName : String}
    {n : Nat} {r : Except Exn (Option DiscoveryTransportAttemptRecord)}
    (h : Raises.Ends (startAttempt deviceResult transportName n) tr r) :
    ∃ record, r = .ok record := by
  rcases Raises.ends_tryCatch.1 h with ⟨record, rfl, _⟩ | ⟨_, _, _, _, _, h₂⟩
  · exact ⟨record, rfl⟩
  · exact ⟨none, (Raises.ends_pure.1 h₂).2⟩

theorem finishAttempt_ends {record : Option DiscoveryTransportAttemptRecord}
    {result : MultiTransportDiscoveryOrchestrator.TransportAttemptResult} {r : Except Exn Unit}
    (h : Raises.Ends (finishAttempt redact record result) tr r) :
    r = .ok () ∧ (record = none → tr = []) := by
  cases record with
  | none =>
    obtain ⟨rfl, rfl⟩ := Raises.ends_pure.1 h
    exact ⟨rfl, fun _ => rfl⟩
  | some record =>
    rcases Raises.ends_tryCatch.1 h with ⟨_, rfl, _⟩ | ⟨_, _, _, _, _, h₂⟩
    · exact ⟨rfl, nofun⟩
    · exact ⟨(Raises.ends_pure.1 h₂).2, nofun⟩

theorem attempt_ends {n : Nat} {r : Except Exn TransportAttemptResult}
    (h : Raises.Ends (attempt redact deviceResult config n) tr r) :
    ∃ result, r = .ok result ∧ Round redact deviceResult n config tr result := by
  -- the round from where its row is, or is not, started
  have rest : ∀ (record : Option DiscoveryTransportAttemptRecord) (started rest),
      (deviceResult = none → started = [] ∧ record = none) →
      Raises.Ends (do
        let r ← executeTransportAttempt redact config n
        finishAttempt redact record r.toTransportAttemptResult
        pure r) rest r →
      ∃ result, r = .ok result ∧ Round redact deviceResult n config (started ++ rest) result := by
    intro record started rest hnone h
    rcases Raises.ends_bind.1 h with ⟨e, _, h₁⟩ | ⟨result, attempted, tr₂, rfl, h₁, h₂⟩
    · obtain ⟨_, _, he, _⟩ := executeTransportAttempt_ends h₁
      cases he
    obtain ⟨_, outcome, hr, hattempted, hmade⟩ := executeTransportAttempt_ends h₁
    cases hr
    rcases Raises.ends_bind.1 h₂ with ⟨e, _, h₃⟩ | ⟨_, finished, tr₃, rfl, h₃, h₄⟩
    · cases (finishAttempt_ends h₃).1
    obtain ⟨rfl, rfl⟩ := Raises.ends_pure.1 h₄
    rw [List.append_nil]
    exact ⟨result, rfl, started, attempted, finished, outcome, rfl,
      fun hd => ⟨(hnone hd).1, (finishAttempt_ends h₃).2 (hnone hd).2⟩, hattempted, hmade⟩
  unfold attempt at h
  cases deviceResult with
  | none => exact rest none [] tr (fun _ => ⟨rfl, rfl⟩) h
  | some deviceResult =>
    rcases Raises.ends_bind.1 h with ⟨e, _, h₁⟩ | ⟨record, started, tr₂, rfl, _, h₂⟩
    · obtain ⟨_, he⟩ := startAttempt_ends h₁
      cases he
    · exact rest record started tr₂ nofun h₂

/-- The loop makes a chain. -/
theorem attemptAll_ends {configs : List TransportAttemptConfig} :
    ∀ {n : Nat} {o : Outcome} {tr : List (Exchange lang)} {r : Except Exn Outcome},
      Raises.Ends (attemptAll redact deviceResult n o configs) tr r →
      ∃ rs, Chain redact deviceResult n configs tr rs ∧ r = .ok (rs.foldl Outcome.add o) := by
  induction configs with
  | nil =>
    intro n o tr r h
    obtain ⟨rfl, rfl⟩ := Raises.ends_pure.1 h
    exact ⟨[], .done, rfl⟩
  | cons config configs ih =>
    intro n o tr r h
    rcases Raises.ends_bind.1 h with ⟨e, _, h₁⟩ | ⟨result, tr₁, tr₂, rfl, h₁, h₂⟩
    · obtain ⟨_, he, _⟩ := attempt_ends h₁
      cases he
    obtain ⟨_, hr, hround⟩ := attempt_ends h₁
    cases hr
    split at h₂
    · rename_i hr
      obtain ⟨rfl, rfl⟩ := Raises.ends_pure.1 h₂
      rw [List.append_nil]
      exact ⟨[result], .success hround hr, rfl⟩
    · rename_i hr
      rw [Bool.not_eq_true] at hr
      obtain ⟨rs, hchain, rfl⟩ := ih h₂
      exact ⟨result :: rs, .failure hround hr hchain, rfl⟩

end ends

/-- There is something to reorder, and the hosts are probed. -/
def Probes (o : Orchestrator) (probeServices : Option Bool)
    (configs : List TransportAttemptConfig) : Prop :=
  probeServices.getD o.enableServiceProbing = true ∧ 1 < configs.length

/-- The order of a chain, by what the probe did: the configured one, unless it answered and the
orchestrator may reorder; then the transports of available services come first. -/
inductive InOrder (o : Orchestrator) (address : String) (probeServices : Option Bool)
    (configs : List TransportAttemptConfig) :
    List (Exchange lang) → List TransportAttemptConfig → Prop
  | unprobed (h : ¬ Probes o probeServices configs) :
      InOrder o address probeServices configs [] configs
  | failed {tr : List (Exchange lang)} {e : Exn} (hprobes : Probes o probeServices configs)
      (h : Raises.Ends (o.probeHost address (servicesToProbe configs)) tr (.error e)) :
      InOrder o address probeServices configs tr configs
  | kept {tr : List (Exchange lang)} {services : List TransportService}
      (hprobes : Probes o probeServices configs)
      (h : Raises.Ends (o.probeHost address (servicesToProbe configs)) tr (.ok services))
      (hallow : o.allowReorderTransports = false) :
      InOrder o address probeServices configs tr configs
  | reordered {tr : List (Exchange lang)} {services : List TransportService}
      (hprobes : Probes o probeServices configs)
      (h : Raises.Ends (o.probeHost address (servicesToProbe configs)) tr (.ok services))
      (hallow : o.allowReorderTransports = true) :
      InOrder o address probeServices configs tr (reorder configs services)

theorem reorder_perm (configs : List TransportAttemptConfig) (services : List TransportService) :
    (reorder configs services).Perm configs :=
  List.filter_append_perm (available services) configs

theorem effectiveConfigs_ends {o : Orchestrator} {address : String} {probeServices : Option Bool}
    {configs : List TransportAttemptConfig} {tr : List (Exchange lang)}
    {r : Except Exn (List TransportAttemptConfig)}
    (h : Raises.Ends (effectiveConfigs o address configs probeServices) tr r) :
    ∃ effective, r = .ok effective ∧ InOrder o address probeServices configs tr effective := by
  unfold effectiveConfigs at h
  split at h
  · rename_i hprobes
    rw [Bool.and_eq_true, decide_eq_true_eq] at hprobes
    rcases Raises.ends_tryCatch.1 h with ⟨effective, rfl, h₀⟩ | ⟨e, tr₁, tr₂, rfl, h₁, h₂⟩
    · rcases Raises.ends_bind.1 h₀ with ⟨e, he, _⟩ | ⟨services, tr₁, tr₂, rfl, h₁, h₂⟩
      · cases he
      obtain ⟨rfl, he⟩ := Raises.ends_pure.1 h₂
      rw [List.append_nil]
      cases he
      cases hallow : o.allowReorderTransports with
      | true => exact ⟨_, rfl, .reordered hprobes h₁ hallow⟩
      | false => exact ⟨_, rfl, .kept hprobes h₁ hallow⟩
    · obtain ⟨rfl, rfl⟩ := Raises.ends_pure.1 h₂
      rw [List.append_nil]
      rcases Raises.ends_bind.1 h₁ with ⟨e', he, h⟩ | ⟨_, _, _, _, _, h₂'⟩
      · cases he
        exact ⟨configs, rfl, .failed hprobes h⟩
      · cases (Raises.ends_pure.1 h₂').2
  · rename_i hprobes
    rw [Bool.and_eq_true, decide_eq_true_eq] at hprobes
    obtain ⟨rfl, rfl⟩ := Raises.ends_pure.1 h
    exact ⟨configs, rfl, .unprobed hprobes⟩

/-- The result is that of a chain on the trace, behind what the probe did and before the clock. -/
def Explained (o : Orchestrator) (redact : String → String) (address : String)
    (configs : List TransportAttemptConfig) (deviceResult : Option DiscoveryDeviceResultRecord)
    (probeServices : Option Bool) (tr : List (Exchange lang))
    (result : MultiTransportDiscoveryResult) : Prop :=
  ∃ probed chained now effective, tr = probed ++ (chained ++ [⟨.ext .utcNow, .ok now⟩]) ∧
    InOrder o address probeServices configs probed effective ∧
      Chain redact deviceResult 1 effective chained result.attempts ∧ Traced effective result

/-- The clock does not fail. -/
def ClockAnswers (tr : List (Exchange lang)) : Prop :=
  ∀ e, (⟨.ext .utcNow, .error e⟩ : Exchange lang) ∉ tr

/-- `discover_with_fallback` returns, and its result is explained by what was answered. -/
theorem discoverWithFallback_ends {o : Orchestrator} {redact : String → String} {address : String}
    {configs : List TransportAttemptConfig} {deviceResult : Option DiscoveryDeviceResultRecord}
    {probeServices : Option Bool} {tr : List (Exchange lang)}
    {r : Except Exn MultiTransportDiscoveryResult} (hclock : ClockAnswers tr)
    (h : Raises.Ends
      (discoverWithFallback o redact address configs deviceResult probeServices) tr r) :
    ∃ result, r = .ok result ∧
      Explained o redact address configs deviceResult probeServices tr result := by
  rcases Raises.ends_bind.1 h with ⟨e, _, h₁⟩ | ⟨effective, probed, tr₂, rfl, h₁, h⟩
  · obtain ⟨_, he, _⟩ := effectiveConfigs_ends h₁
    cases he
  obtain ⟨_, he, horder⟩ := effectiveConfigs_ends h₁
  cases he
  rcases Raises.ends_bind.1 h with ⟨e, _, h₂⟩ | ⟨outcome, chained, tr₃, rfl, h₂, h⟩
  · obtain ⟨_, _, he⟩ := attemptAll_ends h₂
    cases he
  obtain ⟨attempts, hchain, he⟩ := attemptAll_ends h₂
  cases he
  have hattempts : ∀ now, (((attempts.foldl Outcome.add {}).result address now).attempts) =
      attempts := by
    intro now
    rw [Outcome.result, foldl_attempts, List.nil_append]
  rcases Raises.ends_bind.1 h with ⟨e, _, h₃⟩ | ⟨now, tr₄, tr₅, rfl, h₃, h₄⟩
  · obtain ⟨_, _, he⟩ | ⟨error, htr, _⟩ := ends_ask.1 h₃
    · cases he
    · exact absurd (by simp [htr]) (hclock error)
  obtain ⟨_, rfl, hnow⟩ | ⟨_, _, he⟩ := ends_ask.1 h₃
  · cases hnow
    obtain ⟨rfl, rfl⟩ := Raises.ends_pure.1 h₄
    refine ⟨_, rfl, probed, chained, now, effective, by rw [List.append_nil], horder, ?_,
      hchain.traced address now⟩
    rwa [hattempts]
  · cases he

/-- The fallback of the execution, which does not probe, is explained in the same way. -/
theorem executionFallback_explained (o : Orchestrator) {redact : String → String}
    (address : String)
    {configs : List MultiTransportDiscoveryOrchestrator.TransportAttemptConfig}
    {deviceResult : DiscoveryDeviceResultRecord} {tr : List (Exchange lang)}
    {r : Except Exn MultiTransportDiscoveryOrchestrator.MultiTransportDiscoveryResult}
    (hclock : ClockAnswers tr)
    (h : Raises.Ends (MultiTransportDiscoveryOrchestrator.discoverWithFallback redact configs
      deviceResult) tr r) :
    ∃ result, r = .ok result.seen ∧ Explained o redact address (configs.map configOf)
      (some deviceResult) (some false) tr result := by
  rw [← discoverWithFallback_configOf o redact address, map_eq_pure_bind] at h
  rcases Raises.ends_bind.1 h with ⟨e, _, h₁⟩ | ⟨result, tr₁, tr₂, rfl, h₁, h₂⟩
  · obtain ⟨_, he, _⟩ := discoverWithFallback_ends hclock h₁
    cases he
  · obtain ⟨rfl, rfl⟩ := Raises.ends_pure.1 h₂
    rw [List.append_nil] at hclock ⊢
    obtain ⟨_, hr, hexplained⟩ := discoverWithFallback_ends hclock h₁
    cases hr
    exact ⟨result, rfl, hexplained⟩

/-! ## The rows of the attempts -/

/-- What matters of the attempts of a device result: all of it. -/
def attemptsOf (id : UUID) : Focus schema where
  What := Row
  of
    | .attempts, r => if r.deviceResultId = id then some r else none
    | _, _ => none

/-- The database does not fail, and nobody else touches the attempts of the device result. -/
def recording (id : UUID) {Sid : Type} [DecidableEq Sid] (s : Sid) :
    Prog.Contract lang (Store schema Sid) where
  rely _ σ σ' := (∀ t, (attemptsOf id).Agree (σ'.db t) (σ.db t)) ∧ σ'.log s = σ.log s ∧
    σ'.dirty s = σ.dirty s
  act σ c r σ' := ∃ a, r = .ok a ∧ Store.Exec s σ c (.ok a) σ'
  guar _ _ := True

/-- What a collector and the probe may do: they write no attempts and end no transaction. -/
def Apart (c : Statement) : Prop :=
  c.OffTable Table.attempts ∧ match c with
    | .change t _ f => ∀ r, schema.key t (f r) = schema.key t r
    | _ => True

/-- The row of an attempt. -/
structure RowFor (redact : String → String) (deviceResult : DiscoveryDeviceResultRecord)
    (row : DiscoveryTransportAttemptRecord) (r : TransportAttemptResult) : Prop where
  tenantId : row.tenantId = deviceResult.tenantId
  deviceResultId : row.deviceResultId = deviceResult.id
  transport : row.transport = r.transportName
  attemptOrder : row.attemptOrder = r.attemptOrder
  result : row.result = if r.success then .success else .failed
  failureCode : row.failureCode = if r.success then none else r.failureCode
  failureMessage : row.failureMessage =
    if r.success then none else r.failureMessage.bind (safeFailureMessage redact)
  completed : row.completedAt.isSome = true
  correlationId : row.correlationId = deviceResult.correlationId

/-- The rows shown by `before`, and these. -/
def withRows (before : UUID → Option DiscoveryTransportAttemptRecord)
    (rows : List DiscoveryTransportAttemptRecord) (id : UUID) :
    Option DiscoveryTransportAttemptRecord :=
  (rows.find? (·.id == id)).or (before id)

/-- New rows, no two with one key. -/
structure New (before : UUID → Option DiscoveryTransportAttemptRecord)
    (rows : List DiscoveryTransportAttemptRecord) : Prop where
  nodup : (rows.map (·.id)).Nodup
  fresh : ∀ row ∈ rows, before row.id = none

theorem withRows_append {before : UUID → Option DiscoveryTransportAttemptRecord}
    {rows : List DiscoveryTransportAttemptRecord} {row : DiscoveryTransportAttemptRecord}
    (h : withRows before rows row.id = none) :
    withRows before (rows ++ [row]) =
      Function.update (withRows before rows) row.id (some row) := by
  funext id
  rw [withRows, Option.or_eq_none_iff] at h
  rw [Function.update_apply, withRows, List.find?_append]
  split
  · rename_i hid
    subst hid
    simp [h.1]
  · rename_i hid
    have hne : (row.id == id) = false := beq_false_of_ne (Ne.symm hid)
    simp [hne, withRows]

theorem New.append {before : UUID → Option DiscoveryTransportAttemptRecord}
    {rows : List DiscoveryTransportAttemptRecord} {row : DiscoveryTransportAttemptRecord}
    (h : New before rows) (hrow : withRows before rows row.id = none) :
    New before (rows ++ [row]) := by
  rw [withRows, Option.or_eq_none_iff, List.find?_eq_none] at hrow
  constructor
  · rw [List.map_append, List.map_singleton, List.nodup_append_comm]
    refine List.nodup_cons.2 ⟨fun hmem => ?_, h.nodup⟩
    obtain ⟨row', hrow', hid⟩ := List.mem_map.1 hmem
    exact hrow.1 row' hrow' (by simp [hid])
  · intro row' hmem
    rcases List.mem_append.1 hmem with hold | hnew
    · exact h.fresh row' hold
    · rw [List.mem_singleton.1 hnew]
      exact hrow.2

section rows

variable {Sid : Type} [DecidableEq Sid] {s : Sid} {σ σ' : Store schema Sid}
  {deviceResult : DiscoveryDeviceResultRecord} {redact : String → String} {id : UUID}
  {shown : UUID → Option DiscoveryTransportAttemptRecord}

/-- The attempts the session has of the device result, all of them sent. -/
def Has (id : UUID) (s : Sid) (shown : UUID → Option DiscoveryTransportAttemptRecord)
    (σ : Store schema Sid) : Prop :=
  ∃ U W, Table.attempts ∉ U ∧ W .attempts = shown ∧ σ.Knows (attemptsOf id) s W U

theorem Has.rely {c : Statement} (h : Has id s shown σ) (hrely : (recording id s).rely c σ σ') :
    Has id s shown σ' := by
  obtain ⟨U, W, hU, hW, hknows⟩ := h
  exact ⟨U, W, hU, hW, hknows.rely hrely.1 hrely.2.1 hrely.2.2⟩

/-- Nothing matters of the other tables. -/
theorem attemptsOf_none {t : Table} (ht : t ≠ .attempts) (r : Row t) :
    (attemptsOf id).of t r = none := by
  cases t with
  | attempts => exact absurd rfl ht
  | _ => rfl

theorem shown_none {t : Table} (ht : t ≠ .attempts) (T : Tbl (Row t) (schema.key t)) (k : Nat) :
    (attemptsOf id).shown T k = none := by
  rw [Focus.shown, Option.bind_eq_none_iff]
  exact fun r _ => attemptsOf_none ht r

theorem respects_other {t : Table} (ht : t ≠ .attempts) {f : Row t → Row t}
    (hkey : ∀ r, schema.key t (f r) = schema.key t r) : (attemptsOf id).Respects (t := t) f where
  congr r r' _ := (attemptsOf_none ht (f r)).trans (attemptsOf_none ht (f r')).symm
  none r _ := attemptsOf_none ht (f r)
  key := hkey

/-- A statement that writes no attempts keeps them. -/
theorem Has.apart {c : Statement} {a : c.Ans} (h : Has id s shown σ) (hc : Apart c)
    (hexec : Store.Exec s σ c (.ok a) σ') : Has id s shown σ' := by
  obtain ⟨U, W, hU, hW, hknows⟩ := h
  have hrows : ∀ t k, (attemptsOf id).shown (σ'.pending s t) k = W t k := by
    intro t k
    by_cases ht : t = .attempts
    · subst ht
      rw [hexec.pending_eq hc.1, hknows.rows]
    · rw [shown_none ht, ← hknows.rows, shown_none ht]
  cases c with
  | select t p => exact ⟨U, W, hU, hW, hrows, by rw [hexec.2]; exact hknows.unsent⟩
  | get t k => exact ⟨U, W, hU, hW, hrows, by rw [hexec.2]; exact hknows.unsent⟩
  | update site t p f => exact ⟨U, W, hU, hW, hrows, by rw [hexec.2.2]; exact hknows.unsent⟩
  | insert t r => exact ⟨U, W, hU, hW, hrows, by rw [hexec.2.2]; exact hknows.unsent⟩
  | change t k f =>
    have ht : t ≠ .attempts := hc.1
    refine ⟨t :: U, W, ?_, hW, ?_⟩
    · rw [List.mem_cons, not_or]
      exact ⟨Ne.symm ht, hU⟩
    · rw [show σ' = _ from hexec]
      exact hknows.change_keep (respects_other ht hc.2) fun r =>
        (attemptsOf_none ht _).trans (attemptsOf_none ht r).symm
  | flush =>
    rw [hexec.2]
    exact ⟨[], W, List.not_mem_nil, hW, hknows.flush⟩
  | commit => exact hc.1.elim
  | rollback => exact hc.1.elim
  | ext x => rw [show σ' = σ from hexec]; exact ⟨U, W, hU, hW, hknows⟩

theorem sat_apart {α : Type} {m : M α} (hm : Raises.All Apart m) (h : Has id s shown σ) :
    Raises.Sat (recording id s) m σ (fun _ => Has id s shown) fun _ => Has id s shown :=
  Raises.All.sat (fun _ _ _ hrely hhas => hhas.rely hrely)
    (by rintro c σ₁ _ σ₂ hc hhas ⟨a, rfl, hexec⟩; exact hhas.apart hc hexec)
    (fun _ _ _ _ => trivial) hm h

/-- One statement of the repository. -/
theorem sat_statement {I : Store schema Sid → Prop} {c : Statement}
    {Q : c.Ans → Store schema Sid → Prop} (h : ∀ {σ₁}, (recording id s).rely c σ σ₁ → I σ₁)
    (hc : ∀ σ₁ a σ₂, I σ₁ → Store.Exec s σ₁ c (.ok a) σ₂ → Q a σ₂) :
    Raises.Sat (recording id s) (ask c) σ Q fun _ _ => False := by
  refine sat_ask fun σ₁ hrely => ⟨trivial, ?_, ?_⟩
  · rintro a σ₂ ⟨a', ha, hexec⟩
    cases ha
    exact hc σ₁ a σ₂ (h hrely) hexec
  · rintro e σ₂ ⟨a', ha, _⟩
    cases ha

theorem sat_outside {x : Ext} (h : Has id s shown σ) :
    Raises.Sat (recording id s) (ask (.ext x)) σ (fun _ => Has id s shown) fun _ _ => False := by
  refine sat_statement h.rely fun σ₁ a σ₂ h₁ hexec => ?_
  rw [show σ₂ = σ₁ from hexec]
  exact h₁

/-- The row of an attempt that has started. -/
def startedRow (deviceResult : DiscoveryDeviceResultRecord) (transportName : String)
    (attemptOrder : Nat) (id : UUID) (now : DateTime) : DiscoveryTransportAttemptRecord where
  id := id
  tenantId := deviceResult.tenantId
  deviceResultId := deviceResult.id
  transport := transportName
  attemptOrder := attemptOrder
  result := .running
  startedAt := now
  correlationId := deviceResult.correlationId

theorem startAttempt_recording {transportName : String} {n : Nat}
    (h : Has deviceResult.id s shown σ) :
    Raises.Sat (recording deviceResult.id s) (startAttempt deviceResult transportName n) σ
      (fun record σ' => ∃ row_id now, shown row_id = none ∧
        record = some (startedRow deviceResult transportName n row_id now) ∧
        Has deviceResult.id s (Function.update shown row_id
          (some (startedRow deviceResult transportName n row_id now))) σ')
      fun _ _ => False := by
  refine Raises.sat_tryCatch (Raises.sat_bind (Raises.sat_bind ((sat_outside h).mono
    (fun row_id σ₁ h₁ => ?_) fun _ _ he => he.elim)))
  refine Raises.sat_bind ((sat_outside h₁).mono (fun now σ₂ h₂ => ?_) fun _ _ he => he.elim)
  refine Raises.sat_bind ((sat_statement h₂.rely fun σ₃ a σ₄ h₃ hexec => ?_).mono
    (fun _ _ hq => hq) fun _ _ he => he.elim)
  obtain ⟨U, W, hU, rfl, hknows⟩ := h₃
  obtain ⟨hnot, _, rfl⟩ := hexec
  refine Raises.sat_pure (Raises.sat_pure ⟨row_id, now, hknows.fresh hU hnot, rfl, U, _, hU, ?_,
    hknows.insert hU _⟩)
  rw [Function.update_self]
  exact congrArg (Function.update _ _) (if_pos rfl)

/-- The row of an attempt that has finished. -/
def finishedRow (row : DiscoveryTransportAttemptRecord) (result : AttemptResult)
    (failureCode : Option DiscoveryFailureCode) (failureMessage : Option String)
    (now : DateTime) (r : DiscoveryTransportAttemptRecord) : DiscoveryTransportAttemptRecord :=
  { r with
    result := result
    failureCode := failureCode
    failureMessage := failureMessage
    completedAt := some now
    durationMs := some (DiscoveryTransportAttemptRepository.durationMs row.startedAt now) }

/-- A change of a row that is there, sent. -/
theorem change_recording {row : DiscoveryTransportAttemptRecord}
    {f : DiscoveryTransportAttemptRecord → DiscoveryTransportAttemptRecord}
    (hid : ∀ r, (f r).id = r.id)
    (hresult : ∀ r, (f r).deviceResultId = r.deviceResultId)
    (h : Has id s (Function.update shown row.id (some row)) σ) :
    Raises.Sat (recording id s) (do change .attempts row.id f; flush) σ
      (fun _ => Has id s (Function.update shown row.id (some (f row)))) fun _ _ => False := by
  have hof : ∀ r, (attemptsOf id).of .attempts (f r) =
      ((attemptsOf id).of .attempts r).map f := by
    intro r
    change (if (f r).deviceResultId = id then some (f r) else none) =
      (if r.deviceResultId = id then some r else none).map f
    rw [hresult]
    split <;> rfl
  refine Raises.sat_bind ((sat_statement (Q := fun _ σ' => ∃ U W,
    W .attempts = Function.update shown row.id (some (f row)) ∧
      σ'.Knows (attemptsOf id) s W U) h.rely ?_).mono ?_ fun _ _ he => he)
  · rintro σ₁ _ σ₂ ⟨U, W, _, hW, hknows⟩ hexec
    have hshown : (attemptsOf id).shown (σ₁.pending s .attempts) row.id = some row := by
      rw [hknows.rows, hW, Function.update_self]
    obtain ⟨r, hget, hr⟩ := Option.bind_eq_some_iff.1 hshown
    have hsame : r = row := by
      change (if r.deviceResultId = id then some r else none) = some row at hr
      split at hr
      · exact Option.some.inj hr
      · cases hr
    subst hsame
    rw [show σ₂ = _ from hexec]
    refine ⟨_, _, ?_, hknows.change (.of_map hof hid) hget⟩
    have hnew : (attemptsOf id).of .attempts (f r) = some (f r) :=
      (hof r).trans (congrArg (Option.map f) hr)
    rw [Function.update_self, hW]
    exact (congrArg (Function.update (Function.update shown r.id (some r)) r.id) hnew).trans
      (Function.update_idem ..)
  · rintro _ σ₁ ⟨U, W, hW, hknows⟩
    refine (sat_statement (I := fun σ' => σ'.Knows (attemptsOf id) s W U)
      (fun hrely => hknows.rely hrely.1 hrely.2.1 hrely.2.2) ?_)
    rintro σ₂ _ σ₃ h₂ ⟨_, rfl⟩
    exact ⟨[], W, List.not_mem_nil, hW, h₂.flush⟩

theorem finishAttempt_recording {row : DiscoveryTransportAttemptRecord}
    {r : TransportAttemptResult} (h : Has id s (Function.update shown row.id (some row)) σ) :
    Raises.Sat (recording id s) (finishAttempt redact (some row) r.toTransportAttemptResult) σ
      (fun _ σ' => ∃ now, Has id s (Function.update shown row.id (some (finishedRow row
        (if r.success then .success else .failed) (if r.success then none else r.failureCode)
        (if r.success then none else r.failureMessage.bind (safeFailureMessage redact)) now row)))
        σ') fun _ _ => False := by
  have hfinish : ∀ result failureCode failureMessage, Raises.Sat (recording id s)
      (DiscoveryTransportAttemptRepository.finish row result failureCode failureMessage) σ
      (fun _ σ' => ∃ now, Has id s (Function.update shown row.id
        (some (finishedRow row result failureCode failureMessage now row))) σ')
      fun _ _ => False := by
    intro result failureCode failureMessage
    refine Raises.sat_bind ((sat_outside h).mono (fun now σ₁ h₁ => ?_) fun _ _ he => he)
    exact (change_recording (f := finishedRow row result failureCode failureMessage now)
      (fun _ => rfl) (fun _ => rfl) h₁).mono (fun _ _ h₂ => ⟨now, h₂⟩) fun _ _ he => he
  refine Raises.sat_tryCatch ?_
  cases hr : r.success with
  | true =>
    exact (hfinish _ _ _).mono (fun _ _ hq => hq) fun _ _ he => he.elim
  | false =>
    exact (hfinish _ _ _).mono (fun _ _ hq => hq) fun _ _ he => he.elim

end rows

/-- A configuration whose collector writes no attempts. -/
structure TransportAttemptConfig.Apart (config : TransportAttemptConfig) : Prop where
  healthCheck : Raises.All Fallback.Apart config.healthCheck
  collect : Raises.All Fallback.Apart config.collect
  validatePayload : ∀ validatePayload, config.validatePayload = some validatePayload →
    ∀ payload, Raises.All Fallback.Apart (validatePayload payload)

theorem usefulPayload_apart {config : TransportAttemptConfig} (h : config.Apart) :
    Raises.All Apart (usefulPayload config) := by
  refine Raises.all_bind h.healthCheck fun _ => Raises.all_bind h.collect fun collected => ?_
  rcases collected with _ | _ | ⟨item, payload⟩
  · exact trivial
  · exact trivial
  · cases hvalidate : config.validatePayload with
    | none => exact trivial
    | some validatePayload =>
      exact Raises.all_bind (h.validatePayload _ hvalidate _) fun _ => trivial

section loop

variable {G : Type} {C : Prog.Contract lang G} {redact : String → String}
  {deviceResult : Option DiscoveryDeviceResultRecord}

/-- A loop whose rounds keep `I` of the attempts made so far keeps it of all of them. -/
theorem attemptAll_sat {I : List TransportAttemptResult → G → Prop}
    {configs : List TransportAttemptConfig}
    (hround : ∀ config ∈ configs, ∀ rs n g, I rs g →
      Raises.Sat C (attempt redact deviceResult config n) g (fun r g' => I (rs ++ [r]) g')
        fun _ _ => False)
    (rs : List TransportAttemptResult) (n : Nat) (o : Outcome) {g : G} (hg : I rs g) :
    Raises.Sat C (attemptAll redact deviceResult n o configs) g
      (fun o' g' => ∃ more, o' = more.foldl Outcome.add o ∧ I (rs ++ more) g')
      fun _ _ => False := by
  induction configs generalizing rs n o g with
  | nil => exact Raises.sat_pure ⟨[], rfl, by rwa [List.append_nil]⟩
  | cons config configs ih =>
    rw [List.forall_mem_cons] at hround
    refine Raises.sat_bind ((hround.1 rs n g hg).mono (fun r g₁ hI => ?_) fun _ _ he => he)
    split
    · exact Raises.sat_pure ⟨[r], rfl, hI⟩
    · refine (ih hround.2 (rs ++ [r]) (n + 1) (o.add r) hI).mono ?_ fun _ _ he => he
      rintro o' g' ⟨more, rfl, hmore⟩
      exact ⟨r :: more, rfl, by rwa [List.append_assoc] at hmore⟩

/-- What the collector keeps, the attempt keeps. -/
theorem executeTransportAttempt_sat {I : G → Prop} {config : TransportAttemptConfig} {n : Nat}
    {g : G} (h : Raises.Sat C (usefulPayload config) g (fun _ => I) fun _ => I) :
    Raises.Sat C (executeTransportAttempt redact config n) g
      (fun r g' => (r.transportName = config.transportName ∧ r.attemptOrder = n) ∧ I g')
      fun _ _ => False := by
  have hmade := resultOf_made redact config n
  refine Raises.sat_bind (sat_catching (h.mono (fun outcome g' hI => ?_) fun e g' hI => ?_))
  · exact Raises.sat_pure ⟨⟨(hmade _).transport, (hmade _).order⟩, hI⟩
  · exact Raises.sat_pure ⟨⟨(hmade _).transport, (hmade _).order⟩, hI⟩

/-- What the probe keeps, the choice of the order keeps. -/
theorem effectiveConfigs_sat {I : G → Prop} {o : Orchestrator} {address : String}
    {configs : List TransportAttemptConfig} {probeServices : Option Bool}
    (hprobe : ∀ services g, I g → Raises.Sat C (o.probeHost address services) g (fun _ => I)
      fun _ => I) {g : G} (hg : I g) :
    Raises.Sat C (effectiveConfigs o address configs probeServices) g
      (fun effective g' => effective.Perm configs ∧ I g') fun _ _ => False := by
  unfold effectiveConfigs
  split
  · refine Raises.sat_tryCatch (Raises.sat_bind ((hprobe _ g hg).mono (fun services g' hI => ?_)
      fun e g' hI => Raises.sat_pure ⟨.refl _, hI⟩))
    refine Raises.sat_pure ⟨?_, hI⟩
    split
    · exact reorder_perm configs services
    · exact .refl _
  · exact Raises.sat_pure ⟨.refl _, hg⟩

end loop

section rows

variable {Sid : Type} [DecidableEq Sid] {s : Sid} {σ σ' : Store schema Sid}
  {deviceResult : DiscoveryDeviceResultRecord} {redact : String → String}

theorem attempt_recording {config : TransportAttemptConfig} (hconfig : config.Apart) {n : Nat}
    {shown : UUID → Option DiscoveryTransportAttemptRecord}
    (h : Has deviceResult.id s shown σ) :
    Raises.Sat (recording deviceResult.id s) (attempt redact (some deviceResult) config n) σ
      (fun r σ' => ∃ row, RowFor redact deviceResult row r ∧ shown row.id = none ∧
        Has deviceResult.id s (Function.update shown row.id (some row)) σ')
      fun _ _ => False := by
  refine Raises.sat_bind ((startAttempt_recording h).mono ?_ fun _ _ he => he)
  rintro _ σ₁ ⟨row_id, started, hfresh, rfl, h₁⟩
  refine Raises.sat_bind ((executeTransportAttempt_sat
    (sat_apart (usefulPayload_apart hconfig) h₁)).mono ?_ fun _ _ he => he)
  rintro r σ₂ ⟨⟨htransport, horder⟩, h₂⟩
  refine Raises.sat_bind ((finishAttempt_recording h₂).mono ?_ fun _ _ he => he)
  rintro _ σ₃ ⟨finished, h₃⟩
  exact Raises.sat_pure ⟨finishedRow _ _ _ _ finished
    (startedRow deviceResult config.transportName n row_id started),
    ⟨rfl, rfl, htransport.symm, horder.symm, rfl, rfl, rfl, rfl, rfl⟩, hfresh, h₃⟩

/-- What a commit of the session would leave of the attempts of the device result. -/
def persisted (id : UUID) (s : Sid) (σ : Store schema Sid) (rowId : UUID) :
    Option DiscoveryTransportAttemptRecord :=
  (attemptsOf id).shown (((σ.flush s).commit s).db .attempts) rowId

/-- Each attempt has a row, in this order, and no other row was added. -/
def Recorded (redact : String → String) (deviceResult : DiscoveryDeviceResultRecord)
    (before after : UUID → Option DiscoveryTransportAttemptRecord)
    (attempts : List TransportAttemptResult) : Prop :=
  ∃ rows, List.Forall₂ (RowFor redact deviceResult) rows attempts ∧ New before rows ∧
    after = withRows before rows

/-- The session has sent what it changed of attempts. -/
def Ready (s : Sid) (σ : Store schema Sid) : Prop :=
  ∀ c ∈ σ.dirty s, c.table ≠ Table.attempts ∧ ∀ r, schema.key c.table (c.apply r) =
    schema.key c.table r

theorem Ready.has (h : Ready s σ) (id : UUID) : Has id s (persisted id s σ) σ := by
  have hknows : σ.Knows (attemptsOf id) s (fun t => (attemptsOf id).shown (σ.pending s t))
      ((σ.dirty s).map (·.table)) := {
    rows := fun _ _ => rfl
    unsent := fun c hc => ⟨List.mem_map_of_mem hc, respects_other (h c hc).1 (h c hc).2⟩ }
  refine ⟨_, _, ?_, ?_, hknows⟩
  · intro hmem
    obtain ⟨c, hc, ht⟩ := List.mem_map.1 hmem
    exact (h c hc).1 ht
  · funext rowId
    exact (hknows.commit_db .attempts rowId).symm

theorem Has.persisted_eq {id : UUID} {shown : UUID → Option DiscoveryTransportAttemptRecord}
    (h : Has id s shown σ) : persisted id s σ = shown := by
  obtain ⟨U, W, _, rfl, hknows⟩ := h
  exact funext (hknows.commit_db .attempts)

theorem discoverWithFallback_recorded {o : Orchestrator} {address : String}
    {configs : List TransportAttemptConfig} {probeServices : Option Bool}
    (hconfigs : ∀ config ∈ configs, config.Apart)
    (hprobe : ∀ address services, Raises.All Apart (o.probeHost address services))
    (hready : Ready s σ) :
    Raises.Sat (recording deviceResult.id s)
      (discoverWithFallback o redact address configs (some deviceResult) probeServices) σ
      (fun result σ' => Recorded redact deviceResult (persisted deviceResult.id s σ)
        (persisted deviceResult.id s σ') result.attempts) fun _ _ => False := by
  have hstart := hready.has deviceResult.id
  let before := persisted deviceResult.id s σ
  let I := fun (rs : List TransportAttemptResult) (σ' : Store schema Sid) =>
    ∃ rows, List.Forall₂ (RowFor redact deviceResult) rows rs ∧ New before rows ∧
      Has deviceResult.id s (withRows before rows) σ'
  refine Raises.sat_bind ((effectiveConfigs_sat (I := Has deviceResult.id s before)
    (fun services _ hhas => sat_apart (hprobe _ _) hhas) hstart).mono ?_ fun _ _ he => he)
  rintro effective σ₁ ⟨hperm, h₁⟩
  have heffective : ∀ config ∈ effective, config.Apart :=
    fun config hmem => hconfigs config (hperm.mem_iff.1 hmem)
  have hround : ∀ config ∈ effective, ∀ rs n g, I rs g →
      Raises.Sat (recording deviceResult.id s) (attempt redact (some deviceResult) config n) g
        (fun r g' => I (rs ++ [r]) g') fun _ _ => False := by
    rintro config hmem rs n g ⟨rows, hrows, hnew, hhas⟩
    refine (attempt_recording (heffective config hmem) hhas).mono ?_ fun _ _ he => he
    rintro r g' ⟨row, hrow, hfresh, hhas'⟩
    refine ⟨rows ++ [row], ?_, hnew.append hfresh, ?_⟩
    · exact List.rel_append hrows (.cons hrow .nil)
    · rw [withRows_append hfresh]
      exact hhas'
  refine Raises.sat_bind ((attemptAll_sat hround [] 1 {} ⟨[], .nil, ⟨List.nodup_nil, ?_⟩,
    h₁⟩).mono ?_ fun _ _ he => he)
  · exact fun _ hrow => absurd hrow List.not_mem_nil
  rintro outcome σ₂ ⟨attempts, rfl, rows, hrows, hnew, h₂⟩
  refine Raises.sat_bind ((sat_outside h₂).mono (fun now σ₃ h₃ => ?_) fun _ _ he => he)
  refine Raises.sat_pure ⟨rows, ?_, hnew, h₃.persisted_eq⟩
  rw [Outcome.result, foldl_attempts, List.nil_append]
  exact hrows

end rows

/-! ## The theorem -/

/-- Where the database does not fail, the clock does not. -/
theorem recording_clock {Sid : Type} [DecidableEq Sid] {id : UUID} {s : Sid} {c : Statement}
    {g g' : Store schema Sid × List (Exchange lang)} {r : Except DbError c.Ans}
    (h : ClockAnswers g.2) (hact : (recording id s).traced.act g c r g') : ClockAnswers g'.2 := by
  obtain ⟨⟨a, rfl, _⟩, htr⟩ := hact
  intro e hmem
  rw [htr, List.mem_append, List.mem_singleton] at hmem
  rcases hmem with hmem | heq
  · exact h e hmem
  · cases heq

/-- Whatever the collectors and the probe do, `discover_with_fallback` returns, with the result of
a chain of attempts, in the order the probe led to and each with the end that its collector came
to; and in a session whose database does not fail, it leaves a row for each of them. -/
theorem fallback_traced (o : Orchestrator) (redact : String → String) (address : String)
    (configs : List TransportAttemptConfig) (probeServices : Option Bool) :
    (∀ deviceResult tr r, ClockAnswers tr →
      Raises.Ends (discoverWithFallback o redact address configs deviceResult probeServices) tr r →
      ∃ result, r = .ok result ∧
        Explained o redact address configs deviceResult probeServices tr result) ∧
    ∀ {Sid : Type} [DecidableEq Sid] (s : Sid) (σ : Store schema Sid)
      (deviceResult : DiscoveryDeviceResultRecord),
      (∀ config ∈ configs, config.Apart) →
      (∀ address services, Raises.All Apart (o.probeHost address services)) → Ready s σ →
      Raises.Sat (recording deviceResult.id s).traced
        (discoverWithFallback o redact address configs (some deviceResult) probeServices) (σ, [])
        (fun result g =>
          Explained o redact address configs (some deviceResult) probeServices g.2 result ∧
          Recorded redact deviceResult (persisted deviceResult.id s σ)
            (persisted deviceResult.id s g.1) result.attempts) fun _ _ => False := by
  refine ⟨fun deviceResult tr r hclock h => discoverWithFallback_ends hclock h, ?_⟩
  intro Sid _ s σ deviceResult hconfigs hprobe hready
  have hsat : Raises.Sat (recording deviceResult.id s)
      (discoverWithFallback o redact address configs (some deviceResult) probeServices) σ
      (fun result σ' => Recorded redact deviceResult (persisted deviceResult.id s σ)
        (persisted deviceResult.id s σ') result.attempts) fun _ _ => False :=
    discoverWithFallback_recorded hconfigs hprobe hready
  refine (hsat.traced.keep (P := fun _ => True) (I := fun g => ClockAnswers g.2) ?_
    (fun c g r g' _ hclock hact => recording_clock hclock hact)
    (Prog.All.of_forall fun _ => trivial) (fun _ => List.not_mem_nil)).mono ?_
      fun _ _ he => he.1
  · rintro c g g' ⟨_, htr⟩ hclock
    rwa [htr]
  · rintro result g ⟨⟨hrecorded, hends⟩, hclock⟩
    obtain ⟨result', hr, hexplained⟩ := discoverWithFallback_ends hclock hends
    cases hr
    exact ⟨hexplained, hrecorded⟩

/-! ## A second transport that answers -/

def spare : TransportAttemptConfig where
  transportName := "telnet"
  capability := .telnet
  healthCheck := pure ()
  collect := pure none

def silent : TransportAttemptConfig where
  transportName := "ssh"
  capability := .ssh
  healthCheck := throw (.timeout "timed out")
  collect := pure none

def talking : TransportAttemptConfig where
  transportName := "snmp"
  capability := .snmp
  healthCheck := pure ()
  collect := pure (some [("hostname", .str "sw1")])

def switchResult : DiscoveryDeviceResultRecord where
  id := 7
  tenantId := Samples.tenant
  discoveryJobId := 2
  childJobId := 2
  address := "10.0.0.1"
  state := .discovering

/-- SSH and SNMP answer, and go first. -/
def prober : Orchestrator where
  probeHost _ _ := do
    let _ ← utcNow
    pure [.ssh, .snmp]
  enableServiceProbing := true
  allowReorderTransports := true

/-- Nothing fails, and every table is empty. -/
def emptyAnswer : (c : Statement) → Except DbError c.Ans
  | .select _ _ => .ok []
  | .get _ _ => .ok none
  | .update _ _ _ _ => .ok []
  | .insert _ _ => .ok ()
  | .change _ _ _ => .ok ()
  | .flush => .ok ()
  | .commit => .ok ()
  | .rollback => .ok ()
  | .ext x => .ok (Samples.world 0 50 x)

/-- The telnet transport was configured first; the probe moved it behind the others. -/
def switchFallback : M MultiTransportDiscoveryResult :=
  discoverWithFallback prober id "10.0.0.1" [spare, silent, talking] (some switchResult) none

/-- The state of a result and the transports it lists. -/
def outlined : Except Exn MultiTransportDiscoveryResult →
    Option (DiscoveryResultState × List String)
  | .ok result => some (result.resultState, result.attempts.map (·.transportName))
  | .error _ => none

/-- SSH times out and SNMP answers; telnet is not tried. -/
theorem fallback_traced_talking :
    (∃ tr result, Raises.Ends switchFallback tr (.ok result) ∧
      result.attempts.map (·.transportName) = ["ssh", "snmp"] ∧
        result.resultState = .discovered ∧ Explained prober id "10.0.0.1"
          [spare, silent, talking] (some switchResult) none tr result) ∧
    Raises.Sat (recording switchResult.id ()).traced switchFallback
      (Samples.store fun _ => Tbl.empty, [])
      (fun result g => Explained prober id "10.0.0.1" [spare, silent, talking]
          (some switchResult) none g.2 result ∧
        Recorded id switchResult (persisted switchResult.id () (Samples.store fun _ => Tbl.empty))
          (persisted switchResult.id () g.1) result.attempts) fun _ _ => False := by
  have hfallback := fallback_traced prober id "10.0.0.1" [spare, silent, talking] none
  let handler : (c : Statement) → Unit → Except DbError c.Ans × Unit :=
    fun c _ => (emptyAnswer c, ())
  constructor
  · have hends : Raises.Ends switchFallback (Prog.trace handler (ExceptT.run switchFallback) ())
        (Raises.eval handler switchFallback ()).1 := Prog.returns_eval ..
    have hclock : ClockAnswers (Prog.trace handler (ExceptT.run switchFallback) ()) := by
      intro e hmem
      obtain ⟨_, hresp⟩ := Prog.mem_trace hmem
      cases hresp
    obtain ⟨result, hr, hexplained⟩ := hfallback.1 _ _ _ hclock hends
    have hresult : outlined (Raises.eval handler switchFallback ()).1 =
        some (.discovered, ["ssh", "snmp"]) := by
      decide
    rw [hr] at hends hresult
    obtain ⟨hstate, hnames⟩ := Prod.mk.inj (Option.some.inj hresult)
    exact ⟨_, result, hends, hnames, hstate, hexplained⟩
  · refine hfallback.2 () _ switchResult ?_ (fun _ _ => ⟨⟨trivial, trivial⟩, fun r => ?_⟩) nofun
    · intro config hconfig
      simp only [List.mem_cons, List.not_mem_nil, or_false] at hconfig
      rcases hconfig with rfl | rfl | rfl <;> exact ⟨trivial, trivial, nofun⟩
    · cases r <;> trivial

end Fallback
end Discovery
end NetOps
