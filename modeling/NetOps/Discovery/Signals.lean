import NetOps.Discovery.Execution

/-!
# Discovery.Signals

Cancellation and lease loss inside a fallback chain. A collector calls the cancellation check of
its context, and the check says by an exception that the execution is to stop. An attempt takes
every exception for a failure of its transport, so the signal stops the chain if and only if the
collector swallows it and succeeds all the same (`signals_stop_iff`).

The chain is run alone against a handler that answers its statements, whatever the answers:
`chainTrace` is what its attempts were, `attemptAll_eval` that the chain made them.
-/

namespace NetOps
namespace Discovery

open Conc

variable {G : Type} (h : (c : Statement) → G → lang.Resp c × G)

/-! ## Conversations that are told to stop -/

/-- The exceptions by which the cancellation check tells an execution to stop. -/
def Exn.isSignal : Exn → Bool
  | .cancellationRequested | .leaseLost => true
  | _ => false

/-- What the check raised is such a signal. -/
def signals (r : Except Exn Unit) : Bool :=
  match r with
  | .ok _ => false
  | .error e => e.isSignal

/-- The check signals at some point of the conversation. -/
def Conversation.signalled {α : Type} (jobId : UUID) (check : M Unit) : Conversation α → G → Bool
  | .done _, _ => false
  | .network request k, g =>
    match Raises.eval h (ask (.ext (.network jobId request))) g with
    | (.ok r, g') => (k r).signalled jobId check g'
    | (.error _, _) => false
  | .checkCancellation k, g =>
    let (r, g') := Raises.eval h check g
    signals r || (k r).signalled jobId check g'

namespace MultiTransportDiscoveryOrchestrator

open DiscoveryExecutionService (raiseIfCancelled)

/-- The check signals in a method of the collector. -/
def callSignalled {α : Type} (config : TransportAttemptConfig) (c : Conversation α) (g : G) :
    Bool :=
  match Raises.eval h (ask (.ext (.callCollector config.context.jobId))) g with
  | (.ok _, g') => c.signalled h config.context.jobId config.cancellationCheck g'
  | (.error _, _) => false

/-- A method of the collector is called. -/
def callMethod {α : Type} (config : TransportAttemptConfig) (c : Conversation α) (g : G) :
    Except Exn α × G :=
  Raises.eval h (callCollector config.context config.cancellationCheck c) g

/-- The check signals in the attempt: in the health check, or in the collection after it. -/
def attemptSignalled (config : TransportAttemptConfig) (g : G) : Bool :=
  callSignalled h config (config.collector.healthCheck config.context) g ||
    match callMethod h config (config.collector.healthCheck config.context) g with
    | (.ok _, g') => callSignalled h config (config.collector.collect config.context) g'
    | (.error _, _) => false

/-- The payload is useful: it names a device. -/
def useful (config : TransportAttemptConfig) (payload : PyDict) : Bool :=
  decide (payload ≠ []) && match validates config payload with
    | .ok valid => valid || identifies payload
    | .error _ => false

/-- The methods of the collector return, whatever the check raises, and return a useful payload. -/
def returnsUseful (config : TransportAttemptConfig) (g : G) : Bool :=
  match callMethod h config (config.collector.healthCheck config.context) g with
  | (.ok _, g') =>
    match callMethod h config (config.collector.collect config.context) g' with
    | (.ok payload, _) => useful config payload
    | (.error _, _) => false
  | (.error _, _) => false

/-- One attempt of a run: whether it was told to stop, whether its collector returned a useful
payload, and what became of it. -/
structure AttemptTrace where
  signalled : Bool
  returned : Bool
  result : TransportAttemptResult

/-- The attempts of a chain, from `attemptOrder` on. -/
def chainTrace (redact : String → String) (deviceResult : DiscoveryDeviceResultRecord) :
    Nat → G → List TransportAttemptConfig → List AttemptTrace
  | _, _, [] => []
  | attemptOrder, g, config :: configs =>
    match Raises.eval h (startAttempt deviceResult config.transportName attemptOrder) g with
    | (.error _, _) => []
    | (.ok record, g₁) =>
      match Raises.eval h (executeTransportAttempt redact config attemptOrder) g₁ with
      | (.error _, _) => []
      | (.ok r, g₂) =>
        let g₃ := (Raises.eval h (finishAttempt redact record r) g₂).2
        ⟨attemptSignalled h config g₁, returnsUseful h config g₁, r⟩ ::
          if r.success then [] else chainTrace redact deviceResult (attemptOrder + 1) g₃ configs

/-! ## The trace is what the chain does -/

variable {h}

theorem eval_catching {α : Type} (m : M α) (g : G) :
    Raises.eval h (catching m) g = (.ok (Raises.eval h m g).1, (Raises.eval h m g).2) := by
  cases hm : Raises.eval h m g with
  | mk r g' =>
    cases r with
    | ok a =>
      refine Raises.eval_tryCatch_ok ?_
      rw [Raises.eval_bind_ok hm]
      rfl
    | error e =>
      refine (Raises.eval_tryCatch_error ?_).trans rfl
      exact Raises.eval_bind_error hm

/-- What is caught by a handler that returns does not raise. -/
theorem eval_caught {α : Type} (m : M α) (a : α) (g : G) :
    ∃ b g', Raises.eval h (tryCatch m fun _ => pure a) g = (.ok b, g') := by
  cases hm : Raises.eval h m g with
  | mk r g' =>
    cases r with
    | ok b => exact ⟨b, g', Raises.eval_tryCatch_ok hm⟩
    | error e => exact ⟨a, g', Raises.eval_tryCatch_error hm⟩

theorem finishAttempt_eval (redact : String → String)
    (record : Option DiscoveryTransportAttemptRecord) (r : TransportAttemptResult) (g : G) :
    ∃ g', Raises.eval h (finishAttempt redact record r) g = (.ok (), g') := by
  cases record with
  | none => exact ⟨g, rfl⟩
  | some record =>
    obtain ⟨_, g', heval⟩ := eval_caught (h := h)
      (if r.success then DiscoveryTransportAttemptRepository.finish record .success none none
      else DiscoveryTransportAttemptRepository.finish record .failed r.failureCode
        (r.failureMessage.bind (safeFailureMessage redact))) () g
    exact ⟨g', heval⟩

/-- An attempt has a payload if and only if the collector returns a useful one. -/
theorem attemptPayload_eval (config : TransportAttemptConfig) (g : G) :
    (∃ payload, (Raises.eval h (attemptPayload config) g).1 = .ok (some payload)) ↔
      returnsUseful h config g = true := by
  unfold attemptPayload returnsUseful callMethod
  cases hhealth : Raises.eval h (callCollector config.context config.cancellationCheck
      (config.collector.healthCheck config.context)) g with
  | mk r g₁ =>
    cases r with
    | error e => simp [Raises.eval_bind_error hhealth]
    | ok _ =>
      rw [Raises.eval_bind_ok hhealth]
      cases hcollect : Raises.eval h (callCollector config.context config.cancellationCheck
          (config.collector.collect config.context)) g₁ with
      | mk r g₂ =>
        cases r with
        | error e => simp [Raises.eval_bind_error hcollect, hcollect]
        | ok payload =>
          rw [Raises.eval_bind_ok hcollect]
          simp only [hcollect, useful]
          by_cases hempty : payload = []
          · simp [hempty]
          · rw [if_neg hempty]
            cases hvalid : validates config payload with
            | error e =>
              have hraise : Raises.eval h (unwrap (Except.error e : Except Exn Bool)) g₂ =
                  (.error e, g₂) := rfl
              rw [Raises.eval_bind_error hraise]
              simp
            | ok valid =>
              have hreturn : Raises.eval h (unwrap (Except.ok valid : Except Exn Bool)) g₂ =
                  (.ok valid, g₂) := rfl
              rw [Raises.eval_bind_ok hreturn]
              by_cases hok : (valid || identifies payload) = true
              · simp [hok, hempty]
              · simp [hok]

theorem executeTransportAttempt_eval (redact : String → String) (config : TransportAttemptConfig)
    (attemptOrder : Nat) (g : G) :
    ∃ r g', Raises.eval h (executeTransportAttempt redact config attemptOrder) g = (.ok r, g') ∧
      r.success = returnsUseful h config g ∧ (r.success = true ↔ r.failureCode = none) := by
  have hiff := attemptPayload_eval (h := h) config g
  unfold executeTransportAttempt
  rw [Raises.eval_bind_ok (eval_catching (attemptPayload config) g)]
  cases hpayload : (Raises.eval h (attemptPayload config) g).1 with
  | error e =>
    rw [hpayload] at hiff
    refine ⟨_, _, rfl, ?_, by simp [TransportAttemptResult.success]⟩
    simpa [TransportAttemptResult.success] using hiff
  | ok payload =>
    rw [hpayload] at hiff
    cases payload with
    | none =>
      refine ⟨_, _, rfl, ?_, by simp [TransportAttemptResult.success]⟩
      simpa [TransportAttemptResult.success] using hiff
    | some payload =>
      refine ⟨_, _, rfl, ?_, by simp [TransportAttemptResult.success]⟩
      simpa [TransportAttemptResult.success] using hiff

/-- The first attempt of a chain: it succeeds if and only if its collector returns a useful
payload, and only a failure has a code and goes on to the next one. -/
theorem chainTrace_cons (redact : String → String) (deviceResult : DiscoveryDeviceResultRecord)
    (config : TransportAttemptConfig) (configs : List TransportAttemptConfig) (attemptOrder : Nat)
    (g : G) :
    ∃ g₁ r g₃, r.success = returnsUseful h config g₁ ∧
      (r.success = true ↔ r.failureCode = none) ∧
      chainTrace h redact deviceResult attemptOrder g (config :: configs) =
        ⟨attemptSignalled h config g₁, returnsUseful h config g₁, r⟩ ::
          (if r.success then [] else
            chainTrace h redact deviceResult (attemptOrder + 1) g₃ configs) ∧
      ∀ p, Raises.eval h (attemptAll redact deviceResult attemptOrder p (config :: configs)) g =
        if r.success then (.ok (p.add r), g₃) else
          Raises.eval h
            (attemptAll redact deviceResult (attemptOrder + 1) (p.add r) configs) g₃ := by
  obtain ⟨record, g₁, hstart⟩ : ∃ record g₁, Raises.eval h
      (startAttempt deviceResult config.transportName attemptOrder) g = (.ok record, g₁) :=
    eval_caught _ none g
  obtain ⟨r, g₂, hexecute, hsuccess, hcode⟩ :=
    executeTransportAttempt_eval (h := h) redact config attemptOrder g₁
  obtain ⟨g₃, hfinish⟩ := finishAttempt_eval (h := h) redact record r g₂
  refine ⟨g₁, r, g₃, hsuccess, hcode, ?_, fun p => ?_⟩
  · simp only [chainTrace, hstart, hexecute, hfinish]
  · rw [attemptAll, Raises.eval_bind_ok hstart, Raises.eval_bind_ok hexecute,
      Raises.eval_bind_ok hfinish]
    split <;> rfl

/-- The attempts of the trace are those of the chain, in order. -/
theorem attemptAll_eval (redact : String → String) (deviceResult : DiscoveryDeviceResultRecord)
    (configs : List TransportAttemptConfig) (attemptOrder : Nat) (p : Progress) (g : G) :
    ∃ g', Raises.eval h (attemptAll redact deviceResult attemptOrder p configs) g =
      (.ok ((chainTrace h redact deviceResult attemptOrder g configs).foldl
        (fun p t => p.add t.result) p), g') := by
  induction configs generalizing attemptOrder p g with
  | nil => exact ⟨g, rfl⟩
  | cons config configs ih =>
    obtain ⟨g₁, r, g₃, _, _, htrace, heval⟩ :=
      chainTrace_cons (h := h) redact deviceResult config configs attemptOrder g
    rw [htrace, heval, List.foldl_cons]
    split
    · exact ⟨g₃, rfl⟩
    · exact ih (attemptOrder + 1) (p.add r) g₃

/-! ## When a signal stops the chain -/

/-- The statement records no attempt as failed. -/
def NoFailure : Statement → Prop
  | .change .attempts _ f => ∀ row, (f row).result ≠ .failed
  | _ => True

/-- An attempt that is told to stop is the last one, and is neither classified nor recorded as a
failure of its transport. -/
structure SignalsStop (redact : String → String) (attempts : List AttemptTrace) : Prop where
  last : ∀ i t, attempts[i]? = some t → t.signalled = true → attempts.length = i + 1
  unclassified : ∀ t ∈ attempts, t.signalled = true → t.result.failureCode = none
  unrecorded : ∀ t ∈ attempts, t.signalled = true → ∀ record,
    Raises.All NoFailure (finishAttempt redact record t.result)

theorem finishAttempt_noFailure {redact : String → String} {r : TransportAttemptResult}
    (hr : r.success = true) (record : Option DiscoveryTransportAttemptRecord) :
    Raises.All NoFailure (finishAttempt redact record r) := by
  cases record with
  | none => trivial
  | some record =>
    refine Raises.all_tryCatch ?_ fun _ => trivial
    rw [if_pos hr]
    refine Raises.all_bind ⟨trivial, fun _ => trivial⟩ fun now => Raises.all_bind ?_ fun _ => ?_
    · exact ⟨fun _ => by simp, fun _ => trivial⟩
    · exact ⟨trivial, fun _ => trivial⟩

theorem chainTrace_result (redact : String → String) (deviceResult : DiscoveryDeviceResultRecord)
    (configs : List TransportAttemptConfig) (attemptOrder : Nat) (g : G) :
    ∀ t ∈ chainTrace h redact deviceResult attemptOrder g configs,
      t.result.success = t.returned ∧ (t.result.success = true ↔ t.result.failureCode = none) := by
  induction configs generalizing attemptOrder g with
  | nil => exact fun _ ht => by cases ht
  | cons config configs ih =>
    obtain ⟨g₁, r, g₃, hsuccess, hcode, htrace, _⟩ :=
      chainTrace_cons (h := h) redact deviceResult config configs attemptOrder g
    rw [htrace]
    intro t ht
    rcases List.mem_cons.1 ht with rfl | hrest
    · exact ⟨hsuccess, hcode⟩
    · split at hrest
      · cases hrest
      · exact ih _ _ t hrest

/-- An attempt that succeeds is the last one. -/
theorem chainTrace_last (redact : String → String) (deviceResult : DiscoveryDeviceResultRecord)
    (configs : List TransportAttemptConfig) (attemptOrder : Nat) (g : G) :
    ∀ i t, (chainTrace h redact deviceResult attemptOrder g configs)[i]? = some t →
      t.result.success = true →
      (chainTrace h redact deviceResult attemptOrder g configs).length = i + 1 := by
  induction configs generalizing attemptOrder g with
  | nil =>
    intro i t ht
    simp [chainTrace] at ht
  | cons config configs ih =>
    obtain ⟨g₁, r, g₃, _, _, htrace, _⟩ :=
      chainTrace_cons (h := h) redact deviceResult config configs attemptOrder g
    rw [htrace]
    intro i t ht hsuccess
    cases i with
    | zero =>
      simp only [List.getElem?_cons_zero, Option.some.injEq] at ht
      subst ht
      simp [hsuccess]
    | succ i =>
      rw [List.getElem?_cons_succ] at ht
      split at ht
      · simp at ht
      · rename_i hfails
        rw [List.length_cons, if_neg hfails, ih _ _ i t ht hsuccess]

/-- Whatever the configurations and their collectors do and whatever they are answered, a signal
of the cancellation check stops the chain and is no failure of a transport, if and only if the
collector of every attempt that is told to stop swallows the signal and returns a useful
payload. -/
theorem signals_stop_iff (h : (c : Statement) → G → lang.Resp c × G) (redact : String → String)
    (deviceResult : DiscoveryDeviceResultRecord) (configs : List TransportAttemptConfig) (g : G) :
    SignalsStop redact (chainTrace h redact deviceResult 1 g configs) ↔
      ∀ t ∈ chainTrace h redact deviceResult 1 g configs,
        t.signalled = true → t.returned = true := by
  have hresult := chainTrace_result (h := h) redact deviceResult configs 1 g
  constructor
  · intro hstop t ht hsignal
    obtain ⟨hreturned, hcode⟩ := hresult t ht
    rw [← hreturned]
    exact hcode.2 (hstop.unclassified t ht hsignal)
  · intro hswallowed
    have hsuccess : ∀ t ∈ chainTrace h redact deviceResult 1 g configs,
        t.signalled = true → t.result.success = true := by
      intro t ht hsignal
      rw [(hresult t ht).1]
      exact hswallowed t ht hsignal
    constructor
    · intro i t ht hsignal
      exact chainTrace_last redact deviceResult configs 1 g i t ht
        (hsuccess t (List.mem_of_getElem? ht) hsignal)
    · intro t ht hsignal
      exact (hresult t ht).2.1 (hsuccess t ht hsignal)
    · intro t ht hsignal record
      exact finishAttempt_noFailure (hsuccess t ht hsignal) record

/-! ## A lease lost in the first attempt -/

/-- A world that answers everything with nothing, and in which the lease is lost. -/
def lostLease : (c : Statement) → Unit → lang.Resp c × Unit
  | .select _ _, g => (.ok [], g)
  | .get _ _, g => (.ok none, g)
  | .update _ _ _ _, g => (.ok [], g)
  | .insert _ _, g => (.ok (), g)
  | .change _ _ _, g => (.ok (), g)
  | .flush, g => (.ok (), g)
  | .commit, g => (.ok (), g)
  | .rollback, g => (.ok (), g)
  | .ext x, g =>
    (.ok (match x with
      | .utcNow => 0
      | .uuid4 => 1
      | .leaseLost => true
      | .callCollector _ => ()
      | .network _ _ => .ok ""
      | .processPayload _ => .error (.raised "")
      | .gather _ _ => .ok ()), g)

/-- A collector that calls the check before it collects, and lets it through. -/
def checkingCollector : Collector where
  name := "checking"
  capabilities := []
  parser := none
  healthCheck _ := .done (.ok ())
  collect _ := Conversation.check.bind fun _ => .done (.ok [("hostname", .str "sw1")])
  normalize _ _ := .ok true

/-- Two attempts with it, over SSH and HTTPS. -/
def checkingConfigs : List TransportAttemptConfig :=
  [("ssh", TransportCapability.ssh), ("https", .https)].map fun t => {
    transportName := t.1
    capability := t.2
    collector := checkingCollector
    context := ⟨⟨"sw1", "10.0.0.1", "tenant-a", []⟩, 1, 2, []⟩
    isInsecure := false
    cancellationCheck := raiseIfCancelled ⟨"tenant-a", 2, none, true⟩ }

def checkedResult : DiscoveryDeviceResultRecord where
  id := 3
  tenantId := "tenant-a"
  discoveryJobId := 2
  childJobId := 2
  address := "10.0.0.1"
  state := .discovering

theorem checking_attempts :
    (chainTrace lostLease id checkedResult 1 () checkingConfigs).map
      (fun t => (t.signalled, t.result.failureCode)) =
      [(true, some .discoveryFailed), (true, some .discoveryFailed)] := by
  decide

/-- The lost lease of the first attempt is a failure of SSH, and HTTPS is tried. -/
theorem lost_lease_goes_on :
    ¬ SignalsStop id (chainTrace lostLease id checkedResult 1 () checkingConfigs) := by
  intro hstop
  have hattempts := checking_attempts
  obtain ⟨t, rest, hcons, hfirst, _⟩ := List.map_eq_cons_iff.1 hattempts
  have hsignal : t.signalled = true := congrArg Prod.fst hfirst
  have hcode : t.result.failureCode = some .discoveryFailed := congrArg Prod.snd hfirst
  have hmem : t ∈ chainTrace lostLease id checkedResult 1 () checkingConfigs := by
    rw [hcons]
    exact List.mem_cons_self
  rw [hstop.unclassified t hmem hsignal] at hcode
  cases hcode

end MultiTransportDiscoveryOrchestrator
end Discovery
end NetOps
