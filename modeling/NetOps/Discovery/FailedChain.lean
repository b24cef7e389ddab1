import NetOps.Discovery.Classified
import NetOps.Discovery.Samples
import NetOps.Discovery.Undisturbed

/-!
# Discovery.FailedChain

The classification a failed multi-transport execution leaves. The orchestrator's state is written
to the device result and rolled back with everything else that was not committed;
`_ensure_device_result_for_failure` then writes the state it derives from the failure code, which
was derived from the orchestrator's state. The run is counted by the original.

* `restored_iff`: the code leads back to the state it came from, unless that is one of the states
  no code stands for.
* `failChain_yields`: what the failure path commits, from any state.
* `classification_kept_iff`: the committed classification is the orchestrator's if and only if no
  transport succeeded, and one failed to authenticate or none was unavailable.
-/

namespace NetOps
namespace Discovery
namespace DiscoveryExecutionService

open Conc
open MultiTransportDiscoveryOrchestrator

/-! ## The way to the failure path -/

/-- A chain that has run: its device result, what the orchestrator returned, and the outcome if
the device was published. -/
structure ChainRun where
  deviceResult : DiscoveryDeviceResultRecord
  mt : MultiTransportDiscoveryResult
  published : Option DiscoveryExecutionOutcome

/-- `concludeChain` up to its failure path. -/
def publishChain (w : Work) (deviceResult : DiscoveryDeviceResultRecord)
    (configs : List TransportAttemptConfig) (last : Collector)
    (mt : MultiTransportDiscoveryResult) : M (Option DiscoveryExecutionOutcome) :=
  match mt.resultState, mt.discoveryPayload with
  | .discovered, some payload => do
    match ← catching (publishDiscovered w deviceResult
      (evidenceCollector configs mt.selectedTransport last) mt payload) with
    | .ok outcome => pure (some outcome)
    | .error .cancellationRequested => throw .cancellationRequested
    | .error .leaseLost => throw .leaseLost
    | .error _ => pure none
  | _, _ => pure none

/-- `executeMultiTransport` up to its failure path. -/
def runChain (rt : Runtime) (w : Work) : M ChainRun := do
  let policy ← resolveTransportPolicy w.target
  let deviceResult ← startDeviceResult w.tenantId w.job w.target w.watch.parentJobId
  recordUnsupportedCredentials w.job w.target policy
  let configs := buildTransportConfigs rt.registry w.job w.target policy w.watch
  match configs.getLast? with
  | none => do
    commit
    throw (.executionFailure .unsupportedCapability
      "No transport configurations available for the credential profile.")
  | some last => do
    let mt ← discoverWithFallback rt.redact configs deviceResult
    commit
    let deviceResult ← setResult deviceResult fun r => { r with
      resultState := some mt.resultState
      selectedTransport := mt.selectedTransport
      completedAt := some mt.completedAt }
    let published ← publishChain w deviceResult configs last.collector mt
    pure ⟨deviceResult, mt, published⟩

/-- `executeMultiTransport`, with what the orchestrator returned if the execution ends failed. -/
def executeReporting (rt : Runtime) (w : Work) :
    M (Option MultiTransportDiscoveryResult × DiscoveryExecutionOutcome) := do
  let run ← runChain rt w
  match run.published with
  | some outcome => pure (none, outcome)
  | none => do
    let outcome ← failChain w run.deviceResult run.mt
    pure (some run.mt, outcome)

theorem publishChain_conclude (w : Work) (deviceResult : DiscoveryDeviceResultRecord)
    (configs : List TransportAttemptConfig) (last : Collector)
    (mt : MultiTransportDiscoveryResult) :
    concludeChain w deviceResult configs last mt = (do
      match ← publishChain w deviceResult configs last mt with
      | some outcome => pure outcome
      | none => failChain w deviceResult mt) := by
  unfold concludeChain publishChain
  cases mt.discoveryPayload with
  | none => cases mt.resultState <;> rfl
  | some payload =>
    cases mt.resultState with
    | discovered =>
      simp only [bind_assoc]
      refine bind_congr fun r => ?_
      cases r with
      | ok outcome => rfl
      | error e => cases e <;> rfl
    | _ => rfl

/-- The report changes nothing. -/
theorem executeReporting_outcome (rt : Runtime) (w : Work) :
    (·.2) <$> executeReporting rt w = executeMultiTransport rt w := by
  unfold executeReporting executeMultiTransport runChain
  simp only [map_bind, bind_assoc]
  refine bind_congr fun policy => bind_congr fun deviceResult => bind_congr fun _ => ?_
  cases (buildTransportConfigs rt.registry w.job w.target policy w.watch).getLast? with
  | none => simp only [bind_assoc]; exact bind_congr fun _ => rfl
  | some last =>
    simp only [bind_assoc, publishChain_conclude, pure_bind]
    refine bind_congr fun mt => bind_congr fun _ => bind_congr fun result => ?_
    refine bind_congr fun published => ?_
    cases published with
    | some outcome => rfl
    | none =>
      rw [map_bind]
      exact bind_pure _

/-! ## From the state to the code and back -/

/-- The attempts of a chain whose state a failure code can stand for. -/
def Restorable (attempts : List TransportAttemptResult) : Prop :=
  (∀ r ∈ attempts, r.success = false) ∧
    (raised (·.authFailed) attempts = true ∨ raised (·.transportUnavailable) attempts = false)

/-- A result of the orchestrator: no attempt succeeded and the state is that of the failures, or
one did. -/
def Classified (mt : MultiTransportDiscoveryResult) : Prop :=
  ((∀ r ∈ mt.attempts, r.success = false) ∧ mt.resultState = stateOf mt.attempts) ∨
    ((∃ r ∈ mt.attempts, r.success = true) ∧ mt.resultState = .discovered)

theorem failureResultState_ne (code : DiscoveryFailureCode) :
    failureResultState code ≠ .discovered ∧ failureResultState code ≠ .unverified := by
  cases code <;> exact ⟨nofun, nofun⟩

theorem failureResultState_workflow {code : DiscoveryFailureCode}
    (h : workflowFailures.contains code = true) :
    failureResultState code = .reachableNoManagement := by
  cases code <;> first | rfl | exact absurd h (by decide)

theorem chainFailure_reachable {mt : MultiTransportDiscoveryResult}
    (h : mt.resultState = .reachableNoManagement) :
    failureResultState (chainFailure mt).1 = .reachableNoManagement := by
  simp only [chainFailure, h]
  split
  · rename_i hworkflow
    rw [Bool.and_eq_true] at hworkflow
    exact failureResultState_workflow hworkflow.2
  · rfl

theorem chainFailure_unreachable {mt : MultiTransportDiscoveryResult}
    (h : mt.resultState = .unreachable) :
    failureResultState (chainFailure mt).1 = .unreachable := by
  simp only [chainFailure, h]
  rfl

theorem chainFailure_authentication {mt : MultiTransportDiscoveryResult}
    (h : mt.resultState = .authenticationFailed) :
    failureResultState (chainFailure mt).1 = .authenticationFailed := by
  simp only [chainFailure, h]
  rfl

/-- The failure code of a chain leads back to its state, or the state is one that no code stands
for. -/
theorem restored_iff {mt : MultiTransportDiscoveryResult} (h : Classified mt) :
    failureResultState (chainFailure mt).1 = mt.resultState ↔ Restorable mt.attempts := by
  have hne := failureResultState_ne (chainFailure mt).1
  rcases h with ⟨hfailed, hstate⟩ | ⟨⟨r, hr, hsuccess⟩, hstate⟩
  · rw [stateOf_failed hfailed] at hstate
    cases hauth : raised (·.authFailed) mt.attempts with
    | true =>
      rw [if_pos hauth] at hstate
      rw [chainFailure_authentication hstate, hstate]
      exact iff_of_true rfl ⟨hfailed, .inl hauth⟩
    | false =>
      rw [if_neg (by rw [hauth]; exact Bool.false_ne_true)] at hstate
      cases hunavailable : raised (·.transportUnavailable) mt.attempts with
      | true =>
        rw [if_pos hunavailable] at hstate
        rw [hstate]
        refine iff_of_false hne.2 ?_
        rintro ⟨_, hauth' | hunavailable'⟩
        · rw [hauth] at hauth'
          cases hauth'
        · rw [hunavailable] at hunavailable'
          cases hunavailable'
      | false =>
        rw [if_neg (by rw [hunavailable]; exact Bool.false_ne_true)] at hstate
        have hrestorable : Restorable mt.attempts := ⟨hfailed, .inr hunavailable⟩
        split at hstate
        · rw [chainFailure_reachable hstate, hstate]
          exact iff_of_true rfl hrestorable
        · rw [chainFailure_unreachable hstate, hstate]
          exact iff_of_true rfl hrestorable
  · rw [hstate]
    refine iff_of_false hne.1 ?_
    rintro ⟨hfailed, _⟩
    rw [hfailed r hr] at hsuccess
    cases hsuccess

/-- The states the orchestrator can restore have a counter of their own in a run. -/
theorem restorable_state {mt : MultiTransportDiscoveryResult} (h : Classified mt)
    (hrestorable : Restorable mt.attempts) :
    mt.resultState = .authenticationFailed ∨ mt.resultState = .reachableNoManagement ∨
      mt.resultState = .unreachable := by
  rcases h with ⟨hfailed, hstate⟩ | ⟨⟨r, hr, hsuccess⟩, _⟩
  · rw [hstate, stateOf_failed hfailed]
    rcases hrestorable.2 with hauth | hunavailable
    · simp [hauth]
    · rw [hunavailable]
      split_ifs <;> simp_all
  · rw [hrestorable.1 r hr] at hsuccess
    cases hsuccess

/-! ## What the orchestrator returns -/

section

variable {G : Type} {C : Prog.Contract lang G}

/-- The attempts of a loop failed, or its last one succeeded. -/
theorem attemptAll_classified (hguar : ∀ c g, C.guar g c) (redact : String → String)
    (deviceResult : DiscoveryDeviceResultRecord) (configs : List TransportAttemptConfig) (n : Nat)
    (rs : List TransportAttemptResult) (hfailed : ∀ r ∈ rs, r.success = false) (g : G) :
    Raises.Sat C (attemptAll redact deviceResult n (rs.foldl Progress.add {}) configs) g
      (fun p _ => ∃ rs', p = rs'.foldl Progress.add {} ∧
        ((∀ r ∈ rs', r.success = false) ∨
          ∃ failed r, rs' = failed ++ [r] ∧ r.success = true))
      fun _ _ => True := by
  induction configs generalizing n rs g with
  | nil => exact Raises.sat_pure ⟨rs, rfl, .inl hfailed⟩
  | cons config configs ih =>
    refine Raises.sat_bind ((Raises.sat_true hguar _ g).mono (fun _ g₁ _ => ?_)
      fun _ _ he => he)
    refine Raises.sat_bind ((Raises.sat_true hguar _ g₁).mono (fun r g₂ _ => ?_) fun _ _ he => he)
    refine Raises.sat_bind ((Raises.sat_true hguar _ g₂).mono (fun _ g₃ _ => ?_) fun _ _ he => he)
    have hadd : (rs.foldl Progress.add {}).add r = (rs ++ [r]).foldl Progress.add {} := by
      rw [List.foldl_append, List.foldl_cons, List.foldl_nil]
    rw [hadd]
    split
    · rename_i hr
      exact Raises.sat_pure ⟨rs ++ [r], rfl, .inr ⟨rs, r, rfl, hr⟩⟩
    · rename_i hr
      rw [Bool.not_eq_true] at hr
      refine ih (n + 1) (rs ++ [r]) (fun r' hr' => ?_) g₃
      rcases List.mem_append.1 hr' with hold | hnew
      · exact hfailed r' hold
      · rw [List.mem_singleton.1 hnew, hr]

theorem discoverWithFallback_classified (hguar : ∀ c g, C.guar g c) (redact : String → String)
    (configs : List TransportAttemptConfig) (deviceResult : DiscoveryDeviceResultRecord) (g : G) :
    Raises.Sat C (discoverWithFallback redact configs deviceResult) g
      (fun mt _ => Classified mt) fun _ _ => True := by
  refine Raises.sat_bind ((attemptAll_classified hguar redact deviceResult configs 1
    [] (fun _ hr => absurd hr List.not_mem_nil) g).mono ?_ fun _ _ he => he)
  rintro p g₁ ⟨rs, rfl, hrs⟩
  refine Raises.sat_bind (sat_ask fun g₂ _ => ⟨hguar _ _, fun now g₃ _ => ?_, fun _ _ _ => trivial⟩)
  refine Raises.sat_pure ?_
  have hattempts : ((rs.foldl Progress.add {}).result now).attempts = rs := by
    simp only [Progress.result, foldl_attempts, List.append_nil, List.reverse_reverse]
  unfold Classified
  rw [hattempts]
  rcases hrs with hfailed | ⟨failed, r, rfl, hr⟩
  · exact .inl ⟨hfailed, rfl⟩
  · refine .inr ⟨⟨r, List.mem_append_right _ List.mem_cons_self, hr⟩, ?_⟩
    rw [Progress.discovered_iff]
    simp only [Progress.result, Progress.success, foldl_attempts, List.append_nil,
      List.reverse_append, List.reverse_singleton, List.singleton_append, List.head?_cons,
      Option.filter_some, hr, if_true, Option.bind_some]
    exact hr

end

/-! ## The rows of the execution -/

/-- What matters of an execution: the states of its device results, and its run. -/
def chainFocus (w : Work) : Focus schema where
  What
    | .results => Option DiscoveryResultState
    | .runs => DiscoveryRunRecord
    | _ => Unit
  of
    | .results, r =>
      if r.childJobId = w.job.id ∧ r.tenantId = w.target.tenantId then some r.resultState else none
    | .runs, r => if r.id = w.job.runId then some r else none
    | _, _ => none

/-- A device result of the execution. -/
def Work.Owns (w : Work) (r : DiscoveryDeviceResultRecord) : Prop :=
  r.childJobId = w.job.id ∧ r.tenantId = w.target.tenantId

section

variable {w : Work} {Sid : Type} [DecidableEq Sid] {s : Sid} {σ : Store schema Sid}
  {W : (t : Table) → Nat → Option ((chainFocus w).What t)} {N : List Table}

theorem focus_owned {r : DiscoveryDeviceResultRecord} (h : w.Owns r) :
    (chainFocus w).of .results r = some r.resultState := if_pos h

theorem anything {α : Type} (m : M α) :
    Yields (chainFocus w) N s m σ fun _ _ => True :=
  Raises.sat_true (fun _ _ => trivial) m σ

/-- A rollback leaves what is committed. -/
theorem rollback_yields :
    Yields (chainFocus w) N s rollback σ fun _ σ' =>
      ∃ W, σ'.Knows (chainFocus w) s W [] := by
  refine sat_ask fun σ₁ _ => ⟨trivial, ?_, fun _ _ _ => trivial⟩
  rintro _ σ₂ ⟨hexec, _⟩
  rw [show σ₂ = σ₁.discard s from hexec]
  exact ⟨_, .start (Function.update_self ..)⟩

/-- Jobs do not matter. -/
theorem updateJobs_yields {site : Site} {p : DiscoveryJobRecord → Bool}
    {f : DiscoveryJobRecord → DiscoveryJobRecord} (hkey : ∀ r, (f r).id = r.id)
    (h : σ.Knows (chainFocus w) s W []) :
    Yields (chainFocus w) N s (update site .jobs p f) σ fun _ σ' =>
      σ'.Knows (chainFocus w) s W [] := by
  refine (Yields.update h (by simp) (g := id) (fun _ => rfl) hkey).imp ?_
  rintro ids σ' ⟨h', _⟩
  have hnone : ∀ k, W .jobs k = none := by
    intro k
    rw [← h.rows, Focus.shown, Option.bind_eq_none_iff]
    exact fun _ _ => rfl
  rwa [show (fun k => if k ∈ ids then (W .jobs k).map id else W .jobs k) = W .jobs from
    funext fun k => by rw [hnone, Option.map_none, ite_self], Function.update_eq_self] at h'

theorem getJob_yields {tenantId : String} {k : UUID} (h : σ.Knows (chainFocus w) s W []) :
    Yields (chainFocus w) N s (DiscoveryJobRepository.get tenantId k) σ fun _ σ' =>
      σ'.Knows (chainFocus w) s W [] := by
  unfold DiscoveryJobRepository.get
  exact (Yields.reading (c := .select .jobs _) trivial h).bind fun _ _ h₁ => Yields.pure h₁

theorem transition_keeps {a : DiscoveryJobRepository.Transition}
    (h : σ.Knows (chainFocus w) s W []) :
    Yields (chainFocus w) N s (DiscoveryJobRepository.transition a) σ fun _ σ' =>
      σ'.Knows (chainFocus w) s W [] := by
  unfold DiscoveryJobRepository.transition
  refine (getJob_yields h).bind fun found σ₁ h₁ => ?_
  cases found with
  | none => exact Yields.throw
  | some found =>
    dsimp only
    cases hallowed : transitionJob found.state a.targetState with
    | error message => exact Yields.throw
    | ok _ =>
      refine (Yields.reading (c := .ext .utcNow) trivial h₁).bind fun now σ₂ h₂ => ?_
      have hupdate : JobStatement
          (DiscoveryJobRepository.transitionUpdate a found.state now) :=
        .transition a found.state now (transitionJob_ok hallowed).2
      refine (updateJobs_yields (fun r => (hupdate.identity r).1) h₂).bind fun ids σ₃ h₃ => ?_
      split
      · exact Yields.giveUp
      · refine (Yields.flush h₃).bind fun _ σ₄ h₄ => ?_
        unfold DiscoveryJobRepository.getExisting
        refine (getJob_yields h₄).bind fun found σ₅ h₅ => ?_
        cases found with
        | none => exact Yields.throw
        | some found => exact Yields.pure h₅

end

/-! ## The counters -/

/-- The total of a run for each state. -/
def total (run : DiscoveryRunRecord) : DiscoveryResultState → Nat
  | .unreachable => run.totalUnreachable
  | .reachableNoManagement => run.totalReachableNoManagement
  | .authenticationFailed => run.totalAuthenticationFailed
  | .partialDiscovery => run.totalPartialDiscovery
  | .discovered => run.totalDiscovered
  | .unverified => run.totalUnverified
  | .cancelled => run.metadataJson.totalCancelled.getD 0
  | .interrupted => run.metadataJson.totalInterrupted.getD 0

/-- The states `_finalize_single_device_run` counts. -/
def countedStates : List DiscoveryResultState :=
  [.discovered, .unreachable, .reachableNoManagement, .authenticationFailed, .partialDiscovery]

/-- Of the counters of the run of one device, that of `state` counts it. -/
def Counts (state : DiscoveryResultState) (run : DiscoveryRunRecord) : Prop :=
  state ∈ countedStates ∧ ∀ st ∈ countedStates, total run st = if st = state then 1 else 0

/-- In the summary of a scope run, the row adds one to the total of `state`, and nothing to the
others. -/
def CountedAs (state : DiscoveryResultState) (row : DiscoveryDeviceResultRecord) : Prop :=
  ∀ (n : Nat) (rows rows' : List DiscoveryDeviceResultRecord) (metadata : RunMetadata)
    (now : DateTime) (run : DiscoveryRunRecord) (st : DiscoveryResultState),
    total (DiscoveryFanoutService.summary n (rows ++ row :: rows') metadata now run) st =
      total (DiscoveryFanoutService.summary n (rows ++ rows') metadata now run) st +
        if st = state then 1 else 0

theorem total_summary (n : Nat) (rows : List DiscoveryDeviceResultRecord) (metadata : RunMetadata)
    (now : DateTime) (run : DiscoveryRunRecord) (st : DiscoveryResultState) :
    total (DiscoveryFanoutService.summary n rows metadata now run) st =
      DiscoveryFanoutService.countState rows st := by
  cases st <;> rfl

theorem countedAs_of_state {state : DiscoveryResultState} {row : DiscoveryDeviceResultRecord}
    (h : row.resultState = some state) : CountedAs state row := by
  intro n rows rows' metadata now run st
  simp only [total_summary, DiscoveryFanoutService.countState, List.countP_append,
    List.countP_cons, h, Nat.add_assoc]
  congr 2
  by_cases hst : st = state
  · simp [hst]
  · simp [hst, Ne.symm hst]

/-- What `_finalize_single_device_run` leaves of the run. -/
theorem total_resultCounts (state : DiscoveryResultState) (status : DiscoveryRunStatus)
    (now : DateTime) (run : DiscoveryRunRecord) :
    ∀ st ∈ countedStates, total { resultCounts state run with
      status := status
      finishedAt := some now } st = if st = state then 1 else 0 := by
  intro st hst
  simp only [countedStates, List.mem_cons, List.not_mem_nil, or_false] at hst
  rcases hst with rfl | rfl | rfl | rfl | rfl <;> simp only [total, resultCounts, eq_comm]

section

variable {w : Work} {Sid : Type} [DecidableEq Sid] {s : Sid} {σ : Store schema Sid}
  {W : (t : Table) → Nat → Option ((chainFocus w).What t)} {N : List Table}

/-- The run of the execution counts as `state` says. -/
def RunCounts (w : Work) (state : DiscoveryResultState)
    (W : (t : Table) → Nat → Option ((chainFocus w).What t)) : Prop :=
  ∀ run : DiscoveryRunRecord, W .runs w.job.runId = some run →
    ∀ st ∈ countedStates, total run st = if st = state then 1 else 0

theorem finalizeSingleDeviceRun_yields {state : DiscoveryResultState}
    (h : σ.Knows (chainFocus w) s W []) :
    Yields (chainFocus w) N s (finalizeSingleDeviceRun w.job.runId state) σ fun _ σ' =>
      ∃ W', σ'.Knows (chainFocus w) s W' [] ∧ RunCounts w state W' := by
  have hset : ∀ {σ₁ : Store schema Sid}, σ₁.Knows (chainFocus w) s W [] →
      Yields (chainFocus w) N s (do
        let now ← utcNow
        setRun w.job.runId fun r => { resultCounts state r with
          status := if state = .discovered then .succeeded else .failed
          finishedAt := some now }) σ₁ fun _ σ' =>
        ∃ W', σ'.Knows (chainFocus w) s W' [] ∧ RunCounts w state W' := by
    intro σ₁ h₁
    refine (Yields.reading (c := .ext .utcNow) trivial h₁).bind fun now σ₂ h₂ => ?_
    let f : DiscoveryRunRecord → DiscoveryRunRecord := fun r => { resultCounts state r with
      status := if state = .discovered then .succeeded else .failed
      finishedAt := some now }
    have hf : ∀ r, (chainFocus w).of .runs (f r) = ((chainFocus w).of .runs r).map f := by
      intro r
      change (if r.id = w.job.runId then some (f r) else none) =
        (if r.id = w.job.runId then some r else none).map f
      split <;> rfl
    refine (Yields.update (t := .runs) (f := f) (g := f) h₂ (by simp) hf fun _ => rfl).bind ?_
    rintro ids σ₃ ⟨h₃, T, hT, rfl⟩
    refine Yields.pure ⟨_, h₃, fun run hrun => ?_⟩
    rw [Function.update_self] at hrun
    cases hW : W .runs w.job.runId with
    | none => rw [hW] at hrun; split at hrun <;> cases hrun
    | some old =>
      have hshown := hT w.job.runId
      rw [hW] at hshown
      obtain ⟨row, hrow, hof⟩ := Option.bind_eq_some_iff.1 hshown
      have hmem : w.job.runId ∈ (T.rows.filter fun r => r.id == w.job.runId).map
          (primaryKey .runs) :=
        List.mem_map.2 ⟨row, List.mem_filter.2 ⟨Tbl.mem_rows_of_get hrow,
          beq_iff_eq.2 (T.keyed _ _ hrow)⟩, T.keyed _ _ hrow⟩
      rw [if_pos hmem, hW] at hrun
      cases hrun
      exact total_resultCounts state _ now old
  unfold finalizeSingleDeviceRun
  cases hW : W .runs w.job.runId with
  | none =>
    refine (Yields.reading (c := .get .runs _) trivial h).bind fun found σ₁ h₁ => ?_
    cases found with
    | none =>
      refine Yields.pure ⟨W, h₁, fun run hrun => ?_⟩
      rw [hW] at hrun
      cases hrun
    | some _ => exact hset h₁
  | some run =>
    refine (Yields.get (P := fun _ => True) h (by simp) hW (fun _ _ _ => trivial)
      fun _ _ _ _ => trivial).bind ?_
    rintro _ σ₁ ⟨h₁, ⟨v, rfl, _⟩, _⟩
    exact hset h₁

/-- The device result has the state its failure code stands for, wherever it is. -/
theorem ensureDeviceResultForFailure_yields {code : DiscoveryFailureCode}
    {message selectedTransport : Option String} (h : σ.Knows (chainFocus w) s W []) :
    Yields (chainFocus w) N s
      (ensureDeviceResultForFailure w.job w.target code message selectedTransport) σ
      fun _ σ' => ∃ W' k, σ'.Knows (chainFocus w) s W' [] ∧ W' .runs = W .runs ∧
        W' .results k = some (some (failureResultState code)) := by
  unfold ensureDeviceResultForFailure findDeviceResult
  refine Yields.bind ((Yields.select h (by simp)).bind fun rows σ₁ hrows =>
    Yields.pure (Q := fun found σ' => σ'.Knows (chainFocus w) s W [] ∧
      ∀ r, found = some r → w.Owns r ∧ W .results r.id = some r.resultState) ?_) ?_
  · obtain ⟨h₁, T, hperm, hT⟩ := hrows
    refine ⟨h₁, fun r hr => ?_⟩
    obtain ⟨hrow, hp⟩ := List.mem_filter.1 (hperm.mem_iff.1 (List.mem_of_head? hr))
    rw [Bool.and_eq_true, beq_iff_eq, beq_iff_eq] at hp
    have hget : T.get r.id = some r := Tbl.mem_rows.1 hrow
    exact ⟨hp, (hT r.id).symm.trans ((Focus.shown_some hget).trans (focus_owned hp))⟩
  · rintro found σ₁ ⟨h₁, hfound⟩
    refine (Yields.reading (c := .ext .utcNow) trivial h₁).bind fun now σ₂ h₂ => ?_
    let f := failedValues w.target code message selectedTransport now
    cases found with
    | some result =>
      obtain ⟨howns, hW⟩ := hfound result rfl
      have hf : ∀ r, (chainFocus w).of .results (f r) =
          ((chainFocus w).of .results r).map fun _ => some (failureResultState code) := by
        intro r
        change (if r.childJobId = w.job.id ∧ r.tenantId = w.target.tenantId then
            some (some (failureResultState code)) else none) =
          (if r.childJobId = w.job.id ∧ r.tenantId = w.target.tenantId then
            some r.resultState else none).map fun _ => some (failureResultState code)
        split <;> rfl
      simp only [setResult, bind_assoc, pure_bind]
      refine (Yields.change (t := .results) (f := f) h₂ (.of_map hf fun _ => rfl) hW).bind ?_
      rintro _ σ₃ ⟨r, hr, hkey, h₃⟩
      refine (Yields.flush h₃).imp fun _ σ₄ h₄ => ⟨_, result.id, h₄, ?_, ?_⟩
      · exact Function.update_of_ne (by decide) ..
      · rw [Function.update_self, Function.update_self, hf, hr]
        rfl
    | none =>
      have hinsert : ∀ (startedAt : DateTime) (id : UUID) {σ₃ : Store schema Sid},
          σ₃.Knows (chainFocus w) s W [] →
          Yields (chainFocus w) N s (insert .results (f
            { newDeviceResult w.job w.job.id w.target.tenantId w.target.address .failed id with
              startedAt := some startedAt })) σ₃
            fun _ σ' => ∃ W' k, σ'.Knows (chainFocus w) s W' [] ∧ W' .runs = W .runs ∧
              W' .results k = some (some (failureResultState code)) := by
        intro startedAt id σ₃ h₃
        refine (Yields.insert h₃ (by simp)).imp ?_
        rintro _ σ₄ ⟨_, h₄⟩
        refine ⟨_, id, h₄, Function.update_of_ne (by decide) .., ?_⟩
        rw [Function.update_self]
        exact (Function.update_self ..).trans (focus_owned ⟨rfl, rfl⟩)
      unfold startedOr
      dsimp only
      cases w.job.startedAt with
      | some startedAt =>
        rw [pure_bind]
        exact (Yields.reading (c := .ext .uuid4) trivial h₂).bind fun id σ₃ h₃ =>
          hinsert startedAt id h₃
      | none =>
        refine (Yields.reading (c := .ext .utcNow) trivial h₂).bind fun startedAt σ₃ h₃ => ?_
        exact (Yields.reading (c := .ext .uuid4) trivial h₃).bind fun id σ₄ h₄ =>
          hinsert startedAt id h₄

/-- The committed rows after the failure path: a device result with the state of the failure code,
and the run counted by the orchestrator's state. -/
structure LeftBy (w : Work) (mt : MultiTransportDiscoveryResult) (db : Db schema) : Prop where
  result : ∃ k row, (db .results).get k = some row ∧ w.Owns row ∧
    row.resultState = some (failureResultState (chainFailure mt).1)
  run : ∀ run, (db .runs).get w.job.runId = some run →
    ∀ st ∈ countedStates, total run st = if st = mt.resultState then 1 else 0

/-- What the failure path commits does not depend on what was there. -/
theorem failChain_yields {deviceResult : DiscoveryDeviceResultRecord}
    {mt : MultiTransportDiscoveryResult} :
    Yields (chainFocus w) N s (failChain w deviceResult mt) σ fun _ σ' =>
      LeftBy w mt σ'.db := by
  unfold failChain
  refine (anything _).bind fun _ σ₁ _ => ?_
  unfold DiscoveryJobRepository.markFailedAfterRollback
  refine Yields.bind (rollback_yields.bind ?_ : Yields (chainFocus w) N s _ σ₁ fun _ σ' =>
    ∃ W, σ'.Knows (chainFocus w) s W []) ?_
  · rintro _ σ₂ ⟨W, h₂⟩
    exact (transition_keeps h₂).imp fun _ σ₃ h₃ => ⟨W, h₃⟩
  rintro failed σ₂ ⟨W, h₂⟩
  refine (finalizeSingleDeviceRun_yields h₂).bind ?_
  rintro _ σ₃ ⟨W₁, h₃, hrun⟩
  refine (ensureDeviceResultForFailure_yields h₃).bind ?_
  rintro _ σ₄ ⟨W₂, k, h₄, hsame, hresult⟩
  refine (Yields.commit h₄).bind ?_
  rintro _ σ₅ ⟨_, hdb⟩
  refine Yields.pure ⟨?_, fun run hget => ?_⟩
  · have hshown := hdb .results k
    rw [hresult] at hshown
    obtain ⟨row, hrow, hof⟩ := Option.bind_eq_some_iff.1 hshown
    change (if row.childJobId = w.job.id ∧ row.tenantId = w.target.tenantId then
      some row.resultState else none) = _ at hof
    split at hof
    · exact ⟨k, row, hrow, ‹_›, Option.some.inj hof⟩
    · cases hof
  · refine hrun run ?_
    rw [← hsame, ← hdb, Focus.shown, hget, Option.bind_some]
    exact if_pos ((σ₅.db .runs).keyed _ _ hget)

end

/-! ## The classification -/

/-- What an execution that ended failed should leave: its device result has the orchestrator's
state, the run counts that state, and so does the run of the scope the device belongs to. -/
structure Kept (w : Work) (state : DiscoveryResultState) (db : Db schema) : Prop where
  result : ∃ k row, (db .results).get k = some row ∧ w.Owns row ∧ row.resultState = some state ∧
    CountedAs state row
  run : ∀ run, (db .runs).get w.job.runId = some run → Counts state run

/-- `child_job_id` is unique. -/
def UniqueChild (db : Db schema) : Prop :=
  ∀ k k' r r', (db .results).get k = some r → (db .results).get k' = some r' →
    r.childJobId = r'.childJobId → k = k'

theorem LeftBy.kept_iff {w : Work} {mt : MultiTransportDiscoveryResult} {db : Db schema}
    (h : LeftBy w mt db) (hmt : Classified mt) (hunique : UniqueChild db) :
    Kept w mt.resultState db ↔ Restorable mt.attempts := by
  obtain ⟨k, row, hget, howns, hstate⟩ := h.result
  constructor
  · intro hkept
    obtain ⟨k', row', hget', howns', hstate', _⟩ := hkept.result
    have hk := hunique k k' row row' hget hget' (howns.1.trans howns'.1.symm)
    rw [hk, hget'] at hget
    cases hget
    exact (restored_iff hmt).1 (Option.some.inj (hstate.symm.trans hstate'))
  · intro hrestorable
    rw [(restored_iff hmt).2 hrestorable] at hstate
    refine ⟨⟨k, row, hget, howns, hstate, countedAs_of_state hstate⟩, fun run hrun => ?_⟩
    refine ⟨?_, h.run run hrun⟩
    rcases restorable_state hmt hrestorable with hst | hst | hst <;> rw [hst] <;> decide

/-- The classification a failed execution commits is the orchestrator's, and counted so, if and
only if no transport succeeded and one failed to authenticate or none was unavailable. -/
theorem classification_kept_iff {Sid : Type} [DecidableEq Sid] (rt : Runtime) (w : Work) (s : Sid)
    (σ : Store schema Sid) :
    Yields (chainFocus w) [] s (executeReporting rt w) σ fun r σ' =>
      ∀ mt, r.1 = some mt → UniqueChild σ'.db →
        (Kept w mt.resultState σ'.db ↔ Restorable mt.attempts) := by
  have hrun : Yields (chainFocus w) [] s (runChain rt w) σ fun run _ => Classified run.mt := by
    unfold runChain
    refine (anything _).bind fun policy σ₁ _ => (anything _).bind fun deviceResult σ₂ _ => ?_
    refine (anything _).bind fun _ σ₃ _ => ?_
    dsimp only
    cases (buildTransportConfigs rt.registry w.job w.target policy w.watch).getLast? with
    | none => exact (anything _).bind fun _ _ _ => Yields.throw
    | some last =>
      refine Yields.bind (discoverWithFallback_classified (fun _ _ => trivial) ..) ?_
      intro mt σ₄ hmt
      refine (anything _).bind fun _ σ₅ _ => (anything _).bind fun result σ₆ _ => ?_
      exact (anything _).bind fun published σ₇ _ => Yields.pure hmt
  unfold executeReporting
  refine hrun.bind fun run σ₁ hmt => ?_
  split
  · exact Yields.pure (by simp)
  · refine failChain_yields.bind fun outcome σ₂ hleft => Yields.pure ?_
    rintro mt ⟨rfl⟩ hunique
    exact hleft.kept_iff hmt hunique

/-! ## A driver that is not installed -/

/-- A collector whose SSH driver is missing. -/
def driverless : Collector where
  name := "generic"
  capabilities := [.ssh]
  parser := none
  healthCheck _ := .done (.error (.transportUnavailable "SSH driver is not installed."))
  collect _ := .done (.ok [])
  normalize _ _ := .ok false

def driverlessWork : Work where
  tenantId := Samples.tenant
  job := { Samples.deviceJob with state := .running, parentJobId := none }
  target := Samples.deviceTarget.view
  watch := ⟨Samples.tenant, 22, none, false⟩

def driverlessStore : Store schema Unit :=
  Samples.store (Samples.tables [driverlessWork.job] [Samples.deviceResult])

/-- The orchestrator's state, and the states and children of the committed results. -/
def reported (r : Except Exn (Option MultiTransportDiscoveryResult × DiscoveryExecutionOutcome) ×
    Store schema Unit) : Option (Option DiscoveryResultState ×
      List (UUID × UUID × Option DiscoveryResultState)) :=
  match r.1 with
  | .ok (mt, _) => some (mt.map (·.resultState),
      (r.2.db .results).rows.map fun row => (row.id, row.childJobId, row.resultState))
  | .error _ => none

theorem driverless_reported :
    ((ExceptT.run (executeReporting ⟨⟨[("generic", driverless)]⟩, id⟩ driverlessWork)).drive
      (Samples.world 0 50) () driverlessStore).map reported =
      some (some (some .unverified, [(31, 22, some .reachableNoManagement)])) := by
  decide

/-- No transport could be tested, and the device is recorded as reached. -/
theorem classification_kept_fails :
    ¬ Yields (chainFocus driverlessWork) [] ()
      (executeReporting ⟨⟨[("generic", driverless)]⟩, id⟩ driverlessWork) driverlessStore
      fun r σ' => ∀ mt, r.1 = some mt → UniqueChild σ'.db →
        Kept driverlessWork mt.resultState σ'.db := by
  intro h
  obtain ⟨⟨r, σ'⟩, hrun, hreported⟩ := Option.map_eq_some_iff.1 driverless_reported
  have hkept := Prog.Sat.drive (C := undisturbed (chainFocus driverlessWork) [] ())
    (fun _ _ => ⟨fun _ _ => rfl, rfl, rfl, rfl⟩) (fun _ _ _ _ => undisturbed_answer) h hrun
  cases r with
  | error e => cases hreported
  | ok result =>
    obtain ⟨_ | mt, outcome⟩ := result
    · simp [reported] at hreported
    simp only [reported, Option.map_some, Option.some.injEq, Prod.mk.injEq] at hreported
    obtain ⟨hstate, hrows⟩ := hreported
    have hrow : ∀ k row, (σ'.db .results).get k = some row →
        k = 31 ∧ row.resultState = some .reachableNoManagement := by
      intro k row hget
      have hmem := List.mem_map_of_mem (f := fun row : DiscoveryDeviceResultRecord =>
        (row.id, row.childJobId, row.resultState)) (Tbl.mem_rows_of_get hget)
      rw [hrows, List.mem_singleton, Prod.mk.injEq, Prod.mk.injEq] at hmem
      have hk : row.id = k := (σ'.db .results).keyed _ _ hget
      exact ⟨hk.symm.trans hmem.1, hmem.2.2⟩
    have hunique : UniqueChild σ'.db := fun k k' r r' hr hr' _ =>
      (hrow k r hr).1.trans (hrow k' r' hr').1.symm
    obtain ⟨⟨k, row, hget, _, hrowState, _⟩, _⟩ := hkept mt rfl hunique
    rw [(hrow k row hget).2, hstate] at hrowState
    cases hrowState

end DiscoveryExecutionService
end Discovery
end NetOps
