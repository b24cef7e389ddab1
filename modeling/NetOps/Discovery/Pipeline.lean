import NetOps.Discovery.Collectors
import NetOps.Snapshot.Integrity

/-!
# Discovery.Pipeline

The pipelines of the discovery engine (`discovery/pipeline.py`, `discovery/engine.py`,
`discovery/scheduler.py`) with their filters and statistics: what the selected collectors give is
merged, checked and saved. A collector may raise at any of its calls, and so may the repository.

* `run_saves`: whatever is run, what is saved is the merge of what the collectors of one context
  gave, integral and with one device for each id.
* `run_accounted`: the counters of every pipeline account for its contexts, up to the one whose
  error ended the run.
-/

namespace NetOps
namespace Discovery
namespace Pipeline

open Clock (Datetime)
open Snapshot (Entities.InventorySnapshot Merge.Defaults Merge.InventorySnapshot.merge)
open Snapshot.Integrity

variable {F T E : Type}

abbrev Inventory (F : Type) := Entities.InventorySnapshot Datetime F

/-- What a pipeline reads of a context, which stands for one run on a target. The defaults are those
of the merged snapshot, and `now` is the time at which it is checked. -/
structure DiscoveryContext (T : Type) where
  target : T
  targetCapabilities : List CollectorCapability := []
  requiredCapabilities : List CollectorCapability := []
  pipelineName : String := "default"
  defaults : Merge.Defaults
  now : Int

/-! ## Filters -/

/-- `CapabilityDiscoveryFilter` and the compositions of filters. -/
inductive DiscoveryFilter where
  | capability (capabilities : List CollectorCapability)
  | and (filters : List DiscoveryFilter)
  | or (filters : List DiscoveryFilter)
  | not (filter : DiscoveryFilter)

namespace DiscoveryFilter

mutual

def Matches (context : DiscoveryContext T) : DiscoveryFilter → Bool
  | capability capabilities => capabilities.all fun c =>
      context.requiredCapabilities.contains c || context.targetCapabilities.contains c
  | and filters => allMatch context filters
  | or filters => anyMatches context filters
  | not filter => !filter.Matches context

def allMatch (context : DiscoveryContext T) : List DiscoveryFilter → Bool
  | [] => true
  | filter :: filters => filter.Matches context && allMatch context filters

def anyMatches (context : DiscoveryContext T) : List DiscoveryFilter → Bool
  | [] => false
  | filter :: filters => filter.Matches context || anyMatches context filters

end

end DiscoveryFilter

/-! ## Statistics -/

/-- The counters of `DiscoveryStatistics`, and whether `completed_at` is set. -/
structure DiscoveryStatistics where
  totalTargets : Nat := 0
  processedTargets : Nat := 0
  discoveredTargets : Nat := 0
  successfulTargets : Nat := 0
  failedTargets : Nat := 0
  skippedTargets : Nat := 0
  completed : Bool := false
  deriving DecidableEq

namespace DiscoveryStatistics

/-- `mark_total(1)`, `mark_started` and `mark_processed`. -/
def start (s : DiscoveryStatistics) : DiscoveryStatistics :=
  { s with totalTargets := 1, processedTargets := s.processedTargets + 1, completed := false }

def markDiscovered (s : DiscoveryStatistics) (count : Nat) : DiscoveryStatistics :=
  { s with discoveredTargets := s.discoveredTargets + count }

def markSuccess (s : DiscoveryStatistics) : DiscoveryStatistics :=
  { s with successfulTargets := s.successfulTargets + 1 }

def markSkipped (s : DiscoveryStatistics) : DiscoveryStatistics :=
  { s with skippedTargets := s.skippedTargets + 1 }

def markCompleted (s : DiscoveryStatistics) : DiscoveryStatistics := { s with completed := true }

end DiscoveryStatistics

/-! ## Pipelines -/

/-- A collector; `collect` is its `health_check`, `discover`, `collect` and `normalize` in turn. -/
structure Collector (F T E : Type) where
  name : String
  capabilities : List CollectorCapability := []
  collect : DiscoveryContext T → Except E (Inventory F)

/-- `save` is the repository, if there is one. -/
structure DiscoveryPipeline (F T E : Type) where
  collectors : Dict String (Collector F T E)
  save : Option (Inventory F → Except E Unit) := none
  filters : List DiscoveryFilter := []

inductive Raised (E : Type) where
  | collector (error : E)
  | merge (error : Clock.CompareError)
  | validation (error : SnapshotValidationError)
  | repository (error : E)
  | unknownPipeline (name : String)

/-- What a pipeline has done so far. -/
structure PipelineState (F : Type) where
  statistics : DiscoveryStatistics := {}
  saved : List (Inventory F) := []

namespace DiscoveryPipeline

variable (p : DiscoveryPipeline F T E) (repr : String → String)

/-- `collector_registry.select`. -/
def select (capabilities : List CollectorCapability) : List (Collector F T E) :=
  p.collectors.values.filter fun c => capabilities.all c.capabilities.contains

/-- The loop over the collectors, with the number of those that gave a snapshot. -/
def collectAll (context : DiscoveryContext T) :
    List (Collector F T E) → Except E (List (Inventory F)) × Nat
  | [] => (.ok [], 0)
  | collector :: rest =>
    match collector.collect context with
    | .error e => (.error e, 0)
    | .ok snapshot =>
      match collectAll context rest with
      | (.error e, n) => (.error e, n + 1)
      | (.ok snapshots, n) => (.ok (snapshot :: snapshots), n + 1)

/-- From the snapshots on. -/
def store (context : DiscoveryContext T) (snapshots : List (Inventory F))
    (state : PipelineState F) : Except (Raised E) (Inventory F) × PipelineState F :=
  match Merge.InventorySnapshot.merge context.defaults snapshots with
  | .error e => (.error (.merge e), state)
  | .ok snapshot =>
    match validateSnapshotIntegrity context.now repr snapshot with
    | .error e => (.error (.validation e), state)
    | .ok () =>
      let done := { state with statistics := state.statistics.markSuccess.markCompleted }
      match p.save with
      | none => (.ok snapshot, done)
      | some save =>
        match save snapshot with
        | .error e => (.error (.repository e), state)
        | .ok () => (.ok snapshot, { done with saved := state.saved ++ [snapshot] })

def execute (context : DiscoveryContext T) (state : PipelineState F) :
    Except (Raised E) (Inventory F) × PipelineState F :=
  let state := { state with statistics := state.statistics.start }
  if p.filters.all (·.Matches context) then
    match collectAll context (p.select context.requiredCapabilities) with
    | (.error e, n) =>
      (.error (.collector e), { state with statistics := state.statistics.markDiscovered n })
    | (.ok snapshots, n) =>
      store p repr context snapshots
        { state with statistics := state.statistics.markDiscovered n }
  else (.ok (Snapshot.Merge.InventorySnapshot.empty context.defaults),
    { state with statistics := state.statistics.markSkipped.markCompleted })

/-- What the selected collectors gave, merged and found sound. -/
structure Collected (context : DiscoveryContext T) (snapshots : List (Inventory F))
    (snapshot : Inventory F) : Prop where
  passed : ∀ filter ∈ p.filters, filter.Matches context = true
  given : List.Forall₂ (fun collector snapshot => collector.collect context = .ok snapshot)
    (p.select context.requiredCapabilities) snapshots
  merged : Merge.InventorySnapshot.merge context.defaults snapshots = .ok snapshot
  integral : Integral context.now snapshot
  nodup : (snapshot.devices.map (·.deviceId)).Nodup

/-- The three ways an execution can end. -/
inductive Executed (context : DiscoveryContext T) (state : PipelineState F) :
    Except (Raised E) (Inventory F) → PipelineState F → Prop
  | skipped : Executed context state (.ok (Snapshot.Merge.InventorySnapshot.empty context.defaults))
      { state with statistics := state.statistics.start.markSkipped.markCompleted }
  | raised (error : Raised E) (n : Nat) : Executed context state (.error error)
      { state with statistics := state.statistics.start.markDiscovered n }
  | completed {snapshots : List (Inventory F)} {snapshot : Inventory F}
      (collected : p.Collected context snapshots snapshot) :
      Executed context state (.ok snapshot)
        { statistics :=
            (state.statistics.start.markDiscovered snapshots.length).markSuccess.markCompleted
          saved := state.saved ++ if p.save.isSome then [snapshot] else [] }

variable {p}

theorem collectAll_ok {context : DiscoveryContext T} {collectors : List (Collector F T E)}
    {snapshots : List (Inventory F)} {n : Nat}
    (h : collectAll context collectors = (.ok snapshots, n)) :
    n = snapshots.length ∧ List.Forall₂
      (fun collector snapshot => collector.collect context = .ok snapshot)
      collectors snapshots := by
  induction collectors generalizing snapshots n with
  | nil =>
    cases h
    exact ⟨rfl, .nil⟩
  | cons collector rest ih =>
    rw [collectAll] at h
    cases hcollect : collector.collect context with
    | error e =>
      rw [hcollect] at h
      cases h
    | ok snapshot =>
      rw [hcollect] at h
      rcases hrest : collectAll context rest with ⟨result, m⟩
      rw [hrest] at h
      cases result with
      | error e => cases h
      | ok snapshots' =>
        cases h
        obtain ⟨hlength, hgiven⟩ := ih hrest
        exact ⟨by rw [hlength, List.length_cons], .cons hcollect hgiven⟩

/-- The merge has no id twice, so that only the other checks can fail. -/
theorem store_cases (context : DiscoveryContext T) (snapshots : List (Inventory F))
    (state : PipelineState F) :
    (∃ e, p.store repr context snapshots state = (.error e, state)) ∨
    ∃ snapshot, Merge.InventorySnapshot.merge context.defaults snapshots = .ok snapshot ∧
      Integral context.now snapshot ∧
      p.store repr context snapshots state = (.ok snapshot,
        { statistics := state.statistics.markSuccess.markCompleted
          saved := state.saved ++ if p.save.isSome then [snapshot] else [] }) := by
  rw [store]
  cases hmerge : Merge.InventorySnapshot.merge context.defaults snapshots with
  | error e => exact .inl ⟨_, rfl⟩
  | ok snapshot =>
    cases hvalid : validateSnapshotIntegrity context.now repr snapshot with
    | error e => exact .inl ⟨.validation e, by simp only [hvalid]⟩
    | ok u =>
      have hintegral := (integrity_ok_iff.1 hvalid).1
      simp only [hvalid]
      cases p.save with
      | none =>
        exact .inr ⟨snapshot, rfl, hintegral, by simp⟩
      | some save =>
        cases hsave : save snapshot with
        | error e => exact .inl ⟨.repository e, by simp only [hsave]⟩
        | ok u => exact .inr ⟨snapshot, rfl, hintegral, by simp [hsave]⟩

theorem execute_executed (context : DiscoveryContext T) (state : PipelineState F) :
    p.Executed context state (p.execute repr context state).1
      (p.execute repr context state).2 := by
  rw [execute]
  cases hpassed : p.filters.all (·.Matches context) with
  | false => exact .skipped
  | true =>
    rcases hall : collectAll context (p.select context.requiredCapabilities) with ⟨result, n⟩
    cases result with
    | error e => exact .raised _ n
    | ok snapshots =>
      obtain ⟨rfl, hgiven⟩ := collectAll_ok hall
      obtain ⟨e, hstore⟩ | ⟨snapshot, hmerge, hintegral, hstore⟩ :=
        p.store_cases repr context snapshots { state with
          statistics := state.statistics.start.markDiscovered snapshots.length }
      · simp only [hstore]
        exact .raised e snapshots.length
      · simp only [hstore]
        exact .completed ⟨List.all_eq_true.1 hpassed, hgiven, hmerge, hintegral,
          merge_nodup hmerge⟩

end DiscoveryPipeline

/-! ## Engine -/

structure DiscoveryRunResult (F : Type) where
  pipelineName : String
  snapshot : Inventory F

/-- The registry has no pipeline under two names. -/
structure DiscoveryEngine (F T E : Type) where
  pipelines : Dict String (DiscoveryPipeline F T E)

/-- What every pipeline has done, by its name. -/
abbrev States (F : Type) := String → PipelineState F

namespace DiscoveryEngine

variable (engine : DiscoveryEngine F T E) (repr : String → String)

def run (context : DiscoveryContext T) (states : States F) :
    Except (Raised E) (DiscoveryRunResult F) × States F :=
  match engine.pipelines.get? context.pipelineName with
  | none => (.error (.unknownPipeline context.pipelineName), states)
  | some p =>
    let (result, state) := p.execute repr context (states context.pipelineName)
    (result.map fun snapshot => ⟨context.pipelineName, snapshot⟩,
      Function.update states context.pipelineName state)

end DiscoveryEngine

/-- `DiscoveryScheduler.run`. -/
def DiscoveryScheduler.run (engine : DiscoveryEngine F T E) (repr : String → String) :
    List (DiscoveryContext T) → States F →
      Except (Raised E) (List (DiscoveryRunResult F)) × States F
  | [], states => (.ok [], states)
  | context :: rest, states =>
    match engine.run repr context states with
    | (.error e, states) => (.error e, states)
    | (.ok result, states) =>
      match DiscoveryScheduler.run engine repr rest states with
      | (.error e, states) => (.error e, states)
      | (.ok results, states) => (.ok (result :: results), states)

namespace DiscoveryEngine

variable (engine : DiscoveryEngine F T E) (repr : String → String)

theorem run_cases (context : DiscoveryContext T) (states : States F) :
    (engine.pipelines.get? context.pipelineName = none ∧
      engine.run repr context states =
        (.error (.unknownPipeline context.pipelineName), states)) ∨
    ∃ p result state, engine.pipelines.get? context.pipelineName = some p ∧
      p.Executed context (states context.pipelineName) result state ∧
      engine.run repr context states =
        (result.map fun snapshot => ⟨context.pipelineName, snapshot⟩,
          Function.update states context.pipelineName state) := by
  rw [run]
  cases hp : engine.pipelines.get? context.pipelineName with
  | none => exact .inl ⟨rfl, rfl⟩
  | some p => exact .inr ⟨p, _, _, rfl, p.execute_executed repr context _, rfl⟩

/-- What every run keeps, a sequence of runs keeps. -/
theorem schedule_keeps {P : States F → Prop} {contexts : List (DiscoveryContext T)}
    (hrun : ∀ context ∈ contexts, ∀ states, P states → P (engine.run repr context states).2)
    {states : States F} (h : P states) :
    P (DiscoveryScheduler.run engine repr contexts states).2 := by
  induction contexts generalizing states with
  | nil => exact h
  | cons context rest ih =>
    have hfirst := hrun context List.mem_cons_self states h
    rw [DiscoveryScheduler.run]
    rcases hone : engine.run repr context states with ⟨result, states'⟩
    rw [hone] at hfirst
    cases result with
    | error e => exact hfirst
    | ok result =>
      have hrest := ih (fun context hmem => hrun context (List.mem_cons_of_mem _ hmem)) hfirst
      rcases hothers : DiscoveryScheduler.run engine repr rest states' with ⟨results, states''⟩
      rw [hothers] at hrest
      simp only [hothers]
      cases results <;> exact hrest

/-! ## What is saved -/

/-- `name`'s pipeline made the snapshot of what its collectors gave for one of the contexts. -/
def Origin (contexts : List (DiscoveryContext T)) (name : String)
    (snapshot : Inventory F) : Prop :=
  ∃ context ∈ contexts, context.pipelineName = name ∧
    ∃ p, engine.pipelines.get? name = some p ∧ p.save.isSome ∧
      ∃ snapshots, p.Collected context snapshots snapshot

theorem run_saved {contexts : List (DiscoveryContext T)} {context : DiscoveryContext T}
    (hcontext : context ∈ contexts) {states : States F}
    (h : ∀ name, ∀ snapshot ∈ (states name).saved, engine.Origin contexts name snapshot) :
    ∀ name, ∀ snapshot ∈ ((engine.run repr context states).2 name).saved,
      engine.Origin contexts name snapshot := by
  intro name snapshot hmem
  obtain ⟨-, hrun⟩ | ⟨p, result, state, hp, hexecuted, hrun⟩ :=
    engine.run_cases repr context states
  · rw [hrun] at hmem
    exact h name snapshot hmem
  · simp only [hrun] at hmem
    by_cases hname : name = context.pipelineName
    · subst hname
      rw [Function.update_self] at hmem
      cases hexecuted with
      | skipped => exact h _ snapshot hmem
      | raised e n => exact h _ snapshot hmem
      | completed collected =>
        rcases List.mem_append.1 hmem with hold | hnew
        · exact h _ snapshot hold
        · cases hsave : p.save.isSome with
          | false =>
            rw [hsave] at hnew
            cases hnew
          | true =>
            rw [hsave] at hnew
            cases List.mem_singleton.1 hnew
            exact ⟨context, hcontext, rfl, p, hp, hsave, _, collected⟩
    · rw [Function.update_of_ne hname] at hmem
      exact h name snapshot hmem

theorem run_saves (contexts : List (DiscoveryContext T)) (name : String) (snapshot : Inventory F)
    (h : snapshot ∈ ((DiscoveryScheduler.run engine repr contexts fun _ => {}).2 name).saved) :
    engine.Origin contexts name snapshot := by
  have hnone : ∀ name, ∀ snapshot ∈ ((fun _ => {} : States F) name).saved,
      engine.Origin contexts name snapshot := by
    intro name snapshot hmem
    cases hmem
  exact engine.schedule_keeps repr
    (P := fun states => ∀ name, ∀ snapshot ∈ (states name).saved,
      engine.Origin contexts name snapshot)
    (fun context hcontext states => engine.run_saved repr hcontext) hnone name snapshot h

/-- A collector that finds a core switch at two o'clock, before a repository that takes it. -/
def nightlyEngine : DiscoveryEngine Unit Unit Unit where
  pipelines := Dict.ofList [("default",
    { collectors := Dict.ofList
        [("core", { name := "core", collect := fun _ => .ok (Snapshot.Merge.nightly 2 ["core"]) })]
      save := some fun _ => .ok () })]

def nightlyContext : DiscoveryContext Unit where
  target := ()
  defaults := ⟨7, (Snapshot.Merge.nightly 3 []).capturedAt⟩
  now := (Snapshot.Merge.nightly 3 []).capturedAt.instant

theorem run_saves_nightly :
    nightlyEngine.Origin [nightlyContext] "default"
      { Snapshot.Merge.nightly 2 ["core"] with snapshotId := 7 } :=
  nightlyEngine.run_saves id [nightlyContext] "default" _ (List.mem_singleton.2 rfl)

/-! ## What is counted -/

/-- Whether the pipeline of the name has a repository. -/
def saves (name : String) : Bool :=
  (engine.pipelines.get? name).any (·.save.isSome)

/-- How many of the contexts are for the pipeline of the name. -/
def met (contexts : List (DiscoveryContext T)) (name : String) : Nat :=
  contexts.countP fun context =>
    context.pipelineName == name && (engine.pipelines.get? name).isSome

theorem met_cons (context : DiscoveryContext T) (rest : List (DiscoveryContext T)) (name : String) :
    engine.met (context :: rest) name = engine.met [context] name + engine.met rest name := by
  rw [met, ← List.singleton_append, List.countP_append]
  rfl

theorem met_singleton (context : DiscoveryContext T) (name : String) :
    engine.met [context] name =
      if context.pipelineName = name ∧ (engine.pipelines.get? name).isSome then 1 else 0 := by
  simp [met, List.countP_singleton]

/-- Between two states of a pipeline some contexts were completed and others raised: all are
processed, the completed ones are successful or skipped, none is failed. -/
structure Accounts (saves : Bool) (completed raised : Nat) (before after : PipelineState F) :
    Prop where
  processed : after.statistics.processedTargets =
    before.statistics.processedTargets + completed + raised
  settled : after.statistics.successfulTargets + after.statistics.skippedTargets =
    before.statistics.successfulTargets + before.statistics.skippedTargets + completed
  failed : after.statistics.failedTargets = before.statistics.failedTargets
  saved : saves = true → after.saved.length + before.statistics.successfulTargets =
    before.saved.length + after.statistics.successfulTargets

namespace Accounts

theorem refl (saves : Bool) (state : PipelineState F) : Accounts saves 0 0 state state :=
  ⟨rfl, rfl, rfl, fun _ => rfl⟩

theorem trans {saves : Bool} {completed completed' raised raised' : Nat}
    {a b c : PipelineState F} (hab : Accounts saves completed raised a b)
    (hbc : Accounts saves completed' raised' b c) :
    Accounts saves (completed + completed') (raised + raised') a c := by
  refine ⟨?_, ?_, hbc.failed.trans hab.failed, fun hsaves => ?_⟩
  · have hab := hab.processed
    have hbc := hbc.processed
    omega
  · have hab := hab.settled
    have hbc := hbc.settled
    omega
  · have hab := hab.saved hsaves
    have hbc := hbc.saved hsaves
    omega

end Accounts

theorem executed_accounts {p : DiscoveryPipeline F T E} {context : DiscoveryContext T}
    {state state' : PipelineState F} {result : Except (Raised E) (Inventory F)}
    (h : p.Executed context state result state') :
    Accounts p.save.isSome (if result.isOk then 1 else 0) (if result.isOk then 0 else 1)
      state state' := by
  cases h with
  | skipped => exact ⟨rfl, rfl, rfl, fun _ => rfl⟩
  | raised e n => exact ⟨rfl, rfl, rfl, fun _ => rfl⟩
  | completed collected =>
    refine ⟨rfl, ?_, rfl, fun hsave => ?_⟩
    · exact Nat.add_right_comm _ _ _
    · rw [hsave, if_pos rfl, List.length_append, List.length_singleton]
      exact Nat.add_right_comm _ _ _

theorem run_pipelineName {context : DiscoveryContext T} {states states' : States F}
    {result : DiscoveryRunResult F} (h : engine.run repr context states = (.ok result, states')) :
    result.pipelineName = context.pipelineName := by
  obtain ⟨-, hrun⟩ | ⟨p, result', state, -, -, hrun⟩ :=
    engine.run_cases repr context states
  · rw [hrun] at h
    cases h
  · rw [hrun] at h
    cases result' <;> cases h
    rfl

/-- One run, for every pipeline. -/
theorem run_accounts (context : DiscoveryContext T) (states : States F) (name : String) :
    Accounts (engine.saves name)
      (if (engine.run repr context states).1.isOk then engine.met [context] name else 0)
      (if (engine.run repr context states).1.isOk then 0 else engine.met [context] name)
      (states name) ((engine.run repr context states).2 name) := by
  obtain ⟨hp, hrun⟩ | ⟨p, result, state, hp, hexecuted, hrun⟩ :=
    engine.run_cases repr context states
  · have hmet : engine.met [context] name = 0 := by
      rw [met_singleton, if_neg]
      rintro ⟨rfl, hsome⟩
      rw [hp] at hsome
      cases hsome
    simp only [hrun, hmet, ite_self]
    exact .refl _ _
  · have hok : (result.map fun snapshot =>
        (⟨context.pipelineName, snapshot⟩ : DiscoveryRunResult F)).isOk = result.isOk := by
      cases result <;> rfl
    simp only [hrun, hok]
    by_cases hname : name = context.pipelineName
    · subst hname
      have hmet : engine.met [context] context.pipelineName = 1 := by
        rw [met_singleton, hp, if_pos ⟨rfl, rfl⟩]
      have hsaves : engine.saves context.pipelineName = p.save.isSome := by rw [saves, hp]; rfl
      rw [Function.update_self, hmet, hsaves]
      exact executed_accounts hexecuted
    · have hmet : engine.met [context] name = 0 := by
        rw [met_singleton, if_neg fun h => hname h.1.symm]
      rw [Function.update_of_ne hname, hmet, ite_self]
      exact .refl _ _

/-- The contexts up to the one that raised are accounted for, and none after it. -/
theorem run_accounted (contexts : List (DiscoveryContext T)) (states : States F) :
    (∀ results states',
      DiscoveryScheduler.run engine repr contexts states = (.ok results, states') →
      results.map (·.pipelineName) = contexts.map (·.pipelineName) ∧
      ∀ name, Accounts (engine.saves name) (engine.met contexts name) 0
        (states name) (states' name)) ∧
    (∀ error states', DiscoveryScheduler.run engine repr contexts states = (.error error, states') →
      ∃ before context after results mid, contexts = before ++ context :: after ∧
      DiscoveryScheduler.run engine repr before states = (.ok results, mid) ∧
      engine.run repr context mid = (.error error, states') ∧
      ∀ name, Accounts (engine.saves name) (engine.met before name)
        (engine.met [context] name) (states name) (states' name)) := by
  induction contexts generalizing states with
  | nil =>
    constructor
    · rintro results states' ⟨⟩
      exact ⟨rfl, fun name => .refl _ _⟩
    · rintro error states' ⟨⟩
  | cons context rest ih =>
    have hfirst := engine.run_accounts repr context states
    rw [DiscoveryScheduler.run]
    rcases hone : engine.run repr context states with ⟨result, states'⟩
    rw [hone] at hfirst
    cases result with
    | error e =>
      constructor
      · rintro results states' ⟨⟩
      · rintro error states' ⟨⟩
        exact ⟨[], context, rest, [], states, rfl, rfl, hone, hfirst⟩
    | ok result =>
      have hname := engine.run_pipelineName repr hone
      have hrest := ih states'
      rcases hothers : DiscoveryScheduler.run engine repr rest states' with ⟨results, states''⟩
      simp only [hothers]
      cases results with
      | ok results =>
        constructor
        · rintro results' states' ⟨⟩
          obtain ⟨hnames, haccounts⟩ := hrest.1 results states'' hothers
          refine ⟨by rw [List.map_cons, List.map_cons, hname, hnames], fun name => ?_⟩
          rw [met_cons]
          exact (hfirst name).trans (haccounts name)
        · rintro error states' ⟨⟩
      | error e =>
        constructor
        · rintro results' states' ⟨⟩
        · rintro error states' ⟨⟩
          obtain ⟨before, failing, after, done, mid, rfl, hbefore, hfailing, haccounts⟩ :=
            hrest.2 e states'' hothers
          have hdone : DiscoveryScheduler.run engine repr (context :: before) states =
              (.ok (result :: done), mid) := by
            rw [DiscoveryScheduler.run, hone]
            simp only [hbefore]
          refine ⟨context :: before, failing, after, _, mid, rfl, hdone, hfailing, fun name => ?_⟩
          rw [met_cons, ← Nat.zero_add (engine.met [failing] name)]
          exact (hfirst name).trans (haccounts name)

end DiscoveryEngine

end Pipeline
end Discovery
end NetOps
