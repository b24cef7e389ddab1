import NetOps.Discovery.Claims

/-!
# Discovery.Growth

What discovery never takes back, whatever runs beside what.

* A committed job only moves forward: its request is fixed, its phase does not go back, its start
  is dated once, and a completion, a failure or a cancellation request is never withdrawn
  (`jobs_move_forward`).
* Committed evidence and live snapshots are never changed (`records_final`).
-/

namespace NetOps
namespace Discovery

open Conc DiscoveryJobRepository

/-! ## Jobs -/

/-- `queued`, then `running`, then one of the terminal states. -/
def DiscoveryJobStatus.phase : DiscoveryJobStatus → Nat
  | .queued => 0
  | .running => 1
  | .succeeded | .failed | .timedOut | .cancelled => 2

theorem DiscoveryJobStatus.phase_le (s : DiscoveryJobStatus) : s.phase ≤ 2 := by
  cases s <;> decide

/-- A state that is not terminal comes before every state but `queued`. -/
theorem DiscoveryJobStatus.phase_mono {s s' : DiscoveryJobStatus} (hs : s.isTerminal = false)
    (hs' : s' ≠ .queued) : s.phase ≤ s'.phase := by
  cases s <;> cases s' <;> simp_all [phase, isTerminal]

/-- `r'` is a later version of the job `r`. -/
structure DiscoveryJobRecord.Grows (r r' : DiscoveryJobRecord) : Prop where
  owner : r'.tenantId = r.tenantId ∧ r'.targetId = r.targetId ∧ r'.runId = r.runId ∧
    r'.parentJobId = r.parentJobId
  request : r'.requestedAt = r.requestedAt ∧
    r'.requestedCapabilities = r.requestedCapabilities ∧
    r'.timeoutSeconds = r.timeoutSeconds ∧ r'.correlationId = r.correlationId
  phase : r.state.phase ≤ r'.state.phase
  started : r.state ≠ .queued → r'.startedAt = r.startedAt ∧ r'.attempts = r.attempts
  completed : r.completedAt.isSome → r'.completedAt.isSome
  failed : r.failureCode.isSome → r'.failureCode.isSome
  cancelling : r.cancellationRequestedAt.isSome → r'.cancellationRequestedAt.isSome

namespace DiscoveryJobRecord.Grows

theorem refl (r : DiscoveryJobRecord) : r.Grows r where
  owner := ⟨rfl, rfl, rfl, rfl⟩
  request := ⟨rfl, rfl, rfl, rfl⟩
  phase := Nat.le_refl _
  started _ := ⟨rfl, rfl⟩
  completed h := h
  failed h := h
  cancelling h := h

/-- A job whose phase is that of `r` or a later one has left the queue if `r` has. -/
theorem ne_queued {r r' : DiscoveryJobRecord} (h : r.Grows r') (hr : r.state ≠ .queued) :
    r'.state ≠ .queued := by
  intro hq
  have hle := h.phase
  rw [hq] at hle
  cases hs : r.state <;> simp_all [DiscoveryJobStatus.phase]

theorem trans (a b c : DiscoveryJobRecord) (h : a.Grows b) (h' : b.Grows c) : a.Grows c where
  owner := by
    obtain ⟨h₁, h₂, h₃, h₄⟩ := h.owner
    obtain ⟨h₁', h₂', h₃', h₄'⟩ := h'.owner
    exact ⟨h₁'.trans h₁, h₂'.trans h₂, h₃'.trans h₃, h₄'.trans h₄⟩
  request := by
    obtain ⟨h₁, h₂, h₃, h₄⟩ := h.request
    obtain ⟨h₁', h₂', h₃', h₄'⟩ := h'.request
    exact ⟨h₁'.trans h₁, h₂'.trans h₂, h₃'.trans h₃, h₄'.trans h₄⟩
  phase := h.phase.trans h'.phase
  started ha := by
    obtain ⟨hs, hn⟩ := h.started ha
    obtain ⟨hs', hn'⟩ := h'.started (h.ne_queued ha)
    exact ⟨hs'.trans hs, hn'.trans hn⟩
  completed ha := h'.completed (h.completed ha)
  failed ha := h'.failed (h.failed ha)
  cancelling ha := h'.cancelling (h.cancelling ha)

end DiscoveryJobRecord.Grows

/-- A terminating `UPDATE` dates the completion and leaves the request as it is. -/
theorem DiscoveryJobRecord.grows_release {r : DiscoveryJobRecord} {s : DiscoveryJobStatus}
    (hs : s.phase = 2) (code : DiscoveryFailureCode) (message : String) (now : DateTime) :
    r.Grows (DiscoveryJobRecord.release { r with
      state := s
      failureCode := some code
      failureMessage := some message } now) where
  owner := ⟨rfl, rfl, rfl, rfl⟩
  request := ⟨rfl, rfl, rfl, rfl⟩
  phase := by
    simp only [DiscoveryJobRecord.release, hs]
    exact r.state.phase_le
  started _ := ⟨rfl, rfl⟩
  completed _ := rfl
  failed _ := rfl
  cancelling h := h

theorem treeOutcome_phase (cancel : Bool) (job : DiscoveryJobRecord) (message : String) :
    (treeOutcome cancel job message).targetState.phase = 2 := by
  cases cancel <;> rfl

theorem outcome_phase (interrupted : Bool) :
    (DiscoveryFanoutService.outcome interrupted).jobState.phase = 2 := by
  cases interrupted <;> rfl

theorem transitionUpdate_grows {a : Transition} {state : DiscoveryJobStatus} {now : DateTime}
    (h : state.isTerminal = false) (ht : a.targetState ≠ .queued) {r : DiscoveryJobRecord}
    (hr : (transitionUpdate a state now).filter r = true) :
    r.Grows ((transitionUpdate a state now).values r) := by
  simp only [transitionUpdate, Bool.and_eq_true, beq_iff_eq] at hr
  have hphase : r.state.phase ≤ a.targetState.phase := by
    rw [hr.1.1.2]
    exact DiscoveryJobStatus.phase_mono h ht
  have hcode : r.failureCode.isSome → (a.failureCode <|> r.failureCode).isSome := by
    intro hsome
    cases a.failureCode with
    | none => exact hsome
    | some code => rfl
  simp only [transitionUpdate]
  split
  · exact ⟨⟨rfl, rfl, rfl, rfl⟩, ⟨rfl, rfl, rfl, rfl⟩, hphase, fun _ => ⟨rfl, rfl⟩, fun _ => rfl,
      hcode, fun h => h⟩
  · exact ⟨⟨rfl, rfl, rfl, rfl⟩, ⟨rfl, rfl, rfl, rfl⟩, hphase, fun _ => ⟨rfl, rfl⟩, fun h => h,
      hcode, fun h => h⟩

/-- Every `UPDATE` moves the jobs it matches forward. -/
theorem JobStatement.grows {u : JobUpdate} (hu : JobStatement u)
    (hsite : (Kind.update u.site).notQueued = true) {r : DiscoveryJobRecord}
    (hr : u.filter r = true) : r.Grows (u.values r) := by
  cases hu with
  | claim =>
    simp only [claimUpdate, Bool.and_eq_true, beq_iff_eq] at hr
    have hq : r.state = .queued := hr.1.1.1.2
    exact ⟨⟨rfl, rfl, rfl, rfl⟩, ⟨rfl, rfl, rfl, rfl⟩, by rw [hq]; exact Nat.zero_le _,
      fun h => absurd hq h, fun h => h, fun h => h, fun h => h⟩
  | renewLease =>
    exact ⟨⟨rfl, rfl, rfl, rfl⟩, ⟨rfl, rfl, rfl, rfl⟩, Nat.le_refl _, fun _ => ⟨rfl, rfl⟩,
      fun h => h, fun h => h, fun h => h⟩
  | transition a state now h =>
    have ht : a.targetState ≠ .queued := by simpa [Kind.notQueued, transitionUpdate] using hsite
    exact transitionUpdate_grows h ht hr
  | requestCancellation job tenantId jobId requestedBy reason now _ =>
    simp only [requestCancellationUpdate]
    split
    · exact ⟨⟨rfl, rfl, rfl, rfl⟩, ⟨rfl, rfl, rfl, rfl⟩, r.state.phase_le, fun _ => ⟨rfl, rfl⟩,
        fun _ => rfl, fun _ => rfl, fun _ => rfl⟩
    · exact ⟨⟨rfl, rfl, rfl, rfl⟩, ⟨rfl, rfl, rfl, rfl⟩, Nat.le_refl _, fun _ => ⟨rfl, rfl⟩,
        fun h => h, fun h => h, fun _ => rfl⟩
  | resolveStale => exact DiscoveryJobRecord.grows_release rfl _ _ _
  | resolveStaleChildren => exact DiscoveryJobRecord.grows_release rfl _ _ _
  | queuedChild tenantId childId cancel job message now =>
    exact DiscoveryJobRecord.grows_release (treeOutcome_phase cancel job message) _ _ _
  | reconciledChild tenantId childId interrupted now =>
    exact DiscoveryJobRecord.grows_release (outcome_phase interrupted) _ _ _
  | recordSelection =>
    exact ⟨⟨rfl, rfl, rfl, rfl⟩, ⟨rfl, rfl, rfl, rfl⟩, Nat.le_refl _, fun _ => ⟨rfl, rfl⟩,
      fun h => h, fun h => h, fun h => h⟩

/-! ## Evidence and snapshots -/

/-- The tables whose rows are written once. -/
def Table.final : Table → Bool
  | .evidence | .snapshots => true
  | _ => false

/-- The effect changes no row of a final table. -/
def Kind.leavesFinal : Kind → Bool
  | .change t => !t.final
  | _ => true

theorem kinds_leavesFinal : ∀ k ∈ DiscoveryCall.kinds, k.leavesFinal = true := by decide

/-- Rows of final tables are never related to other rows. -/
def FinalRel (t : Table) (r r' : Row t) : Prop := t.final = true → r' = r

theorem Stated.keeps_final {c : Statement} (hc : Stated (fun k => k.leavesFinal = true) c)
    (db : Db schema) : c.Keeps FinalRel db := by
  obtain ⟨hissued, hplaced⟩ := hc
  cases hissued with
  | job hu _ => exact fun r _ _ => ⟨(hu.identity r).1, fun hf => by cases hf⟩
  | @update t ht site p f hkey _ =>
    intro r _ _
    refine ⟨hkey r, fun hf => ?_⟩
    obtain rfl | ⟨rfl, _⟩ := hplaced <;> cases hf
  | @change t ht id f hkey hA =>
    intro r
    refine ⟨hkey r, fun hf => ?_⟩
    simp [Kind.leavesFinal, hf] at hA
  | _ => trivial

/-! ## Runs -/

section

variable {Sid Tid : Type} [DecidableEq Sid] [DecidableEq Tid]

/-- Whatever calls run beside each other, a committed job later is a later version of itself. -/
theorem jobs_move_forward {rt : Runtime} {σ₀ σ₁ σ₂ : Discovering Sid Tid}
    (h₀ : σ₀.Initial (callStart rt))
    (h₁ : Sys.Steps (callStart rt) (fun _ _ _ => True) σ₀ σ₁)
    (h₂ : Sys.Steps (callStart rt) (fun _ _ _ => True) σ₁ σ₂) {jobId : UUID}
    {r : DiscoveryJobRecord} (hr : (σ₁.store.db .jobs).get jobId = some r) :
    ∃ r', (σ₂.store.db .jobs).get jobId = some r' ∧ r.Grows r' := by
  refine jobs_keep (A := fun k => k.notQueued = true) DiscoveryJobRecord.Grows.refl
    DiscoveryJobRecord.Grows.trans ?_ (fun σ t u hu hA _ r _ hf => hu.grows hA hf) h₀ h₁ h₂ hr
  rintro t s p ⟨c, rfl⟩
  exact c.issued kinds_notQueued (fun _ => rfl) rt fun a _ ha => by
    simpa [Kind.notQueued] using ha

/-- Whatever calls run beside each other, committed evidence and live snapshots stay as they are. -/
theorem records_final {rt : Runtime} {σ₀ σ₁ σ₂ : Discovering Sid Tid}
    (h₀ : σ₀.Initial (callStart rt))
    (h₁ : Sys.Steps (callStart rt) (fun _ _ _ => True) σ₀ σ₁)
    (h₂ : Sys.Steps (callStart rt) (fun _ _ _ => True) σ₁ σ₂) {t : Table} (ht : t.final = true)
    {id : UUID} {r : Row t} (hr : (σ₁.store.db t).get id = some r) :
    (σ₂.store.db t).get id = some r := by
  have hrefl : ∀ t r, FinalRel t r r := fun _ _ _ => rfl
  have htrans : ∀ t a b c, FinalRel t a b → FinalRel t b c → FinalRel t a c :=
    fun _ _ _ _ h h' hf => (h' hf).trans (h hf)
  have hstart : ∀ (t : Tid) (s : Sid) p, callStart rt t s p →
      p.All (Stated fun k => k.leavesFinal = true) := by
    rintro t s p ⟨c, rfl⟩
    exact c.stated kinds_leavesFinal (fun _ => rfl) rt fun _ _ _ => rfl
  have hkeep : ∀ (σ : Discovering Sid Tid) t c, Stated (fun k => k.leavesFinal = true) c →
      True → c.Keeps FinalRel (σ.store.view (σ.task t).sid) :=
    fun σ t c hc _ => Stated.keeps_final hc _
  have hall₀ := h₀.allTasks hstart
  obtain ⟨hinv₁, _⟩ := Sys.Steps.rows_keep hrefl htrans hstart hkeep hall₀ (h₀.inv _) h₁
  obtain ⟨_, hgrew⟩ :=
    Sys.Steps.rows_keep hrefl htrans hstart hkeep (hall₀.steps hstart h₁) hinv₁ h₂
  obtain ⟨r', hr', hsame⟩ := hgrew t id r hr
  rw [hr', hsame ht]

end

section

open Samples

/-- A claim of the created child, beside evidence of the scope job. -/
def evidenceRun : Discovering (Fin 1) (Fin 2) where
  store := store fun
    | .evidence => Tbl.empty.overlay [⟨51, tenant, 21, 1, 11, "lab", 0, 1⟩]
    | t => tables [deviceJob] [deviceResult] t
  task := claimRun.task

theorem evidenceRun_initial : evidenceRun.Initial (callStart noCollectors) where
  log _ _ := rfl
  dirty _ := rfl
  task
    | 0 => .inr ⟨.repository (.claim tenant 22 (some worker) 100), rfl⟩
    | 1 => .inr ⟨.repository .commit, rfl⟩

/-- The claimed child is a later version of the created one. -/
theorem jobs_move_forward_claimed :
    ∃ σ₁ r, evidenceRun.runs (fun _ _ _ => True) claimMoves = some σ₁ ∧
      (σ₁.store.db .jobs).get 22 = some r ∧ r.state = .running ∧ deviceJob.Grows r := by
  obtain ⟨σ₁, h₁, hs⟩ := Option.map_eq_some_iff.1
    (by decide : (evidenceRun.runs (fun _ _ _ => True) claimMoves).map
      (fun σ => ((σ.store.db .jobs).get 22).map (·.state)) = some (some .running))
  obtain ⟨r, hr, hrun⟩ := Option.map_eq_some_iff.1 hs
  have hjob : (evidenceRun.store.db .jobs).get 22 = some deviceJob := rfl
  obtain ⟨r', hr', hgrows⟩ :=
    jobs_move_forward evidenceRun_initial .refl (Sys.runs_steps h₁) hjob
  rw [hr] at hr'
  cases hr'
  exact ⟨σ₁, r, h₁, hr, hrun, hgrows⟩

/-- The evidence is there after the claim as it was before. -/
theorem records_final_evidence :
    ∃ σ₁, evidenceRun.runs (fun _ _ _ => True) claimMoves = some σ₁ ∧
      (σ₁.store.db .evidence).get 51 = some ⟨51, tenant, 21, 1, 11, "lab", 0, 1⟩ := by
  obtain ⟨σ₁, h₁⟩ := Option.isSome_iff_exists.1
    (by decide : (evidenceRun.runs (fun _ _ _ => True) claimMoves).isSome = true)
  exact ⟨σ₁, h₁, records_final evidenceRun_initial .refl (Sys.runs_steps h₁) (t := .evidence) rfl
    (r := ⟨51, tenant, 21, 1, 11, "lab", 0, 1⟩) rfl⟩

end

end Discovery
end NetOps
