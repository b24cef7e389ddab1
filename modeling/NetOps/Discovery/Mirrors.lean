import NetOps.Conc.TwoRuns
import NetOps.Discovery.Fanout

/-!
# Discovery.Mirrors

What the failure handler of an execution does with a failure code: it writes the code and the
classification that follows from it, and does the same but for that with every code.

`codesHidden` makes rows alike that differ in failure codes and classifications only. The programs
of the handler with one failure code mirror those with another (`Mirrors`), one lemma per function.
-/

namespace NetOps
namespace Discovery

open Conc DiscoveryJobRepository DiscoveryExecutionService DiscoveryFanoutService

/-- Rows that differ in failure codes and the classification by them. -/
def codesHidden : Likeness schema where
  rel
    | .targets, r, r' => r = r'
    | .profiles, r, r' => r = r'
    | .runs, r, r' => r = r'
    | .jobs, r, r' => ∃ code, r' = { r with failureCode := code }
    | .results, r, r' => ∃ code state, r' = { r with failureCode := code, resultState := state }
    | .attempts, r, r' => ∃ code, r' = { r with failureCode := code }
    | .evidence, r, r' => r = r'
    | .snapshots, r, r' => r = r'
  refl t r := by
    cases t with
    | jobs => exact ⟨r.failureCode, rfl⟩
    | results => exact ⟨r.failureCode, r.resultState, rfl⟩
    | attempts => exact ⟨r.failureCode, rfl⟩
    | _ => rfl
  key := by
    intro t r r' h
    cases t with
    | jobs => obtain ⟨_, rfl⟩ := h; rfl
    | results => obtain ⟨_, _, rfl⟩ := h; rfl
    | attempts => obtain ⟨_, rfl⟩ := h; rfl
    | _ => cases h; rfl
  clash := by
    intro t r₁ r₁' r₂ r₂' h₁ h₂
    cases t with
    | jobs => obtain ⟨_, rfl⟩ := h₁; obtain ⟨_, rfl⟩ := h₂; rfl
    | results => obtain ⟨_, _, rfl⟩ := h₁; obtain ⟨_, _, rfl⟩ := h₂; rfl
    | attempts => obtain ⟨_, rfl⟩ := h₁; obtain ⟨_, rfl⟩ := h₂; rfl
    | _ => cases h₁; cases h₂; rfl

/-- Jobs that differ in their failure code. -/
abbrev JobsAlike (job job' : DiscoveryJobRecord) : Prop := codesHidden.rel .jobs job job'

/-- Device results that differ in their failure code and classification. -/
abbrev ResultsAlike (r r' : DiscoveryDeviceResultRecord) : Prop := codesHidden.rel .results r r'

variable {α β γ : Type}

/-- The programs do the same but for failure codes, with results in `Q`. -/
abbrev Mirrors (Q : α → β → Prop) (m : M α) (m' : M β) : Prop := Raises.Mirror codesHidden Q m m'

/-! ## Single statements -/

theorem mirrors_ask {c c' : Statement} {Q : c.Ans → c'.Ans → Prop}
    (h : Prog.Mirror codesHidden (Raises.Results Q) (Prog.issue c : Prog lang _)
      (Prog.issue c' : Prog lang _)) : Mirrors Q (ask c) (ask c') := by
  refine Prog.Mirror.bind h fun r r' hr => ?_
  cases hr with
  | ok h => exact .pure (.ok h)
  | error e => exact .pure (.error (Exn.db e))

theorem mirrors_select (t : Table) {p p' : Row t → Bool} (hp : codesHidden.Tests p p') :
    Mirrors codesHidden.Rows (select t p) (select t p') :=
  mirrors_ask (.select hp (fun _ _ h => .pure (.ok h)) fun e => .pure (.error e))

theorem mirrors_sessionGet (t : Table) (id : UUID) :
    Mirrors (Option.Rel (codesHidden.rel t)) (sessionGet t id) (sessionGet t id) :=
  mirrors_ask (.get (fun _ _ h => .pure (.ok h)) fun e => .pure (.error e))

theorem mirrors_execute {u u' : JobUpdate} (hsite : u.site = u'.site)
    (hfilter : codesHidden.Tests (t := .jobs) u.filter u'.filter)
    (hvalues : codesHidden.Changes (t := .jobs) u.values u'.values) :
    Mirrors Eq u.execute u'.execute := by
  obtain ⟨site, filter, values⟩ := u
  obtain ⟨site', filter', values'⟩ := u'
  cases hsite
  exact mirrors_ask (.update hfilter hvalues fun r => .pure (.refl r))

theorem mirrors_insert {t : Table} {r r' : Row t} (h : codesHidden.rel t r r') :
    Mirrors Eq (insert t r) (insert t r') := mirrors_ask (.insert h fun a => .pure (.refl a))

theorem mirrors_change {t : Table} (id : UUID) {f f' : Row t → Row t}
    (h : codesHidden.Changes f f') : Mirrors Eq (change t id f) (change t id f') :=
  mirrors_ask (.change h fun a => .pure (.refl a))

theorem mirrors_flush : Mirrors Eq flush flush := mirrors_ask (.flush fun a => .pure (.refl a))

theorem mirrors_commit : Mirrors Eq commit commit := mirrors_ask (.commit fun a => .pure (.refl a))

theorem mirrors_rollback : Mirrors Eq rollback rollback :=
  mirrors_ask (.rollback fun a => .pure (.refl a))

theorem mirrors_ext (x : Ext) : Mirrors Eq (ask (.ext x)) (ask (.ext x)) :=
  mirrors_ask (.ext fun a => .pure (.refl a))

/-- After an answer that is the same in both runs. -/
theorem mirrors_then {Q : β → γ → Prop} {m m' : M α} {f : α → M β} {f' : α → M γ}
    (hm : Mirrors Eq m m') (hf : ∀ a, Mirrors Q (f a) (f' a)) : Mirrors Q (m >>= f) (m' >>= f') :=
  Raises.mirror_bind hm fun a b hab => by
    subst hab
    exact hf a

theorem head_alike {t : Table} {rs rs' : List (Row t)} (h : codesHidden.Rows rs rs') :
    Option.Rel (codesHidden.rel t) rs.head? rs'.head? := by
  cases h with
  | nil => exact .none
  | cons hr _ => exact .some hr

/-! ## Jobs -/

theorem get_mirrors (tenantId : String) (jobId : UUID) :
    Mirrors (Option.Rel JobsAlike) (get tenantId jobId) (get tenantId jobId) := by
  refine Raises.mirror_bind (mirrors_select .jobs ?_) fun rs rs' h => ?_
  · rintro r _ ⟨_, rfl⟩
    rfl
  · exact Raises.mirror_pure (head_alike h)

theorem getExisting_mirrors (tenantId : String) (jobId : UUID) :
    Mirrors JobsAlike (getExisting tenantId jobId) (getExisting tenantId jobId) := by
  refine Raises.mirror_bind (get_mirrors tenantId jobId) fun job job' h => ?_
  cases h with
  | none => exact Raises.mirror_throw _
  | some h => exact Raises.mirror_pure h

theorem cancellationRequested_mirrors (tenantId : String) (jobId : UUID) :
    Mirrors Eq (cancellationRequested tenantId jobId) (cancellationRequested tenantId jobId) := by
  have hselect : codesHidden.Tests (t := .jobs) (fun r => r.id == jobId && r.tenantId == tenantId)
      fun r => r.id == jobId && r.tenantId == tenantId := by
    rintro r _ ⟨_, rfl⟩
    rfl
  refine Raises.mirror_bind (mirrors_select .jobs hselect) fun rs rs' h => ?_
  have hrequest : rs.head?.bind (·.cancellationRequestedAt) =
      rs'.head?.bind (·.cancellationRequestedAt) := by
    have hhead := head_alike h
    generalize rs.head? = o at hhead ⊢
    generalize rs'.head? = o' at hhead ⊢
    cases hhead with
    | none => rfl
    | some h => obtain ⟨_, rfl⟩ := h; rfl
  rw [hrequest]
  split
  · exact Raises.mirror_pure rfl
  · refine Raises.mirror_bind (mirrors_select .jobs hselect) fun rs rs' h => ?_
    refine Raises.mirror_pure ?_
    have hhead := head_alike h
    generalize rs.head? = o at hhead ⊢
    generalize rs'.head? = o' at hhead ⊢
    cases hhead with
    | none => rfl
    | some h => obtain ⟨_, rfl⟩ := h; rfl

/-- The transition with another failure code. -/
def DiscoveryJobRepository.Transition.withCode (a : Transition)
    (code : Option DiscoveryFailureCode) : Transition :=
  { a with failureCode := code }

theorem transitionUpdate_mirrors (a : Transition) (code : Option DiscoveryFailureCode)
    (state : DiscoveryJobStatus) (now : DateTime) :
    Mirrors Eq (transitionUpdate a state now).execute
      (transitionUpdate (a.withCode code) state now).execute := by
  refine mirrors_execute rfl ?_ ?_
  · rintro r _ ⟨_, rfl⟩
    rfl
  · rintro r _ ⟨_, rfl⟩
    dsimp only [transitionUpdate, Transition.withCode]
    split
    · exact ⟨_, rfl⟩
    · exact ⟨_, rfl⟩

theorem transition_mirrors (a : Transition) (code : Option DiscoveryFailureCode) :
    Mirrors JobsAlike (transition a) (transition (a.withCode code)) := by
  refine Raises.mirror_bind (get_mirrors _ _) fun job job' h => ?_
  cases h with
  | none => exact Raises.mirror_throw _
  | @some job job' h =>
    obtain ⟨_, rfl⟩ := h
    dsimp only [Transition.withCode]
    cases transitionJob job.state a.targetState with
    | error message => exact Raises.mirror_throw _
    | ok _ =>
      refine mirrors_then (mirrors_ext .utcNow) fun now => ?_
      refine mirrors_then (transitionUpdate_mirrors a code job.state now) fun ids => ?_
      split
      · exact mirrors_then mirrors_rollback fun _ => Raises.mirror_throw _
      · exact mirrors_then mirrors_flush fun _ => getExisting_mirrors _ _

theorem finaliseCancellation_mirrors (tenantId : String) (jobId : UUID) (owner : Option UUID) :
    Mirrors JobsAlike (finaliseCancellation tenantId jobId owner)
      (finaliseCancellation tenantId jobId owner) := by
  refine Raises.mirror_bind (get_mirrors _ _) fun job job' h => ?_
  cases h with
  | none => exact Raises.mirror_throw _
  | @some job job' h =>
    obtain ⟨code, rfl⟩ := h
    dsimp only
    split
    · exact Raises.mirror_pure ⟨code, rfl⟩
    · split
      · exact Raises.mirror_throw _
      · exact transition_mirrors _ _

theorem markFailedAfterRollback_mirrors (tenantId : String) (jobId : UUID)
    (code code' : DiscoveryFailureCode) (message : String) (owner : Option UUID) :
    Mirrors JobsAlike (markFailedAfterRollback tenantId jobId code message owner)
      (markFailedAfterRollback tenantId jobId code' message owner) :=
  mirrors_then mirrors_rollback fun _ => transition_mirrors _ (some code')

/-! ## The failure handler -/

theorem resolveTarget_mirrors (job : DiscoveryJobRecord) (tenantId : String) :
    Mirrors Eq (resolveTarget job tenantId) (resolveTarget job tenantId) := by
  refine Raises.mirror_bind (mirrors_sessionGet .targets _) fun target target' h => ?_
  cases h with
  | none => exact Raises.mirror_throw _
  | @some target target' h =>
    obtain rfl : target = target' := h
    dsimp only
    split
    · exact Raises.mirror_throw _
    · exact Raises.mirror_pure rfl

theorem finish_mirrors (record : DiscoveryTransportAttemptRecord) (result : AttemptResult)
    (code code' : Option DiscoveryFailureCode) (message : Option String) :
    Mirrors Eq (DiscoveryTransportAttemptRepository.finish record result code message)
      (DiscoveryTransportAttemptRepository.finish record result code' message) := by
  refine mirrors_then (mirrors_ext .utcNow) fun now => ?_
  refine mirrors_then (mirrors_change _ ?_) fun _ => mirrors_flush
  rintro r _ ⟨_, rfl⟩
  exact ⟨code', rfl⟩

theorem finishStarted_mirrors (attempt : Option DiscoveryTransportAttemptRecord)
    (result : AttemptResult) (code code' : DiscoveryFailureCode) (message : Option String) :
    Mirrors Eq (finishStarted attempt result code message)
      (finishStarted attempt result code' message) := by
  cases attempt with
  | none => exact Raises.mirror_pure rfl
  | some attempt => exact finish_mirrors _ _ _ _ _

theorem findDeviceResult_mirrors (tenantId : String) (jobId : UUID) :
    Mirrors (Option.Rel ResultsAlike) (findDeviceResult tenantId jobId)
      (findDeviceResult tenantId jobId) := by
  refine Raises.mirror_bind (mirrors_select .results ?_) fun rs rs' h => ?_
  · rintro r _ ⟨_, _, rfl⟩
    rfl
  · exact Raises.mirror_pure (head_alike h)

theorem setResult_mirrors {r r' : DiscoveryDeviceResultRecord} (h : ResultsAlike r r')
    {f f' : DiscoveryDeviceResultRecord → DiscoveryDeviceResultRecord}
    (hf : codesHidden.Changes (t := .results) f f') :
    Mirrors ResultsAlike (setResult r f) (setResult r' f') := by
  have hvalues := hf r r' h
  obtain ⟨_, _, rfl⟩ := h
  exact mirrors_then (mirrors_change (t := .results) r.id hf) fun _ => Raises.mirror_pure hvalues

theorem startedOr_mirrors (job : DiscoveryJobRecord) :
    Mirrors Eq (startedOr job) (startedOr job) := by
  unfold startedOr
  cases job.startedAt with
  | some t => exact Raises.mirror_pure rfl
  | none => exact mirrors_ext .utcNow

theorem failedValues_changes (target : DiscoveryTargetRecordView)
    (code code' : DiscoveryFailureCode) (message selectedTransport : Option String)
    (now : DateTime) : codesHidden.Changes (t := .results)
      (failedValues target code message selectedTransport now)
      (failedValues target code' message selectedTransport now) := by
  rintro r _ ⟨_, _, rfl⟩
  exact ⟨some code', some (failureResultState code'), rfl⟩

theorem ensureDeviceResultForFailure_mirrors (job : DiscoveryJobRecord)
    (target : DiscoveryTargetRecordView) (code code' : DiscoveryFailureCode)
    (message selectedTransport : Option String) :
    Mirrors Eq (ensureDeviceResultForFailure job target code message selectedTransport)
      (ensureDeviceResultForFailure job target code' message selectedTransport) := by
  refine Raises.mirror_bind (findDeviceResult_mirrors _ _) fun existing existing' h => ?_
  refine mirrors_then (mirrors_ext .utcNow) fun now => ?_
  have hvalues := failedValues_changes target code code' message selectedTransport now
  cases h with
  | none =>
    refine mirrors_then (startedOr_mirrors job) fun startedAt => ?_
    refine mirrors_then (mirrors_ext .uuid4) fun id => ?_
    exact mirrors_insert (hvalues _ _ (codesHidden.refl .results _))
  | some h => exact Raises.mirror_bind (setResult_mirrors h hvalues) fun _ _ _ => mirrors_flush

theorem persistFailure_mirrors (job : DiscoveryJobRecord) (tenantId : String) (owner : UUID)
    (target : DiscoveryTargetRecordView) (code code' : DiscoveryFailureCode) (message : String) :
    Mirrors JobsAlike (persistFailure job tenantId owner target code message)
      (persistFailure job tenantId owner target code' message) := by
  refine Raises.mirror_bind (markFailedAfterRollback_mirrors _ _ code code' _ _)
    fun failed failed' hfailed => ?_
  refine mirrors_then (ensureDeviceResultForFailure_mirrors job target code code' _ _) fun _ => ?_
  exact mirrors_then mirrors_commit fun _ => Raises.mirror_pure hfailed

/-- Outcomes with like jobs. -/
abbrev OutcomesAlike (o o' : DiscoveryExecutionOutcome) : Prop := JobsAlike o.job o'.job

/-- Alike results, or the same exception, caught. -/
theorem catching_mirrors {Q : α → β → Prop} {m : M α} {m' : M β} (h : Mirrors Q m m') :
    Mirrors (Raises.Results Q) (catching m) (catching m') := by
  refine Raises.mirror_tryCatch ?_ fun e => Raises.mirror_pure (.error e)
  exact Raises.mirror_bind h fun _ _ hab => Raises.mirror_pure (.ok hab)

/-- The handler with another failure code. -/
theorem handler_mirrors (job : DiscoveryJobRecord) (tenantId : String) (owner : UUID)
    (attempt : Option DiscoveryTransportAttemptRecord) {rt rt' : Runtime} {e e' : Exn}
    (hmessage : DiscoveryExecutionService.safeFailureMessage rt.redact e =
      DiscoveryExecutionService.safeFailureMessage rt'.redact e') :
    Mirrors OutcomesAlike (concludeFailed rt job tenantId owner attempt e)
      (concludeFailed rt' job tenantId owner attempt e') := by
  refine mirrors_then (cancellationRequested_mirrors _ _) fun requested => ?_
  split
  · refine mirrors_then (finishStarted_mirrors attempt _ _ _ _) fun _ => ?_
    refine Raises.mirror_bind (finaliseCancellation_mirrors _ _ _) fun cancelled cancelled' h => ?_
    exact mirrors_then mirrors_commit fun _ => Raises.mirror_pure h
  · dsimp only
    rw [← hmessage]
    refine mirrors_then (finishStarted_mirrors attempt _ _ _ _) fun _ => ?_
    refine mirrors_then (resolveTarget_mirrors job tenantId) fun target => ?_
    refine Raises.mirror_bind (catching_mirrors
      (persistFailure_mirrors job tenantId owner target (failureCode e) (failureCode e') _))
      fun r r' hr => ?_
    cases hr with
    | ok h => exact Raises.mirror_pure h
    | error e => exact mirrors_then mirrors_rollback fun _ => Raises.mirror_throw e

end Discovery
end NetOps
