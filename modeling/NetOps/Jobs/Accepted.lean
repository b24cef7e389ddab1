import NetOps.Jobs.World

/-!
# Jobs.Accepted

What becomes of the jobs that were accepted, under any interleaving of the job framework, with calls
that raise.

`accepted_accounted`: if no call raises that would lose a job or end a worker (`Spared`), then every
job that was accepted is in the queue, or with a live worker, or has ended, and no worker has ended
before the shutdown.
-/

namespace NetOps
namespace Jobs

open Conc History
open Discovery (UUID)

variable {Tid : Type} [DecidableEq Tid]

/-- The state of the job or its row says that it was accepted, and its submission is over. -/
def World.Accepted (g : World Tid) (job : UUID) : Prop :=
  (g.rows job ≠ none ∨ (g.jobs job).state.status ≠ .pending) ∧
    ((g.jobs job).phase = .saved → (g.jobs job).owner = none)

/-- No accepted job is lost, and no worker either. -/
structure World.Accounted (g : World Tid) : Prop where
  jobs : ∀ job, g.Accepted job → job ∈ g.queue.map (·.job) ∨
    (∃ i, (g.jobs job).owner = some i ∧ g.live i = true) ∨ (g.jobs job).state.status.Ended
  workers : ∀ i, g.started i = true → g.live i = true ∨ g.stop = true

/-- What raises finds the job ended, and the worker told to stop. -/
def Spared (_ : Tid) (g : World Tid) : (s : Stmt) → s.Resp → Prop
  | .save _ .submitted, .error e => e.stored = false
  | .publish job .submitted, .error _ => (g.jobs job).state.status.Ended
  | .publish job .queued, .error _ => (g.jobs job).state.status.Ended ∧ g.stop = true
  | .save job .taken, .error _ => (g.jobs job).state.status.Ended ∧ g.stop = true
  | .publish job .started, .error _ => (g.jobs job).state.status.Ended
  | .save _ .dispatched, .error _ => g.stop = true
  | _, _ => True

/-- What is known of a job, as far as it has come. -/
def Phase.Held : Phase → JobStatus → Option Tid → Option JobStatus → Prop
  | .absent, status, _, row => row = none ∧ status = .pending
  | .created, status, _, row => row = none ∧ status = .pending
  | .saved, status, owner, _ => owner = none → status.Ended
  | .queued, _, _, _ => True
  | .taken, status, owner, _ => owner = none → status.Ended
  | .waiting, status, owner, _ => owner = none → status.Ended
  | .running, status, owner, _ => owner = none → status.Ended
  | .abandoned, status, _, _ => status.Ended
  | .ended, status, _, _ => status.Ended

structure HeldInv (g : World Tid) : Prop where
  queue : QueueInv g
  held : ∀ job, (g.jobs job).phase.Held (g.jobs job).state.status (g.jobs job).owner (g.rows job)
  working : ∀ job i, (g.jobs job).owner = some i → (g.jobs job).phase = .created ∨
    (g.jobs job).phase = .saved ∨ g.live i = true
  workers : ∀ i, g.started i = true → g.live i = true ∨ g.stop = true

variable {i : Tid} {g : World Tid} {s : Stmt} {r : s.Resp} {job : UUID}

/-! ## The jobs -/

omit [DecidableEq Tid] in
/-- In a state of the invariant, every accepted job is accounted for. -/
theorem HeldInv.accounted (hinv : HeldInv g) : g.Accounted := by
  refine ⟨fun job haccepted => ?_, hinv.workers⟩
  have hheld := hinv.held job
  have hworking : (g.jobs job).phase ≠ .created → (g.jobs job).phase ≠ .saved →
      ((g.jobs job).owner = none → (g.jobs job).state.status.Ended) →
      (∃ i, (g.jobs job).owner = some i ∧ g.live i = true) ∨ (g.jobs job).state.status.Ended := by
    intro hcreated hsaved hended
    cases howner : (g.jobs job).owner with
    | none => exact .inr (hended howner)
    | some i =>
      have hlive := (hinv.working job i howner).resolve_left hcreated
      exact .inl ⟨i, rfl, hlive.resolve_left hsaved⟩
  have hnew : ¬ (g.rows job = none ∧ (g.jobs job).state.status = .pending) :=
    fun h => haccepted.1.elim (· h.1) (· h.2)
  cases hphase : (g.jobs job).phase with
  | absent =>
    rw [hphase] at hheld
    exact (hnew hheld).elim
  | created =>
    rw [hphase] at hheld
    exact (hnew hheld).elim
  | saved =>
    rw [hphase] at hheld
    exact .inr (.inr (hheld (haccepted.2 hphase)))
  | queued => exact .inl ((hinv.queue.queued job).1 hphase)
  | taken =>
    rw [hphase] at hheld hworking
    exact .inr (hworking (by decide) (by decide) hheld)
  | waiting =>
    rw [hphase] at hheld hworking
    exact .inr (hworking (by decide) (by decide) hheld)
  | running =>
    rw [hphase] at hheld hworking
    exact .inr (hworking (by decide) (by decide) hheld)
  | abandoned =>
    rw [hphase] at hheld
    exact .inr (.inr hheld)
  | ended =>
    rw [hphase] at hheld
    exact .inr (.inr hheld)

omit [DecidableEq Tid] in
/-- A cancelled job that has a row is held. -/
theorem held_cancelled {phase : Phase} {status : JobStatus} {owner : Option Tid}
    {row : Option JobStatus} (h : phase.Held status owner row) (hrow : row.isSome = true) :
    phase.Held .cancelled owner row := by
  have hnew : ¬ (row = none ∧ status = .pending) := by
    rintro ⟨rfl, _⟩
    cases hrow
  cases phase with
  | absent => exact (hnew h).elim
  | created => exact (hnew h).elim
  | queued => exact trivial
  | abandoned => exact trivial
  | ended => exact trivial
  | _ => exact fun _ => trivial

omit [DecidableEq Tid] in
/-- A job that has a row is held whatever the row is. -/
theorem held_saved {phase : Phase} {status : JobStatus} {owner : Option Tid}
    {row row' : Option JobStatus} (h : phase.Held status owner row) (hrow : row.isSome = true) :
    phase.Held status owner row' := by
  have hnew : ¬ (row = none ∧ status = .pending) := by
    rintro ⟨rfl, _⟩
    cases hrow
  cases phase with
  | absent => exact (hnew h).elim
  | created => exact (hnew h).elim
  | _ => exact h

/-- What a statement does to the job it is about. -/
theorem held_subject (hinv : HeldInv g) (hguar : Guarantees i g s) (hallows : g.Allows s r)
    (hspared : Spared i g s r) (hsubject : s.subject r = some job) :
    ((g.after i s r).jobs job).phase.Held ((g.after i s r).jobs job).state.status
      ((g.after i s r).jobs job).owner ((g.after i s r).rows job) := by
  have hheld := hinv.held job
  have hown : ∀ {phase}, Has i job phase g → (g.jobs job).owner ≠ none := by
    intro phase h
    rw [(h.1 job).2 rfl]
    exact Option.some_ne_none i
  rw [jobs_after hsubject, if_pos rfl]
  cases s with
  | create request =>
    cases hsubject
    exact ⟨(hinv.queue.absent job hallows).2, rfl⟩
  | save other place =>
    cases hsubject
    cases place with
    | submitted =>
      cases r with
      | ok u => exact fun hnone => (hown hguar hnone).elim
      | error e =>
        have hphase : (g.jobs job).phase = .created := hguar.2
        have hstored : ¬ e.stored = true := by
          rw [show e.stored = false from hspared]
          decide
        show (if e.stored then Phase.saved else (g.jobs job).phase).Held _ _
          ((if e.stored then _ else g.rows) job)
        rw [if_neg hstored, if_neg hstored, hphase]
        rw [hphase] at hheld
        exact hheld
    | taken =>
      have hphase : (g.jobs job).phase = .taken := hguar.2
      cases r with
      | ok u =>
        show (g.jobs job).phase.Held _ (g.jobs job).owner _
        rw [hphase]
        exact fun hnone => (hown hguar hnone).elim
      | error e =>
        show (g.jobs job).phase.Held _ _ _
        rw [hphase]
        exact fun _ => hspared.1
    | dispatched =>
      show (g.jobs job).phase.Held _ _ _
      rcases hguar with hleft | hleft
      · rw [hleft.2] at hheld ⊢
        exact hheld
      · rw [hleft.2] at hheld ⊢
        exact hheld
    | cancelled => exact held_saved hheld hguar
  | publish other event =>
    cases hsubject
    cases event with
    | submitted =>
      cases r with
      | ok u => exact hheld
      | error e =>
        show (g.jobs job).phase.Held _ _ _
        rw [hguar.2]
        exact fun _ => hspared
    | queued =>
      cases r with
      | ok u => exact hheld
      | error e =>
        show (g.jobs job).phase.Held _ _ _
        rw [hguar.2]
        exact fun _ => hspared.1
    | started =>
      cases r with
      | ok u => exact hheld
      | error e => exact hspared
    | _ => cases r <;> exact hheld
  | put other =>
    cases hsubject
    exact trivial
  | poll =>
    cases r with
    | job job =>
      cases hsubject
      exact fun hnone => by cases hnone
    | _ => cases hsubject
  | enter other =>
    cases hsubject
    cases r with
    | cancelled reason => exact trivial
    | entered => exact fun hnone => (hown hguar hnone).elim
    | waits => exact fun hnone => (hown hguar hnone).elim
  | acquire other =>
    cases hsubject
    exact fun hnone => (hown hguar hnone).elim
  | run other =>
    cases hsubject
    exact settle_ended _ _ r
  | release => cases hsubject
  | cancel other reason =>
    cases r with
    | error e => cases hsubject
    | ok found =>
      cases found with
      | false => cases hsubject
      | true =>
        cases hsubject
        exact held_cancelled hheld hallows.symm
  | cancelToken token reason => cases hsubject
  | shutdown => cases hsubject

/-! ## The workers -/

/-- A worker ends with no job. -/
theorem live_kept (hguar : Guarantees i g s) {j : Tid} (hlive : g.live j = true) :
    (g.after i s r).live j = true ∨ (j = i ∧ Idle i (g.after i s r)) := by
  by_cases hj : j = i
  · subst hj
    cases s with
    | poll =>
      cases r with
      | stopped => exact .inr ⟨rfl, hguar.1.stays (by simp [Stmt.subject])⟩
      | _ => exact .inl hlive
    | save job place =>
      cases place with
      | taken =>
        cases r with
        | ok u => exact .inl hlive
        | error e => exact .inr ⟨rfl, Has.gone hguar.1 rfl rfl⟩
      | dispatched =>
        cases r with
        | ok u => exact .inl hlive
        | error e => exact .inr ⟨rfl, hguar.elim (fun h => Has.gone h.1 rfl rfl)
            fun h => Has.gone h.1 rfl rfl⟩
      | _ => exact .inl hlive
    | publish job event =>
      cases event with
      | queued =>
        cases r with
        | ok u => exact .inl hlive
        | error e => exact .inr ⟨rfl, Has.gone hguar.1 rfl rfl⟩
      | _ => exact .inl hlive
    | _ => exact .inl hlive
  · exact .inl ((live_after hj).trans hlive)

omit [DecidableEq Tid] in
/-- A job that is with a task was with it, or is submitted by it, or is what the live worker has. -/
theorem owner_after (hinv : HeldInv g) (hguar : Guarantees i g s) {reason : Option String} {j : Tid}
    (hsubject : s.subject r = some job)
    (howner : ((g.jobs job).after i reason s r).owner = some j) :
    ((g.jobs job).after i reason s r).phase = .created ∨
      ((g.jobs job).after i reason s r).phase = .saved ∨ g.live j = true := by
  have hsame := hinv.working job j
  have hworker : ∀ {phase}, Has i job phase g → phase ≠ .created → phase ≠ .saved →
      (g.jobs job).owner = some j → g.live j = true := by
    intro phase h hcreated hsaved hown
    have hphase := h.2
    rcases hinv.working job j hown with hbefore | hbefore | hlive
    · exact (hcreated (hphase.symm.trans hbefore)).elim
    · exact (hsaved (hphase.symm.trans hbefore)).elim
    · exact hlive
  cases s with
  | create request => exact .inl rfl
  | save other place =>
    cases hsubject
    cases place with
    | submitted =>
      cases r with
      | ok u => exact .inr (.inl rfl)
      | error e => cases howner
    | taken =>
      cases r with
      | ok u => exact hsame howner
      | error e => cases howner
    | dispatched => cases howner
    | cancelled => exact hsame howner
  | publish other event =>
    cases hsubject
    cases event with
    | submitted =>
      cases r with
      | ok u => exact hsame howner
      | error e => cases howner
    | queued =>
      cases r with
      | ok u => exact hsame howner
      | error e => cases howner
    | started =>
      cases r with
      | ok u => exact hsame howner
      | error e => exact .inr (.inr (hworker hguar (by decide) (by decide) howner))
    | _ => cases r <;> exact hsame howner
  | put other => cases howner
  | poll =>
    cases r with
    | job job =>
      cases howner
      exact .inr (.inr hguar.2.1)
    | _ => cases hsubject
  | enter other =>
    cases hsubject
    cases r <;> exact .inr (.inr (hworker hguar (by decide) (by decide) howner))
  | acquire other =>
    cases hsubject
    exact .inr (.inr (hworker hguar (by decide) (by decide) howner))
  | run other =>
    cases hsubject
    exact .inr (.inr (hworker hguar (by decide) (by decide) howner))
  | release => cases hsubject
  | cancel other reason =>
    cases r with
    | error e => cases hsubject
    | ok found =>
      cases found with
      | false => cases hsubject
      | true =>
        cases hsubject
        exact hsame howner
  | cancelToken token reason => cases hsubject
  | shutdown => cases hsubject

theorem working_after (hinv : HeldInv g) (hguar : Guarantees i g s) (other : UUID) (j : Tid)
    (howner : ((g.after i s r).jobs other).owner = some j) :
    ((g.after i s r).jobs other).phase = .created ∨ ((g.after i s r).jobs other).phase = .saved ∨
      (g.after i s r).live j = true := by
  have hlast : g.live j = true → (g.after i s r).live j = true := by
    intro hlive
    rcases live_kept (r := r) hguar hlive with h | ⟨rfl, hidle⟩
    · exact h
    · exact (hidle other howner).elim
  by_cases hsubject : s.subject r = some other
  · rw [jobs_after hsubject, if_pos rfl] at howner ⊢
    exact (owner_after hinv hguar hsubject howner).imp_right (Or.imp_right hlast)
  · rw [jobs_of_ne hsubject] at howner ⊢
    exact (hinv.working other j howner).imp_right (Or.imp_right hlast)

/-- A worker that ends was told to. -/
theorem workers_after (hinv : HeldInv g) (hallows : g.Allows s r) (hspared : Spared i g s r)
    (j : Tid) (hstarted : (g.after i s r).started j = true) :
    (g.after i s r).live j = true ∨ (g.after i s r).stop = true := by
  have hbefore : g.live j = true ∨ g.stop = true := hinv.workers j hstarted
  cases s with
  | poll =>
    cases r with
    | stopped => exact .inr hallows
    | _ => exact hbefore
  | save job place =>
    cases place with
    | taken =>
      cases r with
      | ok u => exact hbefore
      | error e => exact .inr hspared.2
    | dispatched =>
      cases r with
      | ok u => exact hbefore
      | error e => exact .inr hspared
    | _ => exact hbefore
  | publish job event =>
    cases event with
    | queued =>
      cases r with
      | ok u => exact hbefore
      | error e => exact .inr hspared.2
    | _ => exact hbefore
  | shutdown => exact .inr rfl
  | _ => exact hbefore

theorem held_step (hinv : HeldInv g) (hguar : Guarantees i g s) (hallows : g.Allows s r)
    (hspared : Spared i g s r) : HeldInv (g.after i s r) where
  queue := queue_step hinv.queue hguar hallows
  held job := by
    by_cases hsubject : s.subject r = some job
    · exact held_subject hinv hguar hallows hspared hsubject
    · rw [jobs_of_ne hsubject, rows_of_ne hsubject]
      exact hinv.held job
  working := working_after hinv hguar
  workers := workers_after hinv hallows hspared

theorem held_launched (hinv : HeldInv g) : HeldInv (g.launched i) where
  queue := ⟨hinv.queue.absent, hinv.queue.queued, hinv.queue.free, hinv.queue.nodup⟩
  held := hinv.held
  working job j howner := by
    refine (hinv.working job j howner).imp_right (Or.imp_right fun hlive => ?_)
    show Function.update g.live i true j = true
    rw [Function.update_apply]
    split
    · rfl
    · exact hlive
  workers j hstarted := by
    have hupdate : Function.update g.started i true j = true := hstarted
    show Function.update g.live i true j = true ∨ g.stop = true
    rw [Function.update_apply] at hupdate ⊢
    by_cases hj : j = i
    · rw [if_pos hj]
      exact .inl rfl
    · rw [if_neg hj] at hupdate ⊢
      exact hinv.workers j hupdate

omit [DecidableEq Tid] in
theorem held_fresh (tokens : Nat → Option String) (permits : Nat) :
    HeldInv (World.fresh tokens permits : World Tid) where
  queue := queueInv_fresh
  held _ := ⟨rfl, rfl⟩
  working _ _ howner := by cases howner
  workers _ hstarted := by cases hstarted

theorem held_sound : Sound World.Answers Starts Spared contract Idle (HeldInv : World Tid → Prop) :=
  sound (fun _ hinv => hinv.queue)
    (fun _ _ _ _ hinv hguar hallows hspared => held_step hinv hguar hallows hspared)
    fun _ _ hinv _ => held_launched hinv

/-! ## Any interleaving -/

theorem accepted_accounted (tokens : Nat → Option String) (permits : Nat)
    (turns : List ((Tid × Turn lang) × JobPool Tid))
    (hrun : Run JobPool.Step (JobPool.fresh tokens permits) turns)
    (hspared : Throughout (Pool.Meets Spared) (JobPool.fresh tokens permits) turns) :
    Throughout (fun _ _ c' => c'.state.Accounted) (JobPool.fresh tokens permits) turns := by
  refine held_sound.throughout (fun c e c' hfine hstep hmeets => ?_)
    ⟨held_fresh tokens permits, fun _ _ hown => by cases hown⟩ hrun hspared
  exact (held_sound.step hfine hstep hmeets).1.accounted

/-! ## A publication that raises -/

/-- A worker takes the job, and the publication that it is queued raises. -/
def publicationRaises : List (Move lang Bool (World Bool)) :=
  [.start true (task (submitJob { token := 0 })) id, proceed true, proceed true, proceed true,
    proceed true, .start false (task workerTurn) (World.launched · false), proceed false,
    fail false]

/-- The token of the job is set, a worker takes it, and the publication that it is cancelled
raises. -/
def cancellationRaises : List (Move lang Bool (World Bool)) :=
  [.start true (task (submitJob { token := 0 })) id, proceed true, proceed true, proceed true,
    proceed true, .start false (task workerTurn) (World.launched · false), proceed false,
    proceed false, proceed false, proceed false, fail false, proceed false]

theorem run_publicationRaises :
    Run JobPool.Step (JobPool.fresh (fun _ => none) 1)
      ((JobPool.fresh (fun _ => none) 1).play publicationRaises) := by
  refine Pool.run_start rfl (.submit _ rfl) ?_
  refine Pool.run_answer rfl ⟨rfl, rfl⟩ ?_
  refine Pool.run_answer rfl ⟨trivial, rfl⟩ ?_
  refine Pool.run_answer rfl ⟨trivial, rfl⟩ ?_
  refine Pool.run_answer rfl ⟨trivial, rfl⟩ ?_
  refine Pool.run_start rfl (.launch rfl) ?_
  refine Pool.run_answer rfl ⟨⟨rfl, ⟨0, 0, 7⟩, .head _, rfl, ?_⟩, rfl⟩ ?_
  · intro other hmem hother
    have hentry : other = ⟨0, 0, 7⟩ := List.mem_singleton.1 hmem
    exact (hother (congrArg Entry.job hentry)).elim
  exact Pool.run_answer rfl ⟨trivial, rfl⟩ trivial

theorem run_cancellationRaises :
    Run JobPool.Step (JobPool.fresh (fun _ => some "user requested") 1)
      ((JobPool.fresh (fun _ => some "user requested") 1).play cancellationRaises) := by
  refine Pool.run_start rfl (.submit _ rfl) ?_
  refine Pool.run_answer rfl ⟨rfl, rfl⟩ ?_
  refine Pool.run_answer rfl ⟨trivial, rfl⟩ ?_
  refine Pool.run_answer rfl ⟨trivial, rfl⟩ ?_
  refine Pool.run_answer rfl ⟨trivial, rfl⟩ ?_
  refine Pool.run_start rfl (.launch rfl) ?_
  refine Pool.run_answer rfl ⟨⟨rfl, ⟨0, 0, 7⟩, .head _, rfl, ?_⟩, rfl⟩ ?_
  · intro other hmem hother
    have hentry : other = ⟨0, 0, 7⟩ := List.mem_singleton.1 hmem
    exact (hother (congrArg Entry.job hentry)).elim
  refine Pool.run_answer rfl ⟨trivial, rfl⟩ ?_
  refine Pool.run_answer rfl ⟨trivial, rfl⟩ ?_
  refine Pool.run_answer rfl ⟨rfl, rfl⟩ ?_
  refine Pool.run_answer rfl ⟨trivial, rfl⟩ ?_
  exact Pool.run_answer rfl ⟨trivial, rfl⟩ trivial

theorem cancellation_raises : Throughout (fun _ _ c' => c'.state.Accounted)
    (JobPool.fresh (fun _ => some "user requested") 1)
    ((JobPool.fresh (fun _ => some "user requested") 1).play cancellationRaises) := by
  refine accepted_accounted _ _ _ run_cancellationRaises ?_
  exact ⟨trivial, trivial, trivial, trivial, trivial, trivial, trivial, trivial, trivial, trivial,
    trivial, trivial, trivial⟩

/-- The worker ends, and the job is in no queue, with no worker, and not ended. -/
theorem publication_raises : ¬ ∀ (tokens : Nat → Option String) (permits : Nat)
    (turns : List ((Bool × Turn lang) × JobPool Bool)),
    Run JobPool.Step (JobPool.fresh tokens permits) turns →
      Throughout (fun _ _ c' => c'.state.Accounted) (JobPool.fresh tokens permits) turns := by
  intro h
  have haccounted := h _ _ _ run_publicationRaises
  have hlast := haccounted.2.2.2.2.2.2.2.1.workers false rfl
  revert hlast
  exact fun h => h.elim (fun h => by cases h) fun h => by cases h

end Jobs
end NetOps
