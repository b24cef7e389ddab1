import NetOps.Jobs.World

/-!
# Jobs.Absorbing

The end states of a job, under any interleaving of the job framework.

`ends_absorbing`: if jobs are cancelled only from when they are put until they are admitted, or
while the engine has them and then says so, or when they are cancelled already (`Timely`), then a
job that is completed, failed, cancelled or timed out stays that.
-/

namespace NetOps
namespace Jobs

open Conc History
open Discovery (UUID)

variable {Tid : Type} [DecidableEq Tid]

/-- The engine says that the job was cancelled. -/
def Outcome.Cancelled : Outcome → Prop
  | .cancelled => True
  | .returned .cancelled _ => True
  | _ => False

/-- A job is cancelled where its mark will last. -/
def Timely (_ : Tid) (g : World Tid) : (s : Stmt) → s.Resp → Prop
  | .cancel job _, .ok true => (g.jobs job).phase = .queued ∨ (g.jobs job).phase = .taken ∨
      (g.jobs job).phase = .running ∨ (g.jobs job).phase = .abandoned ∨
      (g.jobs job).state.status = .cancelled
  | .run job, outcome => (g.jobs job).state.status = .cancelled → outcome.Cancelled
  | _, _ => True

/-- The status of a job fits with how far it has come; `token` is the reason that its token has. -/
def Phase.Fits : Phase → JobStatus → Option String → Prop
  | .absent, status, _ => status = .pending
  | .created, status, _ => status = .pending
  | .saved, status, _ => status = .pending
  | .queued, status, token => status = .queued ∨ (status = .cancelled ∧ token.isSome = true)
  | .taken, status, token => status = .queued ∨ (status = .cancelled ∧ token.isSome = true)
  | .waiting, status, _ => status = .queued
  | .running, status, _ => status = .running ∨ status = .cancelled
  | .abandoned, status, _ => status = .running ∨ status = .cancelled
  | .ended, status, _ => status.Ended

structure FitsInv (g : World Tid) : Prop where
  queue : QueueInv g
  fits : ∀ job, (g.jobs job).phase.Fits (g.jobs job).state.status (g.tokens (g.jobs job).token)

/-- A job that has ended keeps its status. -/
def Kept (job job' : Job Tid) : Prop :=
  job.state.status.Ended → job'.state.status = job.state.status

variable {i : Tid} {g : World Tid} {s : Stmt} {r : s.Resp} {job : UUID}

/-! ## The marks -/

theorem settle_cancelled {reason : Option String} {state : JobState} {outcome : Outcome}
    (h : outcome.Cancelled) : (state.settle reason outcome).status = .cancelled := by
  cases outcome with
  | returned status message => cases status <;> first | rfl | exact h.elim
  | cancelled => rfl
  | timedOut text => exact h.elim
  | raised text => exact h.elim

/-- A token that is set stays set. -/
theorem token_after {token : Nat} (h : (g.tokens token).isSome = true) :
    ((g.after i s r).tokens token).isSome = true := by
  show (g.tokensAfter s r token).isSome = true
  unfold World.tokensAfter
  split
  · rw [Function.update_apply]
    split
    · rfl
    · exact h
  · rw [Function.update_apply]
    split
    · rfl
    · exact h
  · exact h

theorem Phase.Fits.mono {phase : Phase} {status : JobStatus} {token token' : Option String}
    (h : phase.Fits status token) (hset : token.isSome = true → token'.isSome = true) :
    phase.Fits status token' := by
  cases phase with
  | queued => exact h.imp_right fun h => ⟨h.1, hset h.2⟩
  | taken => exact h.imp_right fun h => ⟨h.1, hset h.2⟩
  | _ => exact h

/-- A cancellation that is timely lasts, and takes no end away. -/
theorem fits_cancelled {reason : String} {phase : Phase} {state : JobState}
    {token token' : Option String} (hset : token'.isSome = true)
    (htimely : phase = .queued ∨ phase = .taken ∨ phase = .running ∨ phase = .abandoned ∨
      state.status = .cancelled) (hfits : phase.Fits state.status token) :
    phase.Fits (state.markCancelled (some reason)).status token' ∧
      (state.status.Ended → (state.markCancelled (some reason)).status = state.status) := by
  have hkept : state.status = .cancelled →
      (state.status.Ended → (state.markCancelled (some reason)).status = state.status) :=
    fun hstatus _ => hstatus.symm
  have hunended : ∀ {status}, state.status = status → ¬ status.Ended →
      (state.status.Ended → (state.markCancelled (some reason)).status = state.status) :=
    fun hstatus hnot hended => (hnot (hstatus ▸ hended)).elim
  have huntimely : ∀ {status}, state.status = status → status ≠ .cancelled →
      phase ≠ .queued ∧ phase ≠ .taken ∧ phase ≠ .running ∧ phase ≠ .abandoned → False := by
    rintro status hstatus hne ⟨hq, ht, hr, ha⟩
    rcases htimely with h | h | h | h | h
    · exact hq h
    · exact ht h
    · exact hr h
    · exact ha h
    · exact hne (hstatus.symm.trans h)
  cases phase with
  | absent => exact (huntimely hfits (by decide) (by decide)).elim
  | created => exact (huntimely hfits (by decide) (by decide)).elim
  | saved => exact (huntimely hfits (by decide) (by decide)).elim
  | queued => exact ⟨.inr ⟨rfl, hset⟩, hfits.elim (hunended · id) fun h => hkept h.1⟩
  | taken => exact ⟨.inr ⟨rfl, hset⟩, hfits.elim (hunended · id) fun h => hkept h.1⟩
  | waiting => exact (huntimely hfits (by decide) (by decide)).elim
  | running => exact ⟨.inr rfl, hfits.elim (hunended · id) hkept⟩
  | abandoned => exact ⟨.inr rfl, hfits.elim (hunended · id) hkept⟩
  | ended =>
    rcases htimely with h | h | h | h | h
    · cases h
    · cases h
    · cases h
    · cases h
    · exact ⟨trivial, hkept h⟩

/-! ## A step -/

/-- What a statement does to the job it is about. -/
theorem fits_subject (hinv : FitsInv g) (hguar : Guarantees i g s) (hallows : g.Allows s r)
    (htimely : Timely i g s r) (hsubject : s.subject r = some job) :
    ((g.after i s r).jobs job).phase.Fits ((g.after i s r).jobs job).state.status
        ((g.after i s r).tokens ((g.after i s r).jobs job).token) ∧
      Kept (g.jobs job) ((g.after i s r).jobs job) := by
  have hfits := hinv.fits job
  rw [jobs_after hsubject, if_pos rfl]
  cases s with
  | create request =>
    cases hsubject
    have habsent : (g.jobs job).phase = .absent := hallows
    rw [habsent] at hfits
    refine ⟨rfl, fun hended => ?_⟩
    rw [show (g.jobs job).state.status = .pending from hfits] at hended
    exact hended.elim
  | save other place =>
    cases hsubject
    cases place with
    | submitted =>
      have hphase : (g.jobs job).phase = .created := hguar.2
      rw [hphase] at hfits
      cases r with
      | ok u => exact ⟨hfits, fun _ => rfl⟩
      | error e =>
        refine ⟨?_, fun _ => rfl⟩
        show (if e.stored then Phase.saved else (g.jobs job).phase).Fits _ _
        rw [hphase]
        split <;> exact hfits
    | _ => cases r <;> exact ⟨hfits, fun _ => rfl⟩
  | publish other event =>
    cases hsubject
    cases event with
    | started =>
      cases r with
      | ok u => exact ⟨hfits, fun _ => rfl⟩
      | error e =>
        have hphase : (g.jobs job).phase = .running := hguar.2
        rw [hphase] at hfits
        exact ⟨hfits, fun _ => rfl⟩
    | _ => cases r <;> exact ⟨hfits, fun _ => rfl⟩
  | put other =>
    cases hsubject
    have hphase : (g.jobs job).phase = .saved := hguar.2
    rw [hphase] at hfits
    refine ⟨.inl rfl, fun hended => ?_⟩
    rw [show (g.jobs job).state.status = .pending from hfits] at hended
    exact hended.elim
  | poll =>
    cases r with
    | job job =>
      cases hsubject
      obtain ⟨_, entry, hmem, hjob, _⟩ := hallows
      rw [(hinv.queue.queued job).2 (List.mem_map.2 ⟨entry, hmem, hjob⟩)] at hfits
      exact ⟨hfits, fun _ => rfl⟩
    | _ => cases hsubject
  | enter other =>
    cases hsubject
    have hphase : (g.jobs job).phase = .taken := hguar.2
    rw [hphase] at hfits
    cases r with
    | cancelled reason =>
      refine ⟨trivial, fun hended => ?_⟩
      rcases hfits with hstatus | ⟨hstatus, _⟩
      · rw [hstatus] at hended
        exact hended.elim
      · exact hstatus.symm
    | entered =>
      have htoken : g.tokens (g.jobs job).token = none := hallows.1
      rw [htoken] at hfits
      refine ⟨.inl rfl, fun hended => ?_⟩
      rcases hfits with hstatus | ⟨_, hset⟩
      · rw [hstatus] at hended
        exact hended.elim
      · cases hset
    | waits =>
      have htoken : g.tokens (g.jobs job).token = none := hallows.1
      rw [htoken] at hfits
      rcases hfits with hstatus | ⟨_, hset⟩
      · exact ⟨hstatus, fun _ => rfl⟩
      · cases hset
  | acquire other =>
    cases hsubject
    have hphase : (g.jobs job).phase = .waiting := hguar.2
    rw [hphase] at hfits
    refine ⟨.inl rfl, fun hended => ?_⟩
    rw [show (g.jobs job).state.status = .queued from hfits] at hended
    exact hended.elim
  | run other =>
    cases hsubject
    have hphase : (g.jobs job).phase = .running := hguar.2
    rw [hphase] at hfits
    refine ⟨settle_ended _ _ r, fun hended => ?_⟩
    rcases hfits with hstatus | hstatus
    · rw [hstatus] at hended
      exact hended.elim
    · rw [hstatus]
      exact settle_cancelled (htimely hstatus)
  | release => cases hsubject
  | cancel other reason =>
    cases r with
    | error e => cases hsubject
    | ok found =>
      cases found with
      | false => cases hsubject
      | true =>
        cases hsubject
        have hset : ((g.after i (.cancel job reason) (.ok true)).tokens
            (g.jobs job).token).isSome = true := by
          show (Function.update g.tokens _ _ _).isSome = true
          rw [Function.update_self]
          rfl
        exact fits_cancelled hset htimely hfits
  | cancelToken token reason => cases hsubject
  | shutdown => cases hsubject

theorem fits_step (hinv : FitsInv g) (hguar : Guarantees i g s) (hallows : g.Allows s r)
    (htimely : Timely i g s r) :
    FitsInv (g.after i s r) ∧ ∀ job, Kept (g.jobs job) ((g.after i s r).jobs job) := by
  have hjob : ∀ job, ((g.after i s r).jobs job).phase.Fits ((g.after i s r).jobs job).state.status
        ((g.after i s r).tokens ((g.after i s r).jobs job).token) ∧
      Kept (g.jobs job) ((g.after i s r).jobs job) := by
    intro job
    by_cases hsubject : s.subject r = some job
    · exact fits_subject hinv hguar hallows htimely hsubject
    · rw [jobs_of_ne hsubject]
      exact ⟨(hinv.fits job).mono token_after, fun _ => rfl⟩
  exact ⟨⟨queue_step hinv.queue hguar hallows, fun job => (hjob job).1⟩, fun job => (hjob job).2⟩

theorem fits_sound : Sound World.Answers Starts Timely contract Idle (FitsInv : World Tid → Prop) :=
  sound (fun _ hinv => hinv.queue)
    (fun _ _ _ _ hinv hguar hallows htimely => (fits_step hinv hguar hallows htimely).1)
    fun _ _ hinv _ => ⟨⟨hinv.queue.absent, hinv.queue.queued, hinv.queue.free, hinv.queue.nodup⟩,
      hinv.fits⟩

/-! ## Any interleaving -/

/-- The jobs that have ended keep their status in the step. -/
def EndsKept (c : JobPool Tid) (_ : Tid × Turn lang) (c' : JobPool Tid) : Prop :=
  ∀ job, Kept (c.state.jobs job) (c'.state.jobs job)

theorem ends_absorbing (tokens : Nat → Option String) (permits : Nat)
    (turns : List ((Tid × Turn lang) × JobPool Tid))
    (hrun : Run JobPool.Step (JobPool.fresh tokens permits) turns)
    (htimely : Throughout (Pool.Meets Timely) (JobPool.fresh tokens permits) turns) :
    Throughout EndsKept (JobPool.fresh tokens permits) turns := by
  refine fits_sound.throughout (fun c e c' hfine hstep hmeets => ?_)
    ⟨⟨queueInv_fresh, fun _ => rfl⟩, fun _ _ hown => by cases hown⟩ hrun htimely
  cases hstep with
  | answered htask hact =>
    obtain ⟨hallows, rfl⟩ := hact
    exact (fits_step hfine.1 (fits_sound.guar hfine htask) hallows hmeets).2
  | started htask hstart => cases hstart <;> exact fun _ _ => rfl

/-! ## A cancellation before and after the job is put -/

/-- A client submits the job while another cancels it, between the save and the put. -/
def cancelledWhileSubmitted : List (Move lang Bool (World Bool)) :=
  [.start true (task (submitJob { token := 0 })) id, proceed true, proceed true,
    .start false (task (cancelJob 7 "user requested")) id, proceed false, proceed true,
    proceed true]

/-- The other client cancels the job when it is in the queue. -/
def cancelledInQueue : List (Move lang Bool (World Bool)) :=
  [.start true (task (submitJob { token := 0 })) id, proceed true, proceed true, proceed true,
    proceed true, .start false (task (cancelJob 7 "user requested")) id, proceed false,
    proceed false, proceed false]

def afterwards (moves : List (Move lang Bool (World Bool))) :
    List ((Bool × Turn lang) × JobPool Bool) :=
  (JobPool.fresh (fun _ => none) 1).play moves

theorem run_cancelledWhileSubmitted :
    Run JobPool.Step (JobPool.fresh (fun _ => none) 1) (afterwards cancelledWhileSubmitted) := by
  refine Pool.run_start rfl (.submit _ rfl) ?_
  refine Pool.run_answer rfl ⟨rfl, rfl⟩ ?_
  refine Pool.run_answer rfl ⟨trivial, rfl⟩ ?_
  refine Pool.run_start rfl (.cancel _ _ rfl) ?_
  refine Pool.run_answer rfl ⟨rfl, rfl⟩ ?_
  refine Pool.run_answer rfl ⟨trivial, rfl⟩ ?_
  exact Pool.run_answer rfl ⟨trivial, rfl⟩ trivial

theorem run_cancelledInQueue :
    Run JobPool.Step (JobPool.fresh (fun _ => none) 1) (afterwards cancelledInQueue) := by
  refine Pool.run_start rfl (.submit _ rfl) ?_
  refine Pool.run_answer rfl ⟨rfl, rfl⟩ ?_
  refine Pool.run_answer rfl ⟨trivial, rfl⟩ ?_
  refine Pool.run_answer rfl ⟨trivial, rfl⟩ ?_
  refine Pool.run_answer rfl ⟨trivial, rfl⟩ ?_
  refine Pool.run_start rfl (.cancel _ _ rfl) ?_
  refine Pool.run_answer rfl ⟨rfl, rfl⟩ ?_
  refine Pool.run_answer rfl ⟨trivial, rfl⟩ ?_
  exact Pool.run_answer rfl ⟨trivial, rfl⟩ trivial

theorem cancelled_in_queue : Throughout EndsKept (JobPool.fresh (fun _ => none) 1)
    (afterwards cancelledInQueue) := by
  refine ends_absorbing _ _ _ run_cancelledInQueue ?_
  refine ⟨trivial, trivial, trivial, trivial, trivial, trivial, ?_, trivial, trivial, trivial⟩
  exact .inl rfl

/-- The put marks the job as queued again. -/
theorem cancelled_while_submitted : ¬ ∀ (tokens : Nat → Option String) (permits : Nat)
    (turns : List ((Bool × Turn lang) × JobPool Bool)),
    Run JobPool.Step (JobPool.fresh tokens permits) turns →
      Throughout EndsKept (JobPool.fresh tokens permits) turns := by
  intro h
  have hkept := h _ _ _ run_cancelledWhileSubmitted
  have hlast := hkept.2.2.2.2.2.2.1 7 trivial
  cases hlast

end Jobs
end NetOps
