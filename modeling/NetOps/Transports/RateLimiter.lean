import Mathlib.Algebra.Order.Ring.Rat
import NetOps.TokenBucket

/-!
# Transports.RateLimiter

`RateLimiter` (`transports/rate_limiter.py`) under tasks that interleave, in exact arithmetic.
`acquire` keeps the lock while it sleeps; `try_acquire` takes no lock. A lock passes to the task
that has waited longest, which polls when the loop runs it.

* `window_bounded`: what any window of grants took.
* `served_in_order`: requests are granted in the order they came, none lost and none twice.
* `served_after_sleep`: one sleep is enough, if nothing is taken meanwhile.
* `oversized_blocks`: a request for more than the capacity is never granted, nor any after it.
-/

namespace NetOps
namespace Transports

open TokenBucket (Withdrawal taken lastTime Metered)

variable {K Tid : Type}

/-- The task in the lock, asleep until `wakeAt`. -/
structure Holder (K Tid : Type) where
  task : Tid
  tokens : K
  wakeAt : K

/-- The limiter with its lock, and a log of the grants; a grant of `try_acquire` has no task. -/
structure RateLimiter (K Tid : Type) where
  bucket : TokenBucket K
  holder : Option (Holder K Tid) := none
  waiters : List (Tid × K) := []
  grants : List (Option Tid × Withdrawal K) := []

inductive Action (K Tid : Type) where
  | acquire (task : Tid) (tokens now : K)
  | resume (now : K)
  | tryAcquire (tokens now : K)
  | cancel (task : Tid) (now : K)

namespace RateLimiter

/-- The lock is released at `now`. -/
def release (σ : RateLimiter K Tid) (now : K) : RateLimiter K Tid :=
  match σ.waiters with
  | [] => { σ with holder := none }
  | w :: ws => { σ with holder := some ⟨w.1, w.2, now⟩, waiters := ws }

variable [Field K] [LinearOrder K]

/-- `__post_init__`; `none` is its `ValueError`. -/
def limits (tokensPerSecond : K) (capacity : Option K) : Option (Limits K) :=
  if hrate : 0 < tokensPerSecond then
    if hcap : 0 < capacity.getD tokensPerSecond then
      some ⟨tokensPerSecond, capacity.getD tokensPerSecond, hrate, hcap⟩
    else none
  else none

def start (l : Limits K) (time : K) : RateLimiter K Tid where
  bucket := ⟨l.capacity, time⟩

/-- `_refill`. -/
def refill (l : Limits K) (σ : RateLimiter K Tid) (now : K) : RateLimiter K Tid :=
  { σ with bucket := σ.bucket.refill l now }

/-- `self._tokens -= tokens`. -/
def grant (σ : RateLimiter K Tid) (task : Option Tid) (tokens : K) : RateLimiter K Tid :=
  { σ with
    bucket := σ.bucket.take tokens
    grants := σ.grants ++ [(task, ⟨tokens, σ.bucket.time⟩)] }

/-- One turn of the loop of `acquire`. -/
def poll (l : Limits K) (σ : RateLimiter K Tid) (task : Tid) (tokens now : K) :
    RateLimiter K Tid :=
  let σ := σ.refill l now
  if tokens ≤ σ.bucket.tokens then (σ.grant (some task) tokens).release now
  else
    let deficit := tokens - σ.bucket.tokens
    { σ with holder := some ⟨task, tokens, now + deficit / l.rate⟩ }

variable [DecidableEq Tid]

/-- One step; `none` when it cannot happen: the clock, `time.monotonic`, does not go back, and a
sleep is not cut short. Requests for no tokens raise. -/
def step (l : Limits K) (σ : RateLimiter K Tid) : Action K Tid → Option (RateLimiter K Tid)
  | .acquire task tokens now =>
    if now < σ.bucket.time then none
    else if tokens ≤ 0 then some σ
    else if σ.holder.isSome then some { σ with waiters := σ.waiters ++ [(task, tokens)] }
    else some (σ.poll l task tokens now)
  | .resume now =>
    match σ.holder with
    | none => none
    | some h =>
      if now < σ.bucket.time ∨ now < h.wakeAt then none
      else some (σ.poll l h.task h.tokens now)
  | .tryAcquire tokens now =>
    if now < σ.bucket.time then none
    else if tokens ≤ 0 then some σ
    else if (σ.refill l now).bucket.tokens < tokens then some (σ.refill l now)
    else some ((σ.refill l now).grant none tokens)
  | .cancel task now =>
    if now < σ.bucket.time then none
    else if σ.holder.any (·.task = task) then some (σ.release now)
    else some { σ with waiters := σ.waiters.filter (·.1 ≠ task) }

def run (l : Limits K) : RateLimiter K Tid → List (Action K Tid) → Option (RateLimiter K Tid)
  | σ, [] => some σ
  | σ, a :: as => (σ.step l a).bind fun σ' => run l σ' as

/-! ## What a step does -/

/-- What one step can do: nothing to the bucket, or a refill, or a refill and a grant. -/
inductive Effect (l : Limits K) (σ σ' : RateLimiter K Tid) : Prop
  | same (hbucket : σ'.bucket = σ.bucket) (hgrants : σ'.grants = σ.grants)
  | refilled (now : K) (hnow : σ.bucket.time ≤ now) (hbucket : σ'.bucket = σ.bucket.refill l now)
      (hgrants : σ'.grants = σ.grants)
  | granted (now : K) (hnow : σ.bucket.time ≤ now) (task : Option Tid) (tokens : K)
      (hpos : 0 < tokens) (hle : tokens ≤ (σ.bucket.refill l now).tokens)
      (hbucket : σ'.bucket = (σ.bucket.refill l now).take tokens)
      (hgrants : σ'.grants = σ.grants ++ [(task, ⟨tokens, now⟩)])

omit [Field K] [LinearOrder K] [DecidableEq Tid] in
@[simp] theorem release_bucket (σ : RateLimiter K Tid) (now : K) :
    (σ.release now).bucket = σ.bucket := by
  unfold release
  split <;> rfl

omit [Field K] [LinearOrder K] [DecidableEq Tid] in
@[simp] theorem release_grants (σ : RateLimiter K Tid) (now : K) :
    (σ.release now).grants = σ.grants := by
  unfold release
  split <;> rfl

omit [DecidableEq Tid] in
theorem poll_effect {l : Limits K} {σ : RateLimiter K Tid} {task : Tid} {tokens now : K}
    (hpos : 0 < tokens) (hnow : σ.bucket.time ≤ now) :
    Effect l σ (σ.poll l task tokens now) := by
  unfold poll
  dsimp only
  split
  · rename_i hle
    exact .granted now hnow (some task) tokens hpos hle (by simp [grant, refill])
      (by simp [grant, refill])
  · exact .refilled now hnow rfl rfl

/-- Whoever holds the lock or waits for it asked for a positive amount. -/
def Positive (σ : RateLimiter K Tid) : Prop :=
  (∀ h ∈ σ.holder, 0 < h.tokens) ∧ ∀ w ∈ σ.waiters, 0 < w.2

omit [Field K] [DecidableEq Tid] in
theorem release_positive [Zero K] {σ : RateLimiter K Tid} {now : K}
    (h : ∀ w ∈ σ.waiters, 0 < w.2) :
    (∀ h ∈ (σ.release now).holder, 0 < h.tokens) ∧ ∀ w ∈ (σ.release now).waiters, 0 < w.2 := by
  unfold release
  split
  · exact ⟨fun _ hh => (by cases hh), h⟩
  · rename_i w ws hws
    rw [hws] at h
    refine ⟨fun holder hh => ?_, fun v hv => h v (List.mem_cons_of_mem _ hv)⟩
    cases hh
    exact h w List.mem_cons_self

omit [DecidableEq Tid] in
theorem poll_positive {l : Limits K} {σ : RateLimiter K Tid} {task : Tid} {tokens now : K}
    (hpos : 0 < tokens) (h : ∀ w ∈ σ.waiters, 0 < w.2) : (σ.poll l task tokens now).Positive := by
  unfold poll
  dsimp only
  split
  · exact release_positive h
  · refine ⟨fun holder hh => ?_, h⟩
    cases hh
    exact hpos

section

variable {l : Limits K} {σ σ' : RateLimiter K Tid} {a : Action K Tid}

theorem step_effect (hpositive : σ.Positive) (h : σ.step l a = some σ') : Effect l σ σ' := by
  cases a with
  | acquire task tokens now =>
    simp only [step] at h
    split at h
    · cases h
    rename_i hnow
    split at h
    · cases h
      exact .same rfl rfl
    rename_i hpos
    split at h
    · cases h
      exact .same rfl rfl
    · cases h
      exact poll_effect (not_le.1 hpos) (not_lt.1 hnow)
  | resume now =>
    simp only [step] at h
    split at h
    · cases h
    rename_i holder hholder
    split at h
    · cases h
    rename_i hnow
    cases h
    rw [not_or, not_lt] at hnow
    exact poll_effect (hpositive.1 holder hholder) hnow.1
  | tryAcquire tokens now =>
    simp only [step] at h
    split at h
    · cases h
    rename_i hnow
    split at h
    · cases h
      exact .same rfl rfl
    rename_i hpos
    split at h
    · cases h
      exact .refilled now (not_lt.1 hnow) rfl rfl
    · rename_i hle
      cases h
      exact .granted now (not_lt.1 hnow) none tokens (not_le.1 hpos) (not_lt.1 hle) rfl rfl
  | cancel task now =>
    simp only [step] at h
    split at h
    · cases h
    split at h
    · cases h
      exact .same (release_bucket ..) (release_grants ..)
    · cases h
      exact .same rfl rfl

theorem step_positive (hpositive : σ.Positive) (h : σ.step l a = some σ') : σ'.Positive := by
  cases a with
  | acquire task tokens now =>
    simp only [step] at h
    split at h
    · cases h
    split at h
    · cases h
      exact hpositive
    rename_i hpos
    split at h
    · cases h
      refine ⟨hpositive.1, fun w hw => ?_⟩
      rcases List.mem_append.1 hw with hw | hw
      · exact hpositive.2 w hw
      · rw [List.mem_singleton.1 hw]
        exact not_le.1 hpos
    · cases h
      exact poll_positive (not_le.1 hpos) hpositive.2
  | resume now =>
    simp only [step] at h
    split at h
    · cases h
    rename_i holder hholder
    split at h
    · cases h
    cases h
    exact poll_positive (hpositive.1 holder hholder) hpositive.2
  | tryAcquire tokens now =>
    simp only [step] at h
    split at h
    · cases h
    split at h
    · cases h
      exact hpositive
    split at h
    · cases h
      exact hpositive
    · cases h
      exact hpositive
  | cancel task now =>
    simp only [step] at h
    split at h
    · cases h
    split at h
    · cases h
      exact release_positive hpositive.2
    · cases h
      exact ⟨hpositive.1, fun w hw => hpositive.2 w (List.mem_filter.1 hw).1⟩

end

/-! ## Runs -/

section

variable {l : Limits K} {σ σ' : RateLimiter K Tid} {as : List (Action K Tid)}

theorem run_cons {a : Action K Tid} (h : σ.run l (a :: as) = some σ') :
    ∃ σ₁, σ.step l a = some σ₁ ∧ σ₁.run l as = some σ' :=
  Option.bind_eq_some_iff.1 h

/-- What the steps of a run keep, the run keeps. -/
theorem run_keeps {P : RateLimiter K Tid → Prop}
    (hstep : ∀ σ a σ', a ∈ as → P σ → σ.step l a = some σ' → P σ') (hP : P σ)
    (h : σ.run l as = some σ') : P σ' := by
  induction as generalizing σ with
  | nil =>
    cases h
    exact hP
  | cons a as ih =>
    obtain ⟨σ₁, hσ₁, hrun⟩ := run_cons h
    exact ih (fun σ b σ' hb => hstep σ b σ' (List.mem_cons_of_mem _ hb))
      (hstep σ a σ₁ List.mem_cons_self hP hσ₁) hrun

variable [IsStrictOrderedRing K]

/-- The bucket and the log of the grants meter each other. -/
theorem step_metered {a : Action K Tid} (hpositive : σ.Positive)
    (hmetered : Metered l σ.bucket (σ.grants.map Prod.snd)) (h : σ.step l a = some σ') :
    Metered l σ'.bucket (σ'.grants.map Prod.snd) := by
  cases step_effect hpositive h with
  | same hbucket hgrants =>
    rw [hbucket, hgrants]
    exact hmetered
  | refilled now hnow hbucket hgrants =>
    rw [hbucket, hgrants]
    exact hmetered.refill hnow
  | granted now hnow task tokens hpos hle hbucket hgrants =>
    rw [hbucket, hgrants, List.map_append]
    exact (hmetered.refill hnow).take hpos.le hle

/-- Whatever tasks do with a limiter, what any window of its grants took is at most the capacity and
what flows in between the first and the last of them. -/
theorem window_bounded {time : K} (h : (start l time : RateLimiter K Tid).run l as = some σ)
    {w : Withdrawal K} {rest : List (Withdrawal K)} (hw : w :: rest <:+: σ.grants.map Prod.snd) :
    taken (w :: rest) ≤ l.capacity + (lastTime w rest - w.time) * l.rate := by
  have hstart : (start l time : RateLimiter K Tid).Positive ∧
      Metered l (start l time : RateLimiter K Tid).bucket [] :=
    ⟨⟨fun _ hh => (by cases hh), fun _ hw => (by cases hw)⟩, .start l time⟩
  have hend : σ.Positive ∧ Metered l σ.bucket (σ.grants.map Prod.snd) :=
    run_keeps (P := fun σ => σ.Positive ∧ Metered l σ.bucket (σ.grants.map Prod.snd))
      (fun σ a σ' _ hσ hstep => ⟨step_positive hσ.1 hstep, step_metered hσ.1 hσ.2 hstep⟩) hstart h
  exact hend.2.window w rest hw

end

/-- A limiter of one token each second. -/
def one : Limits ℚ := ⟨1, 1, one_pos, one_pos⟩

/-- Two tasks ask for a token; the second sleeps for a second. -/
def twice : List (Action ℚ Nat) := [.acquire 0 1 0, .acquire 1 1 0, .resume 1]

/-- Both tokens are granted, and no more than the rate allows. -/
theorem window_bounded_twice :
    ∃ σ, (start one 0 : RateLimiter ℚ Nat).run one twice = some σ ∧
      σ.grants.map Prod.snd = [⟨1, 0⟩, ⟨1, 1⟩] ∧
      taken [⟨1, 0⟩, ⟨1, 1⟩] ≤ one.capacity + (lastTime ⟨1, 0⟩ [⟨1, 1⟩] - 0) * one.rate := by
  obtain ⟨σ, h, hgrants⟩ := Option.map_eq_some_iff.1
    (by decide +kernel : ((start one 0 : RateLimiter ℚ Nat).run one twice).map
      (fun σ => σ.grants.map Prod.snd) = some [⟨1, 0⟩, ⟨1, 1⟩])
  exact ⟨σ, h, hgrants, window_bounded h (by rw [hgrants])⟩

/-! ## One sleep -/

section

variable {l : Limits K} {σ σ' : RateLimiter K Tid} {as : List (Action K Tid)}

/-- Grants are only added. -/
theorem run_grants (h : σ.run l as = some σ') (hpositive : σ.Positive) :
    ∃ new, σ'.grants = σ.grants ++ new := by
  have hend : σ'.Positive ∧ ∃ new, σ'.grants = σ.grants ++ new := by
    refine run_keeps (P := fun τ => τ.Positive ∧ ∃ new, τ.grants = σ.grants ++ new)
      (fun τ a τ' _ hτ hstep => ⟨step_positive hτ.1 hstep, ?_⟩)
      ⟨hpositive, [], (List.append_nil _).symm⟩ h
    obtain ⟨hpos, new, hnew⟩ := hτ
    cases step_effect hpos hstep with
    | same _ hgrants => exact ⟨new, by rw [hgrants, hnew]⟩
    | refilled _ _ _ hgrants => exact ⟨new, by rw [hgrants, hnew]⟩
    | granted now _ task tokens _ _ _ hgrants =>
      exact ⟨new ++ [(task, ⟨tokens, now⟩)], by rw [hgrants, hnew, List.append_assoc]⟩
  exact hend.2

/-- The holder sleeps long enough: from its time on there is what it asked for. -/
structure Asleep (l : Limits K) (h : Holder K Tid) (σ : RateLimiter K Tid) : Prop where
  holder : σ.holder = some h
  enough : ∀ t, h.wakeAt ≤ t → σ.bucket.time ≤ t → h.tokens ≤ (σ.bucket.refill l t).tokens

omit [DecidableEq Tid] in
theorem poll_of_le {task : Tid} {tokens now : K} (h : tokens ≤ (σ.bucket.refill l now).tokens) :
    (σ.poll l task tokens now).grants = σ.grants ++ [(some task, ⟨tokens, now⟩)] := by
  unfold poll
  dsimp only
  rw [if_pos (by simpa [refill] using h)]
  simp [grant, refill]

variable [IsStrictOrderedRing K]

omit [DecidableEq Tid] in
/-- A task that polls in vain sleeps long enough, if it asks for no more than the capacity. -/
theorem poll_asleep {task : Tid} {tokens now : K} (hcap : tokens ≤ l.capacity)
    (h : (σ.poll l task tokens now).grants = σ.grants) :
    ∃ wakeAt, Asleep l ⟨task, tokens, wakeAt⟩ (σ.poll l task tokens now) := by
  by_cases hle : tokens ≤ (σ.bucket.refill l now).tokens
  · rw [poll_of_le hle] at h
    simp at h
  · refine ⟨now + (tokens - (σ.refill l now).bucket.tokens) / l.rate, ?_⟩
    unfold poll
    dsimp only
    rw [if_neg (by simpa [refill] using hle)]
    exact ⟨rfl, fun t hwake _ => TokenBucket.le_refill_of_deficit hcap hwake⟩

/-- Nobody but the holder ends its sleep, and what is there stays there. -/
theorem Asleep.step {h : Holder K Tid} {a : Action K Tid} (hσ : Asleep l h σ)
    (hcancel : ∀ now, a ≠ .cancel h.task now) (hstep : σ.step l a = some σ')
    (hgrants : σ'.grants = σ.grants) : Asleep l h σ' := by
  obtain ⟨hholder, henough⟩ := hσ
  cases a with
  | acquire task tokens now =>
    simp only [RateLimiter.step, hholder, Option.isSome_some, if_true] at hstep
    split at hstep
    · cases hstep
    split at hstep
    · cases hstep
      exact ⟨hholder, henough⟩
    · cases hstep
      exact ⟨rfl, henough⟩
  | resume now =>
    simp only [RateLimiter.step, hholder] at hstep
    split at hstep
    · cases hstep
    rename_i hnow
    cases hstep
    rw [not_or, not_lt, not_lt] at hnow
    rw [poll_of_le (henough now hnow.2 hnow.1)] at hgrants
    simp at hgrants
  | tryAcquire tokens now =>
    simp only [RateLimiter.step] at hstep
    split at hstep
    · cases hstep
    split at hstep
    · cases hstep
      exact ⟨hholder, henough⟩
    split at hstep
    · rename_i hnow _ _
      cases hstep
      refine ⟨hholder, fun t hwake ht => ?_⟩
      have hlater : now ≤ t := ht
      have hsame : (σ.refill l now).bucket.refill l t = σ.bucket.refill l t :=
        TokenBucket.refill_refill hlater
      rw [hsame]
      exact henough t hwake ((not_lt.1 hnow).trans hlater)
    · cases hstep
      simp [grant, refill] at hgrants
  | cancel task now =>
    have hother : h.task ≠ task := fun he => hcancel now (by rw [he])
    simp only [RateLimiter.step, hholder, Option.any_some, decide_eq_true_eq, if_neg hother]
      at hstep
    split at hstep
    · cases hstep
    · cases hstep
      exact ⟨rfl, henough⟩

/-- A task that asks for no more than the capacity and polls in vain is served when it wakes, if
meanwhile nothing was taken and it was not cancelled. -/
theorem served_after_sleep {task : Tid} {tokens now later : K} {σ₁ σ₂ σ₃ : RateLimiter K Tid}
    (hpositive : σ.Positive) (hpos : 0 < tokens) (hcap : tokens ≤ l.capacity)
    (hpoll : σ.poll l task tokens now = σ₁) (hwait : σ₁.grants = σ.grants)
    (hrun : σ₁.run l as = some σ₂) (hquiet : σ₂.grants = σ₁.grants)
    (hcancel : ∀ t, .cancel task t ∉ as) (hresume : σ₂.step l (.resume later) = some σ₃) :
    σ₃.grants = σ₂.grants ++ [(some task, ⟨tokens, later⟩)] := by
  subst hpoll
  obtain ⟨wakeAt, hasleep⟩ := poll_asleep hcap hwait
  have hkeep : ∀ (as : List (Action K Tid)) (τ : RateLimiter K Tid), τ.Positive →
      Asleep l ⟨task, tokens, wakeAt⟩ τ → τ.run l as = some σ₂ → σ₂.grants = τ.grants →
      (∀ t, .cancel task t ∉ as) → Asleep l ⟨task, tokens, wakeAt⟩ σ₂ := by
    intro as
    induction as with
    | nil =>
      intro τ _ hτ hrun _ _
      cases hrun
      exact hτ
    | cons a as ih =>
      intro τ hτpos hτ hrun hsame hcancel
      obtain ⟨τ₁, hstep, hrest⟩ := run_cons hrun
      have hτ₁pos := step_positive hτpos hstep
      obtain ⟨new, hnew⟩ := run_grants hrest hτ₁pos
      have hstays : τ₁.grants = τ.grants := by
        cases step_effect hτpos hstep with
        | same _ hgrants => exact hgrants
        | refilled _ _ _ hgrants => exact hgrants
        | granted now _ task tokens _ _ _ hgrants =>
          rw [hsame, hgrants] at hnew
          simp at hnew
      refine ih τ₁ hτ₁pos (hτ.step (fun t ht => hcancel t ?_) hstep hstays) hrest
        (hsame.trans hstays.symm) fun t ht => hcancel t (List.mem_cons_of_mem _ ht)
      rw [ht]
      exact List.mem_cons_self
  have hend := hkeep as _ (poll_positive hpos hpositive.2) hasleep hrun hquiet hcancel
  simp only [RateLimiter.step, hend.holder] at hresume
  split at hresume
  · cases hresume
  · rename_i hnow
    cases hresume
    rw [not_or, not_lt, not_lt] at hnow
    exact poll_of_le (hend.enough later hnow.2 hnow.1)

/-- An empty bucket. -/
def empty : RateLimiter ℚ Nat := ⟨⟨0, 0⟩, none, [], []⟩

/-- The task that finds no token is served a second later. -/
theorem served_after_sleep_empty :
    ∃ σ, (empty.poll one 1 1 0).step one (.resume 1) = some σ ∧
      σ.grants = [(some 1, ⟨1, 1⟩)] := by
  obtain ⟨σ, h⟩ := Option.isSome_iff_exists.1
    (by decide +kernel : ((empty.poll one 1 1 0).step one (.resume 1)).isSome = true)
  have hpositive : empty.Positive := ⟨fun _ hh => (by cases hh), fun _ hw => (by cases hw)⟩
  have hwait : (empty.poll one 1 1 0).grants = empty.grants := by decide +kernel
  have hserved := served_after_sleep hpositive one_pos (le_refl _) rfl hwait
    (rfl : (empty.poll one 1 1 0).run one [] = _) rfl (fun _ ht => by cases ht) h
  rw [hwait] at hserved
  exact ⟨σ, h, hserved⟩

end

/-! ## Requests for more than the capacity -/

section

variable {l : Limits K} {σ σ' : RateLimiter K Tid} {as : List (Action K Tid)}

/-- While a task that asked for more than the capacity is not cancelled, it keeps the lock, and no
`acquire` is granted. -/
theorem oversized_blocks {h : Holder K Tid} (hholder : σ.holder = some h)
    (hover : l.capacity < h.tokens) (hcancel : ∀ t, .cancel h.task t ∉ as)
    (hrun : σ.run l as = some σ') :
    (∃ h', σ'.holder = some h' ∧ h'.task = h.task ∧ h'.tokens = h.tokens) ∧
      ∃ new, σ'.grants = σ.grants ++ new ∧ ∀ g ∈ new, g.1 = none := by
  refine run_keeps (P := fun τ =>
    (∃ h', τ.holder = some h' ∧ h'.task = h.task ∧ h'.tokens = h.tokens) ∧
      ∃ new, τ.grants = σ.grants ++ new ∧ ∀ g ∈ new, g.1 = none) ?_
    ⟨⟨h, hholder, rfl, rfl⟩, [], (List.append_nil _).symm, List.forall_mem_nil _⟩ hrun
  rintro τ a τ' ha ⟨⟨h', hτ, htask, htokens⟩, new, hnew, hnone⟩ hstep
  cases a with
  | acquire task tokens now =>
    simp only [step, hτ, Option.isSome_some, if_true] at hstep
    split at hstep
    · cases hstep
    split at hstep
    · cases hstep
      exact ⟨⟨h', hτ, htask, htokens⟩, new, hnew, hnone⟩
    · cases hstep
      exact ⟨⟨h', rfl, htask, htokens⟩, new, hnew, hnone⟩
  | resume now =>
    simp only [step, hτ] at hstep
    split at hstep
    · cases hstep
    have hshort : ¬ h'.tokens ≤ (τ.refill l now).bucket.tokens := by
      rw [htokens, not_le]
      exact (TokenBucket.refill_le l τ.bucket now).trans_lt hover
    unfold poll at hstep
    dsimp only at hstep
    rw [if_neg hshort] at hstep
    cases hstep
    exact ⟨⟨_, rfl, htask, htokens⟩, new, hnew, hnone⟩
  | tryAcquire tokens now =>
    simp only [step] at hstep
    split at hstep
    · cases hstep
    split at hstep
    · cases hstep
      exact ⟨⟨h', hτ, htask, htokens⟩, new, hnew, hnone⟩
    split at hstep
    · cases hstep
      exact ⟨⟨h', hτ, htask, htokens⟩, new, hnew, hnone⟩
    · cases hstep
      refine ⟨⟨h', hτ, htask, htokens⟩, new ++ [(none, ⟨tokens, now⟩)], ?_, ?_⟩
      · rw [← List.append_assoc, ← hnew]
        rfl
      · exact List.forall_mem_append.2 ⟨hnone, List.forall_mem_singleton.2 rfl⟩
  | cancel task now =>
    have hother : h'.task ≠ task := by
      rw [htask]
      exact fun he => hcancel now (by rw [he]; exact ha)
    simp only [step, hτ, Option.any_some, decide_eq_true_eq, if_neg hother] at hstep
    split at hstep
    · cases hstep
    · cases hstep
      exact ⟨⟨h', rfl, htask, htokens⟩, new, hnew, hnone⟩

end

/-- A limiter of half a token each second, with the default capacity. -/
def half : Limits ℚ := ⟨1 / 2, 1 / 2, one_half_pos, one_half_pos⟩

/-- A whole token is asked for, then less, and time passes. -/
def patience : List (Action ℚ Nat) := [.acquire 1 (1 / 4) 0, .resume 5, .resume 9]

/-- The request for a whole token keeps the lock. -/
theorem oversized_blocks_half :
    limits (1 / 2 : ℚ) none = some half ∧
      ∃ σ, ((start half 0 : RateLimiter ℚ Nat).poll half 0 1 0).run half patience = some σ ∧
        σ.holder.map (·.task) = some 0 ∧ σ.waiters.map Prod.fst = [1] := by
  refine ⟨by simp [limits, half], ?_⟩
  obtain ⟨σ, h, hwaiters⟩ := Option.map_eq_some_iff.1
    (by decide +kernel : (((start half 0 : RateLimiter ℚ Nat).poll half 0 1 0).run half
      patience).map (fun σ => σ.waiters.map Prod.fst) = some [1])
  obtain ⟨holder, hholder, htask⟩ := Option.map_eq_some_iff.1
    (by decide +kernel : (((start half 0 : RateLimiter ℚ Nat).poll half 0 1 0).holder).map
      (fun h => (h.task, h.tokens)) = some (0, 1))
  obtain ⟨htask, htokens⟩ := Prod.mk.inj htask
  obtain ⟨⟨h', hh', hsame, _⟩, _⟩ := oversized_blocks (l := half) hholder
    (by rw [htokens]; exact one_half_lt_one) (fun t ht => by simp [patience] at ht) h
  exact ⟨σ, h, by rw [hh', Option.map_some, hsame, htask], hwaiters⟩

/-! ## The order of the requests -/

section

variable {l : Limits K} {σ σ' : RateLimiter K Tid} {as : List (Action K Tid)}

/-- The requests a run makes, in order. -/
def requests : List (Action K Tid) → List (Tid × K)
  | [] => []
  | .acquire task tokens _ :: as =>
    if tokens ≤ 0 then requests as else (task, tokens) :: requests as
  | _ :: as => requests as

/-- The requests that were granted, in order. -/
def served (σ : RateLimiter K Tid) : List (Tid × K) :=
  σ.grants.filterMap fun g => g.1.map fun task => (task, g.2.amount)

/-- The requests in the lock and before it, in order. -/
def pending (σ : RateLimiter K Tid) : List (Tid × K) :=
  (σ.holder.map fun h => (h.task, h.tokens)).toList ++ σ.waiters

/-- Every request so far, cancelled ones apart: nobody waits for a lock that is free. -/
structure Accounts (all : List (Tid × K)) (σ : RateLimiter K Tid) : Prop where
  idle : σ.holder = none → σ.waiters = []
  split : σ.served ++ σ.pending = all

omit [Field K] [LinearOrder K] [DecidableEq Tid] in
/-- Whoever is next holds the lock. -/
theorem release_pending (σ : RateLimiter K Tid) (now : K) :
    ((σ.release now).holder = none → (σ.release now).waiters = []) ∧
      (σ.release now).pending = σ.waiters := by
  unfold release pending
  split
  · rename_i hnil
    exact ⟨fun _ => hnil, by simp [hnil]⟩
  · rename_i w ws hws
    exact ⟨fun h => by simp at h, by simp [hws]⟩

omit [DecidableEq Tid] in
/-- A poll grants the request or keeps it in the lock. -/
theorem poll_accounts {task : Tid} {tokens now : K} {all : List (Tid × K)}
    (h : σ.served ++ (task, tokens) :: σ.waiters = all) :
    Accounts all (σ.poll l task tokens now) := by
  unfold poll
  dsimp only
  split
  · obtain ⟨hidle, hpending⟩ :=
      release_pending ((σ.refill l now).grant (some task) tokens) now
    refine ⟨hidle, ?_⟩
    rw [hpending, ← h]
    simp [served, grant, refill]
  · exact ⟨fun hnone => by simp at hnone, h⟩

theorem step_accounts {a : Action K Tid} {all : List (Tid × K)}
    (hcancel : ∀ task now, a ≠ .cancel task now) (hσ : Accounts all σ)
    (h : σ.step l a = some σ') : Accounts (all ++ requests [a]) σ' := by
  obtain ⟨hidle, hsplit⟩ := hσ
  cases a with
  | acquire task tokens now =>
    simp only [step] at h
    split at h
    · cases h
    split at h
    · rename_i hpos
      cases h
      simpa [requests, hpos] using Accounts.mk hidle hsplit
    rename_i hpos
    split at h
    · rename_i hsome
      cases h
      obtain ⟨holder, hholder⟩ := Option.isSome_iff_exists.1 hsome
      refine ⟨fun hnone => by simp [hholder] at hnone, ?_⟩
      simp only [requests, if_neg hpos, ← hsplit, pending, hholder]
      simp [served]
    · rename_i hnone
      cases h
      rw [Bool.not_eq_true, Option.isSome_eq_false_iff, Option.isNone_iff_eq_none] at hnone
      refine poll_accounts ?_
      simp [requests, hpos, ← hsplit, pending, hnone, hidle hnone]
  | resume now =>
    simp only [step] at h
    split at h
    · cases h
    rename_i holder hholder
    split at h
    · cases h
    cases h
    refine poll_accounts ?_
    simp [requests, ← hsplit, pending, hholder]
  | tryAcquire tokens now =>
    simp only [step] at h
    have hrequests : all ++ requests [.tryAcquire tokens now] = all := List.append_nil _
    rw [hrequests]
    split at h
    · cases h
    split at h
    · cases h
      exact ⟨hidle, hsplit⟩
    split at h
    · cases h
      exact ⟨hidle, hsplit⟩
    · cases h
      refine ⟨hidle, ?_⟩
      rw [← hsplit]
      simp [served, pending, grant, refill]
  | cancel task now => exact absurd rfl (hcancel task now)

omit [DecidableEq Tid] in
theorem requests_cons (a : Action K Tid) (as : List (Action K Tid)) :
    requests (a :: as) = requests [a] ++ requests as := by
  cases a with
  | acquire task tokens now =>
    simp only [requests]
    split <;> rfl
  | _ => rfl

/-- In a run in which no task is cancelled, the requests that were granted and those that wait, the
one in the lock first, are all the requests in the order they came. -/
theorem served_in_order {time : K} (hcancel : ∀ task now, .cancel task now ∉ as)
    (h : (start l time : RateLimiter K Tid).run l as = some σ) :
    σ.served ++ σ.pending = requests as := by
  have hrun : ∀ (as : List (Action K Tid)) (τ : RateLimiter K Tid) (all : List (Tid × K)),
      (∀ task now, .cancel task now ∉ as) → Accounts all τ → τ.run l as = some σ →
      Accounts (all ++ requests as) σ := by
    intro as
    induction as with
    | nil =>
      intro τ all _ hτ hrun
      cases hrun
      rwa [requests, List.append_nil]
    | cons a as ih =>
      intro τ all hcancel hτ hrun
      obtain ⟨τ₁, hstep, hrest⟩ := run_cons hrun
      have hτ₁ := step_accounts (fun task now ha => hcancel task now (by
        rw [ha]
        exact List.mem_cons_self)) hτ hstep
      have hend :=
        ih τ₁ _ (fun task now ha => hcancel task now (List.mem_cons_of_mem _ ha)) hτ₁ hrest
      rwa [List.append_assoc, ← requests_cons] at hend
  exact (hrun as _ [] hcancel ⟨fun _ => rfl, rfl⟩ h).split

end

/-- Both requests are served, in order. -/
theorem served_in_order_twice :
    ∃ σ, (start one 0 : RateLimiter ℚ Nat).run one twice = some σ ∧
      σ.served ++ σ.pending = [(0, 1), (1, 1)] := by
  obtain ⟨σ, h⟩ := Option.isSome_iff_exists.1
    (by decide +kernel : ((start one 0 : RateLimiter ℚ Nat).run one twice).isSome = true)
  have hall := served_in_order (fun task now ht => by simp [twice] at ht) h
  have hrequests : requests twice = [(0, 1), (1, 1)] := by decide +kernel
  exact ⟨σ, h, hall.trans hrequests⟩

end RateLimiter
end Transports
end NetOps
