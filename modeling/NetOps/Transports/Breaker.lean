import NetOps.Moments
import NetOps.Transports.Manager

/-!
# Transports.Breaker

The circuit breaker (`transports/circuit_breaker.py`) over any sequence of requests and results.
A result may be late: nothing ties it to the request that was allowed last.

* `opening_waits`: after an opening no request is allowed before the timeout has passed.
* `closing_earned`: the breaker closes after enough successes in a row while half open.
* `disciplined_iff`: a failure recorded while half open reopens the breaker exactly when it is at
  least the `failure_threshold`-th failure in a row, for the counter that decides is also reset by
  every success.
-/

namespace NetOps
namespace Transports

open Discovery (DateTime)
open Moments (Always)

/-- What a breaker is asked and told. -/
inductive BreakerEvent where
  | allowRequest (now : DateTime)
  | recordSuccess
  | recordFailure (now : DateTime)
  deriving DecidableEq

namespace BreakerEvent

/-- What an event reads off the clock. -/
def time : BreakerEvent → Option DateTime
  | .allowRequest now => some now
  | .recordSuccess => none
  | .recordFailure now => some now

end BreakerEvent

namespace CircuitBreaker

def allows (b : CircuitBreaker) : BreakerEvent → Bool
  | .allowRequest now => (b.allowRequest now).1
  | _ => false

def after (b : CircuitBreaker) : BreakerEvent → CircuitBreaker
  | .allowRequest now => (b.allowRequest now).2
  | .recordSuccess => b.recordSuccess
  | .recordFailure now => b.recordFailure now

end CircuitBreaker

structure BreakerSettings where
  failureThreshold : Nat := 5
  recoveryTimeoutSeconds : DateTime := 30000000
  halfOpenSuccessThreshold : Nat := 1
  failureThreshold_pos : 0 < failureThreshold := by decide
  halfOpenSuccessThreshold_pos : 0 < halfOpenSuccessThreshold := by decide

namespace BreakerSettings

variable (c : BreakerSettings) {past : List BreakerEvent} {e : BreakerEvent}

def fresh : CircuitBreaker :=
  { failureThreshold := c.failureThreshold
    recoveryTimeoutSeconds := c.recoveryTimeoutSeconds
    halfOpenSuccessThreshold := c.halfOpenSuccessThreshold }

/-- The breaker after a sequence of events. -/
def breaker (past : List BreakerEvent) : CircuitBreaker := past.foldl CircuitBreaker.after c.fresh

@[simp] theorem breaker_nil : c.breaker [] = c.fresh := rfl

@[simp] theorem breaker_snoc : c.breaker (past ++ [e]) = (c.breaker past).after e :=
  List.foldl_concat ..

/-! ## The discipline -/

/-- A failure recorded while half open reopens the breaker. -/
def Reopens (past : List BreakerEvent) (e : BreakerEvent) : Prop :=
  ∀ now, e = .recordFailure now → (c.breaker past).state = .halfOpen →
    (c.breaker (past ++ [e])).state = .opened

/-- A failure recorded at the time opens the breaker. -/
def Opens (past : List BreakerEvent) (t : DateTime) : Prop :=
  (c.breaker (past ++ [.recordFailure t])).state = .opened ∧
    (c.breaker (past ++ [.recordFailure t])).openedAt = some t

/-- The last opening of a sequence, and what has happened since. -/
structure LastOpening (past before : List BreakerEvent) (t : DateTime)
    (since : List BreakerEvent) : Prop where
  split : past = before ++ .recordFailure t :: since
  opens : c.Opens before t
  last : Always (fun mid x => ∀ u, x = .recordFailure u →
    ¬ c.Opens (before ++ .recordFailure t :: mid) u) since

/-- Some request of these found that the timeout had passed since the time. -/
def Passed (t : DateTime) (since : List BreakerEvent) : Prop :=
  ∃ r, .allowRequest r ∈ since ∧ c.recoveryTimeoutSeconds ≤ r - t

/-- No request is allowed after an opening before the timeout has passed; on a clock that never
goes back it has then passed at the request itself. -/
def Waits (past : List BreakerEvent) (e : BreakerEvent) : Prop :=
  ∀ now before t since, e = .allowRequest now → (c.breaker past).allows e →
    c.LastOpening past before t since →
      c.Passed t (since ++ [e]) ∧
        (((past ++ [e]).filterMap BreakerEvent.time).Pairwise (· ≤ ·) →
          c.recoveryTimeoutSeconds ≤ now - t)

/-- A stretch of events with so many successes and no failure, all while the breaker is half
open. -/
structure Trial (successes : Nat) (before stretch : List BreakerEvent) : Prop where
  count : stretch.count .recordSuccess = successes
  noFailure : ∀ now, .recordFailure now ∉ stretch
  halfOpen : Always (fun mid _ => (c.breaker (before ++ mid)).state = .halfOpen) stretch

/-- The breaker closes only at the end of a trial with successes enough. -/
def Closes (past : List BreakerEvent) (e : BreakerEvent) : Prop :=
  (c.breaker past).state ≠ .closed → (c.breaker (past ++ [e])).state = .closed →
    ∃ before stretch, past ++ [e] = before ++ stretch ∧
      c.Trial c.halfOpenSuccessThreshold before stretch

structure Disciplined (past : List BreakerEvent) (e : BreakerEvent) : Prop where
  reopens : c.Reopens past e
  waits : c.Waits past e
  closes : c.Closes past e

/-- The failures at the end of the sequence, with no success between them. -/
def failuresInARow (past : List BreakerEvent) : Nat :=
  past.foldl (fun n e => match e with
    | .allowRequest _ => n
    | .recordSuccess => 0
    | .recordFailure _ => n + 1) 0

@[simp] theorem failuresInARow_allowRequest {now : DateTime} :
    failuresInARow (past ++ [.allowRequest now]) = failuresInARow past := by
  simp [failuresInARow]

@[simp] theorem failuresInARow_recordSuccess : failuresInARow (past ++ [.recordSuccess]) = 0 := by
  simp [failuresInARow]

@[simp] theorem failuresInARow_recordFailure {now : DateTime} :
    failuresInARow (past ++ [.recordFailure now]) = failuresInARow past + 1 := by
  simp [failuresInARow]

/-- A failure recorded while half open is at least the `failure_threshold`-th in a row. -/
def FailedInARow (past : List BreakerEvent) (e : BreakerEvent) : Prop :=
  ∀ now, e = .recordFailure now → (c.breaker past).state = .halfOpen →
    c.failureThreshold ≤ failuresInARow (past ++ [e])

/-! ## What an event does -/

section Events

theorem allowRequest_cases (b : CircuitBreaker) (now : DateTime) :
    b.after (.allowRequest now) = b ∧
        (b.allows (.allowRequest now) ↔ b.state ≠ .opened) ∨
      b.state = .opened ∧ (∃ t, b.openedAt = some t ∧ b.recoveryTimeoutSeconds ≤ now - t) ∧
        b.after (.allowRequest now) = { b with state := .halfOpen, halfOpenSuccessCount := 0 } := by
  simp only [CircuitBreaker.after, CircuitBreaker.allows, CircuitBreaker.allowRequest]
  cases hstate : b.state with
  | closed => simp
  | halfOpen => simp
  | opened =>
    cases hopened : b.openedAt with
    | none => simp
    | some t =>
      by_cases hpassed : b.recoveryTimeoutSeconds ≤ now - t
      · simp [hpassed]
      · simp [hpassed]

theorem recordSuccess_cases (b : CircuitBreaker) :
    b.state ≠ .halfOpen ∧ b.after .recordSuccess = { b with failureCount := 0 } ∨
    b.state = .halfOpen ∧ b.halfOpenSuccessThreshold ≤ b.halfOpenSuccessCount + 1 ∧
      b.after .recordSuccess =
        { b with failureCount := 0, state := .closed, halfOpenSuccessCount := 0 } ∨
    b.state = .halfOpen ∧ b.halfOpenSuccessCount + 1 < b.halfOpenSuccessThreshold ∧
      b.after .recordSuccess =
        { b with failureCount := 0, halfOpenSuccessCount := b.halfOpenSuccessCount + 1 } := by
  simp only [CircuitBreaker.after, CircuitBreaker.recordSuccess]
  by_cases hstate : b.state = .halfOpen
  · by_cases hcount : b.halfOpenSuccessThreshold ≤ b.halfOpenSuccessCount + 1
    · simp [hstate, hcount]
    · simp only [hstate, hcount, if_true, if_false]
      right; right
      exact ⟨trivial, by omega, trivial⟩
  · simp [hstate]

theorem recordFailure_cases (b : CircuitBreaker) (now : DateTime) :
    b.failureThreshold ≤ b.failureCount + 1 ∧ b.after (.recordFailure now) =
        { b with
          failureCount := b.failureCount + 1, halfOpenSuccessCount := 0,
          state := .opened, openedAt := some now } ∨
      b.failureCount + 1 < b.failureThreshold ∧ b.after (.recordFailure now) =
        { b with failureCount := b.failureCount + 1, halfOpenSuccessCount := 0 } := by
  simp only [CircuitBreaker.after, CircuitBreaker.recordFailure]
  by_cases hcount : b.failureThreshold ≤ b.failureCount + 1
  · simp [hcount]
  · simp only [hcount, if_false]
    right
    exact ⟨by omega, trivial⟩

theorem after_settings (b : CircuitBreaker) :
    (b.after e).failureThreshold = b.failureThreshold ∧
      (b.after e).recoveryTimeoutSeconds = b.recoveryTimeoutSeconds ∧
      (b.after e).halfOpenSuccessThreshold = b.halfOpenSuccessThreshold := by
  cases e with
  | allowRequest now =>
    rcases allowRequest_cases b now with ⟨h, -⟩ | ⟨-, -, h⟩ <;> simp [h]
  | recordSuccess =>
    rcases recordSuccess_cases b with ⟨-, h⟩ | ⟨-, -, h⟩ | ⟨-, -, h⟩ <;> simp [h]
  | recordFailure now =>
    rcases recordFailure_cases b now with ⟨-, h⟩ | ⟨-, h⟩ <;> simp [h]

end Events

theorem breaker_settings :
    (c.breaker past).failureThreshold = c.failureThreshold ∧
      (c.breaker past).recoveryTimeoutSeconds = c.recoveryTimeoutSeconds ∧
      (c.breaker past).halfOpenSuccessThreshold = c.halfOpenSuccessThreshold := by
  induction past using List.reverseRecOn with
  | nil => exact ⟨rfl, rfl, rfl⟩
  | append_singleton past e ih =>
    rw [breaker_snoc, (after_settings _).1, (after_settings _).2.1, (after_settings _).2.2]
    exact ih

theorem breaker_failureCount : (c.breaker past).failureCount = failuresInARow past := by
  induction past using List.reverseRecOn with
  | nil => rfl
  | append_singleton past e ih =>
    rw [breaker_snoc]
    cases e with
    | allowRequest now =>
      rcases allowRequest_cases (c.breaker past) now with ⟨h, -⟩ | ⟨-, -, h⟩ <;>
        simp [h, ih]
    | recordSuccess =>
      rcases recordSuccess_cases (c.breaker past) with ⟨-, h⟩ | ⟨-, -, h⟩ | ⟨-, -, h⟩ <;>
        simp [h]
    | recordFailure now =>
      rcases recordFailure_cases (c.breaker past) now with ⟨-, h⟩ | ⟨-, h⟩ <;>
        simp [h, ih]

/-! ## Reopening -/

/-- A failure reopens a half open breaker exactly when it is the last of enough in a row. -/
theorem reopens_iff : c.Reopens past e ↔ c.FailedInARow past e := by
  have hthreshold : (c.breaker past).failureThreshold = c.failureThreshold := c.breaker_settings.1
  have hcount : (c.breaker past).failureCount = failuresInARow past := c.breaker_failureCount
  constructor
  · intro h now he hstate
    have hopened := h now he hstate
    subst he
    rw [breaker_snoc] at hopened
    rw [failuresInARow_recordFailure]
    rcases recordFailure_cases (c.breaker past) now with ⟨henough, -⟩ | ⟨-, hafter⟩
    · omega
    · rw [hafter, hstate] at hopened
      cases hopened
  · intro h now he hstate
    have henough := h now he hstate
    subst he
    rw [failuresInARow_recordFailure] at henough
    rw [breaker_snoc]
    rcases recordFailure_cases (c.breaker past) now with ⟨-, hafter⟩ | ⟨hfew, -⟩
    · rw [hafter]
    · omega

/-! ## Waiting -/

variable {before since : List BreakerEvent} {now t : DateTime}

/-- The last opening of a sequence that goes on: the last of the sequence, or the event itself. -/
theorem LastOpening.snoc (h : c.LastOpening (past ++ [e]) before t since) :
    (before = past ∧ e = .recordFailure t ∧ since = []) ∨
      ∃ since', since = since' ++ [e] ∧ c.LastOpening past before t since' ∧
        ∀ u, e = .recordFailure u → ¬ c.Opens past u := by
  obtain ⟨hsplit, hopens, hlast⟩ := h
  induction since using List.reverseRecOn with
  | nil =>
    obtain ⟨hpast, he⟩ := List.append_inj' hsplit rfl
    cases he
    exact .inl ⟨hpast.symm, rfl, rfl⟩
  | append_singleton since' x =>
    rw [← List.cons_append, ← List.append_assoc] at hsplit
    obtain ⟨hpast, he⟩ := List.append_inj' hsplit rfl
    cases he
    rw [Moments.always_snoc] at hlast
    refine .inr ⟨since', rfl, ⟨hpast, hopens, hlast.1⟩, ?_⟩
    rw [hpast]
    exact hlast.2

theorem Passed.snoc (h : c.Passed t since) : c.Passed t (since ++ [e]) := by
  obtain ⟨r, hr, hpassed⟩ := h
  exact ⟨r, List.mem_append_left _ hr, hpassed⟩

/-- Since its last opening the breaker is open, or the timeout has passed. -/
theorem since_opening (h : c.LastOpening past before t since) :
    (c.breaker past).openedAt = some t ∧
      ((c.breaker past).state = .opened ∨ c.Passed t since) := by
  induction past using List.reverseRecOn generalizing since with
  | nil =>
    have hsplit := h.split
    simp at hsplit
  | append_singleton past e ih =>
    rcases h.snoc with ⟨rfl, rfl, rfl⟩ | ⟨since', rfl, h', hnot⟩
    · exact ⟨h.opens.2, .inl h.opens.1⟩
    obtain ⟨hat, hstate⟩ := ih h'
    rw [breaker_snoc]
    cases e with
    | allowRequest now =>
      rcases allowRequest_cases (c.breaker past) now with
        ⟨hafter, -⟩ | ⟨-, ⟨u, hu, hpassed⟩, hafter⟩
      · rw [hafter]
        exact ⟨hat, hstate.imp_right (·.snoc)⟩
      · rw [hat] at hu
        cases hu
        rw [c.breaker_settings.2.1] at hpassed
        rw [hafter]
        exact ⟨hat, .inr ⟨now, by simp, hpassed⟩⟩
    | recordSuccess =>
      rcases recordSuccess_cases (c.breaker past) with
        ⟨-, hafter⟩ | ⟨hhalf, -, hafter⟩ | ⟨hhalf, -, hafter⟩
      · rw [hafter]
        exact ⟨hat, hstate.imp_right (·.snoc)⟩
      · rw [hafter]
        simp only [hhalf, reduceCtorEq, false_or] at hstate
        exact ⟨hat, .inr hstate.snoc⟩
      · rw [hafter]
        simp only [hhalf, reduceCtorEq, false_or] at hstate
        exact ⟨hat, .inr hstate.snoc⟩
    | recordFailure u =>
      rcases recordFailure_cases (c.breaker past) u with
        ⟨-, hafter⟩ | ⟨-, hafter⟩
      · refine absurd ?_ (hnot u rfl)
        rw [Opens, breaker_snoc, hafter]
        exact ⟨rfl, rfl⟩
      · rw [hafter]
        exact ⟨hat, hstate.imp_right (·.snoc)⟩

/-- No request is allowed after an opening before the timeout has passed. -/
theorem opening_waits : c.Waits past e := by
  intro now before t since he hallowed hlast
  subst he
  obtain ⟨hat, hstate⟩ := c.since_opening hlast
  have hpassed : c.Passed t (since ++ [.allowRequest now]) := by
    rcases allowRequest_cases (c.breaker past) now with
      ⟨-, hallows⟩ | ⟨-, ⟨u, hu, hpassed⟩, -⟩
    · exact (hstate.resolve_left (hallows.1 hallowed)).snoc
    · rw [hat] at hu
      cases hu
      rw [c.breaker_settings.2.1] at hpassed
      exact ⟨now, by simp, hpassed⟩
  refine ⟨hpassed, ?_⟩
  intro hforward
  obtain ⟨r, hr, hr_passed⟩ := hpassed
  have hle : r ≤ now := by
    rw [List.filterMap_append, List.pairwise_append] at hforward
    rcases List.mem_append.1 hr with hr | hr
    · refine hforward.2.2 r ?_ now (by simp [BreakerEvent.time])
      rw [hlast.split]
      exact List.mem_filterMap.2 ⟨.allowRequest r, by simp [hr], rfl⟩
    · cases List.mem_singleton.1 hr
      exact Int.le_refl _
  have hr_le : r - t ≤ now - t := Int.sub_le_sub_right hle t
  exact Int.le_trans hr_passed hr_le

/-! ## Closing -/

variable {n : Nat} {stretch : List BreakerEvent}

theorem Trial.snoc (h : c.Trial n before stretch)
    (hstate : (c.breaker (before ++ stretch)).state = .halfOpen) (he : ∀ u, e ≠ .recordFailure u) :
    c.Trial (n + [e].count .recordSuccess) before (stretch ++ [e]) := by
  obtain ⟨hcount, hfailure, hhalf⟩ := h
  refine ⟨by rw [List.count_append, hcount], ?_, Moments.always_snoc.2 ⟨hhalf, hstate⟩⟩
  intro u hu
  rcases List.mem_append.1 hu with hu | hu
  · exact hfailure u hu
  · exact he u (List.mem_singleton.1 hu).symm

theorem Trial.nil : c.Trial 0 before [] :=
  ⟨rfl, fun _ => List.not_mem_nil, Moments.always_nil⟩

/-- A half open breaker counts the successes of the trial it is in. -/
theorem in_trial (h : (c.breaker past).state = .halfOpen) :
    (c.breaker past).halfOpenSuccessCount < c.halfOpenSuccessThreshold ∧
      ∃ before stretch, past = before ++ stretch ∧
        c.Trial (c.breaker past).halfOpenSuccessCount before stretch := by
  have hpos := c.halfOpenSuccessThreshold_pos
  induction past using List.reverseRecOn with
  | nil => cases h
  | append_singleton past e ih =>
    have hfresh : ∃ before stretch, past ++ [e] = before ++ stretch ∧ c.Trial 0 before stretch :=
      ⟨past ++ [e], [], by simp, .nil c⟩
    have hthreshold : (c.breaker past).halfOpenSuccessThreshold = c.halfOpenSuccessThreshold :=
      c.breaker_settings.2.2
    rw [breaker_snoc] at h ⊢
    cases e with
    | allowRequest now =>
      rcases allowRequest_cases (c.breaker past) now with
        ⟨hafter, -⟩ | ⟨-, -, hafter⟩
      · rw [hafter] at h ⊢
        obtain ⟨hfew, before, stretch, hsplit, htrial⟩ := ih h
        rw [hsplit] at h
        have hnext := htrial.snoc c (e := .allowRequest now) h (by simp)
        exact ⟨hfew, before, stretch ++ [.allowRequest now], by simp [hsplit], by simpa using hnext⟩
      · rw [hafter]
        exact ⟨hpos, hfresh⟩
    | recordSuccess =>
      rcases recordSuccess_cases (c.breaker past) with
        ⟨hnot, hafter⟩ | ⟨-, -, hafter⟩ | ⟨hhalf, hfew, hafter⟩
      · rw [hafter] at h
        exact absurd h hnot
      · rw [hafter] at h
        cases h
      · rw [hafter]
        obtain ⟨-, before, stretch, hsplit, htrial⟩ := ih hhalf
        rw [hsplit] at hhalf
        have hnext := htrial.snoc c (e := .recordSuccess) hhalf (by simp)
        rw [hthreshold] at hfew
        refine ⟨hfew, before, stretch ++ [.recordSuccess], by simp [hsplit], ?_⟩
        simpa using hnext
    | recordFailure now =>
      rcases recordFailure_cases (c.breaker past) now with
        ⟨-, hafter⟩ | ⟨-, hafter⟩
      · rw [hafter] at h
        cases h
      · rw [hafter]
        exact ⟨hpos, hfresh⟩

/-- The breaker closes only at the end of a trial with successes enough. -/
theorem closing_earned : c.Closes past e := by
  intro hopen hclosed
  rw [breaker_snoc] at hclosed
  cases e with
  | allowRequest now =>
    rcases allowRequest_cases (c.breaker past) now with
      ⟨hafter, -⟩ | ⟨-, -, hafter⟩
    · rw [hafter] at hclosed
      exact absurd hclosed hopen
    · rw [hafter] at hclosed
      cases hclosed
  | recordSuccess =>
    rcases recordSuccess_cases (c.breaker past) with
      ⟨-, hafter⟩ | ⟨hhalf, henough, -⟩ | ⟨hhalf, -, hafter⟩
    · rw [hafter] at hclosed
      exact absurd hclosed hopen
    · obtain ⟨hfew, before, stretch, hsplit, htrial⟩ := c.in_trial hhalf
      rw [c.breaker_settings.2.2] at henough
      rw [hsplit] at hhalf
      have hlast := htrial.snoc c (e := .recordSuccess) hhalf (by simp)
      have hcount : (c.breaker past).halfOpenSuccessCount + 1 = c.halfOpenSuccessThreshold := by
        omega
      refine ⟨before, stretch ++ [.recordSuccess], by simp [hsplit], ?_⟩
      rw [← hcount]
      simpa using hlast
    · rw [hafter, hhalf] at hclosed
      cases hclosed
  | recordFailure now =>
    rcases recordFailure_cases (c.breaker past) now with
      ⟨-, hafter⟩ | ⟨-, hafter⟩
    · rw [hafter] at hclosed
      cases hclosed
    · rw [hafter] at hclosed
      exact absurd hclosed hopen

/-! ## The discipline over a sequence -/

/-- Over any sequence the breaker keeps the discipline exactly when every failure recorded while
it is half open is at least the `failure_threshold`-th in a row. -/
theorem disciplined_iff (events : List BreakerEvent) :
    Always c.Disciplined events ↔ Always c.FailedInARow events := by
  refine Moments.always_congr fun past e => ?_
  constructor
  · intro h
    exact c.reopens_iff.1 h.reopens
  · intro h
    exact ⟨c.reopens_iff.2 h, c.opening_waits, c.closing_earned⟩

/-- Five failures open a breaker of the default settings and a late success resets its counter: the
trial that fails after the timeout leaves it half open. -/
theorem failed_trial_not_reopened :
    ¬ Always (BreakerSettings.Disciplined {})
      ((List.replicate 5 (.recordFailure 0) ++ [.recordSuccess, .allowRequest 30000000]) ++
        [.recordFailure 30000001]) := by
  intro h
  have hreopens := (h _ _ [] rfl).reopens
  have hopened := hreopens 30000001 rfl (by decide)
  exact absurd hopened (by decide)

end BreakerSettings
end Transports
end NetOps
