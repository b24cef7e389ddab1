import NetOps.Discovery.Signals

/-!
# Discovery.Classified

How a chain of failed attempts is classified (`discovery/result_states.py`). Each attempt raises
flags by its failure code, and the state is read off the flags of all attempts.

* `stateOf_failed`: the flags of a chain are those of some attempt.
* `stateOf_perm`: the order of the attempts does not matter.
* `observation_kept_iff`: a host that answered is never classified as unreachable or unverified,
  unless a transport of the same chain was unavailable and none failed to authenticate.
-/

namespace NetOps
namespace Discovery
namespace MultiTransportDiscoveryOrchestrator

open Conc

/-- The classification of a chain of attempts. -/
def stateOf (attempts : List TransportAttemptResult) : DiscoveryResultState :=
  ((attempts.foldl Progress.add {}).result 0).resultState

theorem foldl_attempts (attempts : List TransportAttemptResult) (p : Progress) :
    (attempts.foldl Progress.add p).attempts = attempts.reverse ++ p.attempts := by
  induction attempts generalizing p with
  | nil => rfl
  | cons r attempts ih =>
    have hadd : (p.add r).attempts = r :: p.attempts := by
      unfold Progress.add
      split <;> rfl
    rw [List.foldl_cons, ih, hadd]
    simp

/-- The result of a chain is classified by the attempts it lists. -/
theorem discoverWithFallback_state {G : Type} {h : (c : Statement) → G → lang.Resp c × G}
    {redact : String → String} {configs : List TransportAttemptConfig}
    {deviceResult : DiscoveryDeviceResultRecord} {g g' : G}
    {result : MultiTransportDiscoveryResult}
    (heval : Raises.eval h (discoverWithFallback redact configs deviceResult) g =
      (.ok result, g')) : result.resultState = stateOf result.attempts := by
  obtain ⟨g₁, hall⟩ := attemptAll_eval (h := h) redact deviceResult configs 1 {} g
  have hresults : ∀ trace : List AttemptTrace, trace.foldl (fun p t => p.add t.result) {} =
      (trace.map (·.result)).foldl Progress.add {} := fun _ => List.foldl_map.symm
  rw [hresults] at hall
  unfold discoverWithFallback at heval
  rw [Raises.eval_bind_ok hall] at heval
  cases hnow : Raises.eval h utcNow g₁ with
  | mk r g₂ =>
    cases r with
    | error e =>
      rw [Raises.eval_bind_error hnow] at heval
      cases heval
    | ok now =>
      rw [Raises.eval_bind_ok hnow] at heval
      cases heval
      simp only [stateOf, Progress.result, foldl_attempts, List.append_nil, List.reverse_reverse]

/-! ## Failed attempts -/

/-- Some attempt of the chain raises the flag. -/
def raised (flag : FailureIndicators → Bool) (attempts : List TransportAttemptResult) : Bool :=
  attempts.any fun r => flag (classifyTransportFailure r.failureCode)

theorem raised_iff {flag : FailureIndicators → Bool} {attempts : List TransportAttemptResult} :
    raised flag attempts = true ↔
      ∃ r ∈ attempts, flag (classifyTransportFailure r.failureCode) = true :=
  List.any_eq_true

theorem raised_perm {flag : FailureIndicators → Bool}
    {attempts others : List TransportAttemptResult}
    (h : attempts.Perm others) : raised flag attempts = raised flag others :=
  h.any_eq

theorem foldl_flags (attempts : List TransportAttemptResult) (p : Progress)
    (hfailed : ∀ r ∈ attempts, r.success = false) :
    (attempts.foldl Progress.add p) =
      { attempts := attempts.reverse ++ p.attempts
        hostIsReachable := p.hostIsReachable || raised (·.isReachable) attempts
        anyAuthFailed := p.anyAuthFailed || raised (·.authFailed) attempts
        anyServiceAvailable := p.anyServiceAvailable || raised (·.serviceAvailable) attempts
        anyTransportUnavailable :=
          p.anyTransportUnavailable || raised (·.transportUnavailable) attempts } := by
  induction attempts generalizing p with
  | nil => simp [raised]
  | cons r attempts ih =>
    rw [List.forall_mem_cons] at hfailed
    rw [List.foldl_cons, ih (p.add r) hfailed.2]
    simp [Progress.add, hfailed.1, raised, Bool.or_assoc]

/-- The classification of a chain without success. -/
theorem stateOf_failed {attempts : List TransportAttemptResult}
    (hfailed : ∀ r ∈ attempts, r.success = false) :
    stateOf attempts =
      if raised (·.authFailed) attempts then .authenticationFailed
      else if raised (·.transportUnavailable) attempts then .unverified
      else if raised (·.isReachable) attempts then .reachableNoManagement
      else .unreachable := by
  have hnone : (attempts.foldl Progress.add {}).success = none := by
    rw [Progress.success, foldl_attempts, List.append_nil, Option.filter_eq_none_iff]
    intro r hr
    rw [hfailed r (List.mem_reverse.1 (List.mem_of_head? hr))]
    exact Bool.false_ne_true
  have hflags := foldl_flags attempts {} hfailed
  unfold stateOf Progress.result
  rw [hnone, hflags]
  cases hauth : raised (·.authFailed) attempts <;>
    cases hunavailable : raised (·.transportUnavailable) attempts <;>
    cases hreachable : raised (·.isReachable) attempts <;>
    simp [DiscoveryResultState.fromFailureAndSuccess]

theorem stateOf_perm {attempts others : List TransportAttemptResult}
    (hfailed : ∀ r ∈ attempts, r.success = false) (hperm : others.Perm attempts) :
    stateOf others = stateOf attempts := by
  have hothers : ∀ r ∈ others, r.success = false := by
    intro r hr
    exact hfailed r (hperm.mem_iff.1 hr)
  rw [stateOf_failed hfailed, stateOf_failed hothers]
  simp only [raised_perm hperm]

/-! ## Observed reachability -/

/-- Some attempt's code is evidence that the host answered. -/
def Answered (attempts : List TransportAttemptResult) : Prop :=
  ∃ r ∈ attempts, (classifyTransportFailure r.failureCode).isReachable = true

/-- The classification does not depend on the order of the attempts, nor does it deny that the
host answered. -/
structure Observed (attempts : List TransportAttemptResult) : Prop where
  perm : ∀ others, others.Perm attempts → stateOf others = stateOf attempts
  answered : Answered attempts → stateOf attempts ≠ .unreachable ∧ stateOf attempts ≠ .unverified

theorem transportUnavailable_iff (code : Option DiscoveryFailureCode) :
    (classifyTransportFailure code).transportUnavailable = true ↔
      code = some .transportUnavailable := by
  cases code with
  | none => simp [classifyTransportFailure]
  | some code => cases code <;> simp [classifyTransportFailure]

theorem authFailed_iff (code : Option DiscoveryFailureCode) :
    (classifyTransportFailure code).authFailed = true ↔ code = some .authenticationFailed := by
  cases code with
  | none => simp [classifyTransportFailure]
  | some code => cases code <;> simp [classifyTransportFailure]

/-- The classification of failed attempts respects what was observed exactly when no transport was
unavailable, some attempt failed to authenticate, or nothing says that the host answered. -/
theorem observation_kept_iff {attempts : List TransportAttemptResult}
    (hfailed : ∀ r ∈ attempts, r.success = false) :
    Observed attempts ↔
      (∀ r ∈ attempts, r.failureCode ≠ some .transportUnavailable) ∨
        (∃ r ∈ attempts, r.failureCode = some .authenticationFailed) ∨ ¬ Answered attempts := by
  have hstate := stateOf_failed hfailed
  have hauth : raised (·.authFailed) attempts = true ↔
      ∃ r ∈ attempts, r.failureCode = some .authenticationFailed := by
    simp only [raised_iff, authFailed_iff]
  have hunavailable : raised (·.transportUnavailable) attempts = true ↔
      ∃ r ∈ attempts, r.failureCode = some .transportUnavailable := by
    simp only [raised_iff, transportUnavailable_iff]
  have hanswered : raised (·.isReachable) attempts = true ↔ Answered attempts := raised_iff
  constructor
  · intro h
    by_contra hnot
    push Not at hnot
    obtain ⟨hsome, hnone, hanswer⟩ := hnot
    have hunverified : stateOf attempts = .unverified := by
      rw [hstate, if_neg, if_pos (hunavailable.2 hsome)]
      rw [hauth]
      push Not
      exact hnone
    exact (h.answered hanswer).2 hunverified
  · intro h
    refine ⟨fun others hperm => stateOf_perm hfailed hperm, ?_⟩
    intro hanswer
    rw [hstate]
    rcases h with hnone | hsome | hnot
    · have hfalse : ¬ raised (·.transportUnavailable) attempts = true := by
        rw [hunavailable]
        push Not
        exact hnone
      rw [if_neg hfalse, if_pos (hanswered.2 hanswer)]
      split <;> simp
    · rw [if_pos (hauth.2 hsome)]
      simp
    · exact absurd hanswer hnot

/-- An attempt of a transport that failed with the code. -/
def failedWith (transportName : String) (code : DiscoveryFailureCode) : TransportAttemptResult where
  transportName := transportName
  attemptOrder := 1
  failureCode := some code

/-- SSH was refused, Telnet was not available, and HTTPS failed to authenticate. -/
def mixedAttempts : List TransportAttemptResult :=
  [failedWith "ssh" .connectionRefused, failedWith "telnet" .transportUnavailable,
    failedWith "https" .authenticationFailed]

theorem refused_observed :
    (∀ r ∈ mixedAttempts, r.success = false) ∧ Observed mixedAttempts ∧
      Answered mixedAttempts ∧ stateOf mixedAttempts = .authenticationFailed := by
  have hfailed : ∀ r ∈ mixedAttempts, r.success = false := by decide
  have hauth : ∃ r ∈ mixedAttempts, r.failureCode = some .authenticationFailed :=
    ⟨failedWith "https" .authenticationFailed, by simp [mixedAttempts], rfl⟩
  have hanswered : Answered mixedAttempts :=
    ⟨failedWith "ssh" .connectionRefused, List.mem_cons_self, rfl⟩
  exact ⟨hfailed, (observation_kept_iff hfailed).2 (.inr (.inl hauth)), hanswered, by decide⟩

/-- SSH was refused, so the host answered; Telnet was not available, so it is unverified. -/
theorem refused_is_unverified :
    ¬ Observed
      [failedWith "ssh" .connectionRefused, failedWith "telnet" .transportUnavailable] := by
  intro h
  have hanswered : Answered
      [failedWith "ssh" .connectionRefused, failedWith "telnet" .transportUnavailable] :=
    ⟨failedWith "ssh" .connectionRefused, List.mem_cons_self, rfl⟩
  exact (h.answered hanswered).2 (by decide)

end MultiTransportDiscoveryOrchestrator
end Discovery
end NetOps
