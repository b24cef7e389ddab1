import Mathlib.Data.Nat.Find
import Mathlib.Tactic.Common

/-!
# Retries

Bounded retries: one attempt after the other, each in the state that the last one left, until one
answers.

* `retry_eq`: what the first attempt to answer does is what the loop does; `retry_trace`: so it is
  when an attempt depends on the state that it starts in as well.
* `exists_first`: if the last attempt answers, then there is a first one to do so.
* `after_of_step`: what one attempt without an answer preserves holds after any number of them.
-/

namespace Retries

variable {σ ω : Type}

/-- Attempts `i`, `i + 1` and so on, at most `left` of them; the answer if there is none. -/
def retry (body : Nat → σ → Option ω × σ) (exhausted : ω) : Nat → Nat → σ → ω × σ
  | 0, _, s => (exhausted, s)
  | left + 1, i, s =>
    match (body i s).1 with
    | some o => (o, (body i s).2)
    | none => retry body exhausted left (i + 1) (body i s).2

/-- The state after the first `n` attempts. -/
def after (body : Nat → σ → Option ω × σ) (s : σ) : Nat → σ
  | 0 => s
  | n + 1 => (body n (after body s n)).2

/-- The attempts that are retried, and the first that is not. -/
structure First (Again : Nat → Prop) (n : Nat) : Prop where
  again : ∀ i < n, Again i
  stops : ¬ Again n

variable {body : Nat → σ → Option ω × σ} {exhausted : ω} {Again : Nat → Prop} {s : σ}
  {n m left i : Nat}

theorem First.unique (hn : First Again n) (hm : First Again m) : n = m := by
  rcases Nat.lt_trichotomy n m with h | h | h
  · exact absurd (hm.again n h) hn.stops
  · exact h
  · exact absurd (hn.again m h) hm.stops

theorem exists_first (h : ¬ Again n) : ∃ m, m ≤ n ∧ First Again m := by
  classical
  have hex : ∃ m, ¬ Again m := ⟨n, h⟩
  refine ⟨Nat.find hex, Nat.find_min' hex h, ?_, Nat.find_spec hex⟩
  intro i hi
  exact not_not.1 (Nat.find_min hex hi)

theorem retry_of_first (hbody : ∀ i s, (body i s).1 = none ↔ Again i) (hn : First Again n) {o : ω}
    (ho : (body n (after body s n)).1 = some o) (hi : i ≤ n) (hleft : n < i + left) :
    retry body exhausted left i (after body s i) = (o, after body s (n + 1)) := by
  induction left generalizing i with
  | zero => omega
  | succ left ih =>
    rcases Nat.eq_or_lt_of_le hi with rfl | hlt
    · rw [retry, ho]
      rfl
    · have hnone : (body i (after body s i)).1 = none := (hbody i _).2 (hn.again i hlt)
      rw [retry, hnone]
      exact ih (Nat.succ_le_of_lt hlt) (by omega)

/-- The loop does what the attempts do up to the first that answers, if it depends on the number of
an attempt alone whether it answers. -/
theorem retry_eq (hbody : ∀ i s, (body i s).1 = none ↔ Again i) (hn : First Again n)
    (hleft : n < left) :
    some (retry body exhausted left 0 s).1 = (body n (after body s n)).1 ∧
      (retry body exhausted left 0 s).2 = after body s (n + 1) := by
  obtain ⟨o, ho⟩ := Option.ne_none_iff_exists'.1 (mt (hbody n (after body s n)).1 hn.stops)
  have h : retry body exhausted left 0 (after body s 0) = (o, after body s (n + 1)) :=
    retry_of_first hbody hn ho (Nat.zero_le n) (by omega)
  rw [after] at h
  rw [h, ho]
  exact ⟨rfl, rfl⟩

/-- The loop does what the attempts do up to the first that answers in the state it is left. -/
theorem retry_trace (hnone : ∀ i < n, (body i (after body s i)).1 = none) {o : ω}
    (ho : (body n (after body s n)).1 = some o) (hleft : n < left) :
    retry body exhausted left 0 s = (o, after body s (n + 1)) := by
  have hfrom : ∀ k i, i ≤ n → n < i + k →
      retry body exhausted k i (after body s i) = (o, after body s (n + 1)) := by
    intro k
    induction k with
    | zero => intro i hi hlt; omega
    | succ k ih =>
      intro i hi hlt
      rcases Nat.eq_or_lt_of_le hi with rfl | hbefore
      · rw [retry, ho]
        rfl
      · rw [retry, hnone i hbefore]
        exact ih (i + 1) hbefore (by omega)
  exact hfrom left 0 (Nat.zero_le n) (by omega)

theorem after_of_step {P : Nat → σ → Prop} (hstep : ∀ i s, Again i → P i s → P (i + 1) (body i s).2)
    (h0 : P 0 s) (hn : ∀ i < n, Again i) : P n (after body s n) := by
  induction n with
  | zero => exact h0
  | succ n ih =>
    have hbefore := ih fun i hi => hn i (Nat.lt_succ_of_lt hi)
    exact hstep n _ (hn n (Nat.lt_succ_self n)) hbefore

end Retries
