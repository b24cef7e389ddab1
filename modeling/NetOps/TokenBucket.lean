import Mathlib.Algebra.Order.BigOperators.Group.List
import Mathlib.Algebra.Order.Field.Basic
import Mathlib.Data.List.Infix
import Mathlib.Tactic.Linarith
import Mathlib.Tactic.Ring

/-!
# TokenBucket

A bucket that fills at a constant rate up to a capacity, and a log of what was taken from it, in
exact arithmetic.

* `refill_refill`: filling in two steps is filling in one.
* `Metered`: the invariant of a bucket and its log; `Metered.refill` and `Metered.take` keep it.
* `Metered.window`: in a window of consecutive withdrawals at most the capacity and what flows in
  during the window was taken.
-/

/-- How fast a bucket fills, and how much it holds. -/
structure Limits (K : Type) [Zero K] [LT K] where
  rate : K
  capacity : K
  rate_pos : 0 < rate
  capacity_pos : 0 < capacity

structure TokenBucket (K : Type) where
  tokens : K
  time : K

namespace TokenBucket

section

variable {K : Type} [Field K]

def take (b : TokenBucket K) (amount : K) : TokenBucket K := { b with tokens := b.tokens - amount }

@[simp] theorem take_tokens (b : TokenBucket K) (amount : K) :
    (b.take amount).tokens = b.tokens - amount := rfl

@[simp] theorem take_time (b : TokenBucket K) (amount : K) : (b.take amount).time = b.time := rfl

/-- A withdrawal. -/
structure Withdrawal (K : Type) where
  amount : K
  time : K
  deriving DecidableEq

/-- What a window of withdrawals took. -/
def taken (log : List (Withdrawal K)) : K := (log.map Withdrawal.amount).sum

@[simp] theorem taken_nil : taken ([] : List (Withdrawal K)) = 0 := rfl

@[simp] theorem taken_append (log log' : List (Withdrawal K)) :
    taken (log ++ log') = taken log + taken log' := by
  rw [taken, List.map_append, List.sum_append]
  rfl

@[simp] theorem taken_cons (w : Withdrawal K) (log : List (Withdrawal K)) :
    taken (w :: log) = w.amount + taken log := by
  rw [taken, List.map_cons, List.sum_cons]
  rfl

variable [LinearOrder K]

def refill (l : Limits K) (b : TokenBucket K) (now : K) : TokenBucket K where
  tokens := min l.capacity (b.tokens + (now - b.time) * l.rate)
  time := now

@[simp] theorem refill_time (l : Limits K) (b : TokenBucket K) (now : K) :
    (b.refill l now).time = now := rfl

theorem refill_le (l : Limits K) (b : TokenBucket K) (now : K) :
    (b.refill l now).tokens ≤ l.capacity :=
  min_le_left _ _

theorem refill_le_add (l : Limits K) (b : TokenBucket K) (now : K) :
    (b.refill l now).tokens ≤ b.tokens + (now - b.time) * l.rate :=
  min_le_right _ _

end

variable {K : Type} [Field K] [LinearOrder K] [IsStrictOrderedRing K] {l : Limits K}
  {b : TokenBucket K} {now : K}

theorem flow_nonneg (l : Limits K) {s t : K} (h : s ≤ t) : 0 ≤ (t - s) * l.rate :=
  mul_nonneg (sub_nonneg.2 h) l.rate_pos.le

/-- A bucket that is not over its capacity loses nothing when it is filled. -/
theorem le_refill (hcap : b.tokens ≤ l.capacity) (h : b.time ≤ now) :
    b.tokens ≤ (b.refill l now).tokens := by
  refine le_min hcap ?_
  linarith [flow_nonneg l h]

/-- Filling in two steps is filling in one. -/
theorem refill_refill {later : K} (h : now ≤ later) :
    (b.refill l now).refill l later = b.refill l later := by
  have hflow := flow_nonneg l h
  have hsplit : (later - b.time) * l.rate =
      (now - b.time) * l.rate + (later - now) * l.rate := by ring
  simp only [refill, mk.injEq, and_true]
  rcases le_total l.capacity (b.tokens + (now - b.time) * l.rate) with hfull | hpart
  · rw [min_eq_left hfull, min_eq_left (by linarith), min_eq_left (by linarith)]
  · rw [min_eq_right hpart, hsplit, add_assoc]

/-- After the time it takes for the deficit to flow in, an amount within the capacity is there. -/
theorem le_refill_of_deficit {amount : K} (hamount : amount ≤ l.capacity)
    (h : b.time + (amount - b.tokens) / l.rate ≤ now) : amount ≤ (b.refill l now).tokens := by
  refine le_min hamount ?_
  have hflow : amount - b.tokens ≤ (now - b.time) * l.rate :=
    (div_le_iff₀ l.rate_pos).1 (by linarith)
  linarith

/-! ## The log -/

/-- When the last withdrawal of a window took place. -/
def lastTime (w : Withdrawal K) (rest : List (Withdrawal K)) : K :=
  ((w :: rest).getLast (List.cons_ne_nil w rest)).time

omit [Field K] [LinearOrder K] [IsStrictOrderedRing K] in
/-- The last withdrawal is the one that was added. -/
theorem lastTime_of_concat {w v : Withdrawal K} {rest log : List (Withdrawal K)}
    (h : w :: rest = log ++ [v]) : lastTime w rest = v.time := by
  simp [lastTime, h]

/-- The invariant of a bucket and the log of its withdrawals: what a suffix of the log has taken and
what is left is no more than the capacity and what flowed in since its first withdrawal; and so
for every window, with what flowed in between its first and its last. -/
structure Metered (l : Limits K) (b : TokenBucket K) (log : List (Withdrawal K)) : Prop where
  nonneg : 0 ≤ b.tokens
  within : b.tokens ≤ l.capacity
  suffix : ∀ w rest, w :: rest <:+ log →
    taken (w :: rest) + b.tokens ≤ l.capacity + (b.time - w.time) * l.rate
  window : ∀ w rest, w :: rest <:+: log →
    taken (w :: rest) ≤ l.capacity + (lastTime w rest - w.time) * l.rate

namespace Metered

variable {log : List (Withdrawal K)}

omit [IsStrictOrderedRing K] in
theorem start (l : Limits K) (time : K) : Metered l ⟨l.capacity, time⟩ [] where
  nonneg := l.capacity_pos.le
  within := le_refl _
  suffix w rest h := by simp at h
  window w rest h := by simp at h

theorem refill (h : Metered l b log) (hnow : b.time ≤ now) : Metered l (b.refill l now) log where
  nonneg := h.nonneg.trans (le_refill h.within hnow)
  within := refill_le l b now
  suffix w rest hsuffix := by
    have hold := h.suffix w rest hsuffix
    have hfill := refill_le_add l b now
    have hsplit : (now - w.time) * l.rate =
        (b.time - w.time) * l.rate + (now - b.time) * l.rate := by ring
    rw [refill_time, hsplit]
    linarith
  window := h.window

/-- A withdrawal of no more than there is. -/
theorem take (h : Metered l b log) {amount : K} (hpos : 0 ≤ amount) (hle : amount ≤ b.tokens) :
    Metered l (b.take amount) (log ++ [⟨amount, b.time⟩]) := by
  have hwithin := h.within
  have hsuffix : ∀ w rest, w :: rest <:+ log ++ [⟨amount, b.time⟩] →
      taken (w :: rest) + (b.tokens - amount) ≤ l.capacity + (b.time - w.time) * l.rate := by
    intro w rest hs
    obtain hnil | ⟨t, ht, hlog⟩ := List.suffix_concat_iff.1 hs
    · cases hnil
    · cases t with
      | nil =>
        cases ht
        simp only [taken_cons, taken_nil, sub_self, zero_mul]
        linarith
      | cons v t =>
        rw [List.cons_append] at ht
        obtain ⟨rfl, rfl⟩ := List.cons.inj ht
        have hold := h.suffix w t hlog
        simp only [taken_cons, taken_append, taken_nil] at hold ⊢
        linarith
  refine ⟨sub_nonneg.2 hle, ?_, hsuffix, ?_⟩
  · rw [take_tokens]
    linarith
  · intro w rest hw
    obtain hs | hs := List.infix_concat_iff.1 hw
    · obtain hnil | ⟨t, ht, _⟩ := List.suffix_concat_iff.1 hs
      · cases hnil
      · have hlast := lastTime_of_concat ht
        have hold := hsuffix w rest hs
        have hleft := sub_nonneg.2 hle
        rw [hlast]
        linarith
    · exact h.window w rest hs

end Metered
end TokenBucket
