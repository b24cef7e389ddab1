import Mathlib.Data.List.Induction

/-!
# Moments

Properties of what happens in a sequence of events: a predicate on the events so far and the next
one, at every moment of the sequence.

* `always_snoc`: a sequence with one more event.
* `always_congr`: two predicates that agree at every moment.
-/

namespace Moments

variable {α : Type} {P Q : List α → α → Prop} {events past : List α} {e : α}

/-- `P` of every event of the sequence and the events before it. -/
def Always (P : List α → α → Prop) (events : List α) : Prop :=
  ∀ past e rest, events = past ++ e :: rest → P past e

@[simp] theorem always_nil : Always P [] := by
  intro past e rest h
  simp at h

theorem always_snoc : Always P (events ++ [e]) ↔ Always P events ∧ P events e := by
  constructor
  · intro h
    refine ⟨fun past x rest hsplit => h past x (rest ++ [e]) ?_, h events e [] rfl⟩
    rw [hsplit, List.append_assoc, List.cons_append]
  · intro ⟨h, he⟩ past x rest hsplit
    induction rest using List.reverseRecOn with
    | nil =>
      obtain ⟨rfl, hx⟩ := List.append_inj' hsplit rfl
      cases hx
      exact he
    | append_singleton rest y =>
      rw [← List.cons_append, ← List.append_assoc] at hsplit
      exact h past x rest (List.append_inj' hsplit rfl).1

theorem always_congr (h : ∀ past e, P past e ↔ Q past e) : Always P events ↔ Always Q events := by
  constructor
  · intro hp past e rest hsplit
    exact (h past e).1 (hp past e rest hsplit)
  · intro hq past e rest hsplit
    exact (h past e).2 (hq past e rest hsplit)

end Moments
