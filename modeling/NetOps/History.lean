import Mathlib.Data.List.Basic

/-!
# History

Histories of a transition system: the labels of its steps, with the state each leads to. A property
of steps holds `Throughout` a history when every step has it; a `Run` is a history of steps.

* `throughout_of_inv`: if a step from a state of the invariant that meets the condition has the
  property and keeps the invariant, then so it goes for a whole run.
* `throughout_iff`: if a step has the property exactly when it meets the condition, then a run has
  it throughout exactly when it meets the condition throughout.
-/

namespace History

variable {σ α : Type}

/-- The property holds of every step of the history that starts in the state. -/
def Throughout (P : σ → α → σ → Prop) : σ → List (α × σ) → Prop
  | _, [] => True
  | s, e :: h => P s e.1 e.2 ∧ Throughout P e.2 h

/-- Every step of the history is one. -/
abbrev Run (step : σ → α → σ → Prop) : σ → List (α × σ) → Prop := Throughout step

/-- The state that a history ends in. -/
def last : σ → List (α × σ) → σ
  | s, [] => s
  | _, e :: h => last e.2 h

@[simp] theorem throughout_nil {P : σ → α → σ → Prop} {s : σ} : Throughout P s [] := trivial

@[simp] theorem throughout_cons {P : σ → α → σ → Prop} {s : σ} {e : α × σ} {h : List (α × σ)} :
    Throughout P s (e :: h) ↔ P s e.1 e.2 ∧ Throughout P e.2 h := Iff.rfl

@[simp] theorem last_nil {s : σ} : last s ([] : List (α × σ)) = s := rfl

@[simp] theorem last_cons {s : σ} {e : α × σ} {h : List (α × σ)} : last s (e :: h) = last e.2 h :=
  rfl

variable {step P C : σ → α → σ → Prop} {I : σ → Prop} {s : σ} {h : List (α × σ)}

theorem throughout_of_inv
    (hstep : ∀ s a s', I s → step s a s' → C s a s' → P s a s' ∧ I s') (hs : I s)
    (hrun : Run step s h) (hc : Throughout C s h) : Throughout P s h := by
  induction h generalizing s with
  | nil => trivial
  | cons e h ih =>
    obtain ⟨hp, hi⟩ := hstep s e.1 e.2 hs hrun.1 hc.1
    exact ⟨hp, ih hi hrun.2 hc.2⟩

theorem throughout_iff (hiff : ∀ s a s', I s → step s a s' → (P s a s' ↔ C s a s'))
    (hinv : ∀ s a s', I s → step s a s' → P s a s' → I s') (hs : I s) (hrun : Run step s h) :
    Throughout P s h ↔ Throughout C s h := by
  induction h generalizing s with
  | nil => exact Iff.rfl
  | cons e h ih =>
    have hhead := hiff s e.1 e.2 hs hrun.1
    constructor
    · rintro ⟨hp, htail⟩
      exact ⟨hhead.1 hp, (ih (hinv s e.1 e.2 hs hrun.1 hp) hrun.2).1 htail⟩
    · rintro ⟨hc, htail⟩
      have hp := hhead.2 hc
      exact ⟨hp, (ih (hinv s e.1 e.2 hs hrun.1 hp) hrun.2).2 htail⟩

end History
