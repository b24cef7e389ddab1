import Mathlib.Data.List.Forall2

/-!
# Outcomes

Computations that may raise: what their success says of the parts.

* `bind_ok`: of one step after another.
* `mapM_ok_iff`, `mapM_succeeds_iff`: of a traversal of a list.
* `Gives`: a computation that follows a function, unless something makes it raise.
-/

namespace Outcomes

variable {ε α β : Type} {f : α → Except ε β} {xs : List α}

theorem bind_ok {x : Except ε α} {b : β} (h : x >>= f = .ok b) : ∃ a, x = .ok a ∧ f a = .ok b := by
  cases x with
  | error e => cases h
  | ok a => exact ⟨a, rfl, h⟩

theorem map_ok {x : Except ε α} {g : α → β} {b : β} (h : x.map g = .ok b) :
    ∃ a, x = .ok a ∧ g a = b := by
  cases x with
  | error e => cases h
  | ok a => exact ⟨a, rfl, Except.ok.inj h⟩

theorem mapError_ok {ε' : Type} {x : Except ε α} {g : ε → ε'} {a : α}
    (h : x.mapError g = .ok a) : x = .ok a := by
  cases x with
  | error e => cases h
  | ok b => exact congrArg _ (Except.ok.inj h)

@[simp] theorem isOk_map (x : Except ε α) (g : α → β) : (x.map g).isOk = x.isOk := by
  cases x <;> rfl

@[simp] theorem isOk_mapError {ε' : Type} (x : Except ε α) (g : ε → ε') :
    (x.mapError g).isOk = x.isOk := by
  cases x <;> rfl

theorem isOk_iff {x : Except ε α} : x.isOk = true ↔ ∃ a, x = .ok a := by
  cases x <;> simp [Except.isOk, Except.toBool]

theorem mapM_ok_iff {ys : List β} :
    xs.mapM f = .ok ys ↔ List.Forall₂ (fun x y => f x = .ok y) xs ys := by
  constructor
  · intro h
    induction xs generalizing ys with
    | nil =>
      cases h
      exact .nil
    | cons x xs ih =>
      rw [List.mapM_cons] at h
      obtain ⟨y, hy, h⟩ := bind_ok h
      obtain ⟨rest, hrest, h⟩ := bind_ok h
      cases h
      exact .cons hy (ih hrest)
  · intro h
    induction h with
    | nil => rfl
    | cons hx _ ih =>
      rw [List.mapM_cons, hx, ih]
      rfl

theorem mapM_succeeds_iff : (∃ ys, xs.mapM f = .ok ys) ↔ ∀ x ∈ xs, ∃ y, f x = .ok y := by
  simp only [mapM_ok_iff]
  induction xs with
  | nil => simp
  | cons x xs ih =>
    rw [List.forall_mem_cons, ← ih]
    constructor
    · rintro ⟨ys, h⟩
      cases h with
      | cons hx hxs => exact ⟨⟨_, hx⟩, _, hxs⟩
    · rintro ⟨⟨y, hy⟩, ys, hys⟩
      exact ⟨y :: ys, .cons hy hys⟩

/-- Whether a traversal succeeds depends on whether its steps do. -/
theorem isOk_mapM {g : α → Except ε β} (h : ∀ x, (f x).isOk = (g x).isOk) (xs : List α) :
    (xs.mapM f).isOk = (xs.mapM g).isOk := by
  rw [Bool.eq_iff_iff, isOk_iff, isOk_iff, mapM_succeeds_iff, mapM_succeeds_iff]
  exact forall₂_congr fun x _ => by rw [← isOk_iff, ← isOk_iff, h x]

/-- Every result comes from an element. -/
theorem exists_of_mem {ys : List β} {y : β} (h : List.Forall₂ (fun x y => f x = .ok y) xs ys)
    (hy : y ∈ ys) : ∃ x ∈ xs, f x = .ok y := by
  induction h with
  | nil => cases hy
  | cons hx _ ih =>
    rcases List.mem_cons.1 hy with rfl | hy
    · exact ⟨_, List.mem_cons_self, hx⟩
    · obtain ⟨x, hmem, hx⟩ := ih hy
      exact ⟨x, List.mem_cons_of_mem _ hmem, hx⟩

/-- The computation gives the value, or it raises and there is a cause. -/
def Gives (cause : Prop) (x : Except ε α) (a : α) : Prop :=
  match x with
  | .ok b => b = a
  | .error _ => cause

namespace Gives

variable {cause cause' : Prop} {x : Except ε α} {a : α} {b : β}

theorem ok (a : α) : Gives cause (.ok a : Except ε α) a := rfl

theorem bind (hx : Gives cause x a) (hf : Gives cause (f a) b) : Gives cause (x >>= f) b := by
  cases x with
  | error e => exact hx
  | ok a' =>
    cases hx
    exact hf

theorem map (hx : Gives cause x a) (g : α → β) : Gives cause (x.map g) (g a) := by
  cases x with
  | error e => exact hx
  | ok a' => exact congrArg g hx

theorem mono (hx : Gives cause x a) (h : cause → cause') : Gives cause' x a := by
  cases x with
  | error e => exact h hx
  | ok a' => exact hx

theorem mapM {g : α → β} (hf : ∀ x ∈ xs, Gives cause (f x) (g x)) :
    Gives cause (xs.mapM f) (xs.map g) := by
  induction xs with
  | nil => exact ok []
  | cons x xs ih =>
    rw [List.mapM_cons, List.map_cons]
    refine bind (hf x List.mem_cons_self) (bind (ih fun y hy => ?_) (ok _))
    exact hf y (List.mem_cons_of_mem x hy)

end Gives

end Outcomes
