import Mathlib.Algebra.BigOperators.Group.List.Basic
import NetOps.Dict

/-!
# Groups

Dictionaries that gather the elements of a list by a key: what a key leads to is made of the
elements of that key in turn.

* `get?_accumulate`: what a key leads to.
* `flatMap_accumulate_perm`: where every value holds a part of each element it was made of, the
  values together hold the part of each element once.
* `sum_accumulate`: where every value holds the sum of its elements, so do the values together.
* `accumulate_alike`: related lists are gathered into dictionaries alike.
-/

namespace Dict

variable {A K V : Type} [DecidableEq K]

theorem values_insert_new {d : Dict K V} {k : K} (h : d.get? k = none) (v : V) :
    (d.insert k v).values = d.values ++ [v] := by
  have hnew : k ∉ d.items.map Prod.fst := by
    intro hmem
    obtain ⟨⟨k', v'⟩, hitem, rfl⟩ := List.mem_map.1 hmem
    rw [mem_items.1 hitem] at h
    cases h
  unfold values insert
  simp [replaceOrAppend_new v hnew]

/-- A value is replaced where it stands. -/
theorem values_insert_old {d : Dict K V} {k : K} {v : V} (h : d.get? k = some v) (v' : V) :
    ∃ before after, d.values = before ++ v :: after ∧
      (d.insert k v').values = before ++ v' :: after := by
  unfold get? at h
  unfold values insert
  dsimp only
  generalize d.items = es at h
  induction es with
  | nil => cases h
  | cons e es ih =>
    rw [List.find?_cons] at h
    by_cases he : e.1 = k
    · simp only [he, decide_true, Option.map_some, Option.some.injEq] at h
      exact ⟨[], es.map Prod.snd, by simp [h], by simp [replaceOrAppend, he]⟩
    · simp only [he, decide_false] at h
      obtain ⟨before, after, hold, hnew⟩ := ih h
      exact ⟨e.2 :: before, after, by simp [hold], by simp [replaceOrAppend, he, hnew]⟩

/-- One value for each key, made of the elements of that key in turn. -/
def accumulate (key : A → K) (add : Option V → A → V) (xs : List A) : Dict K V :=
  xs.foldl (fun d x => d.insert (key x) (add (d.get? (key x)) x)) empty

variable {key : A → K} {add : Option V → A → V} {xs : List A}

@[simp] theorem accumulate_nil : accumulate key add [] = empty := rfl

theorem accumulate_snoc (x : A) : accumulate key add (xs ++ [x]) =
    (accumulate key add xs).insert (key x) (add ((accumulate key add xs).get? (key x)) x) :=
  List.foldl_concat ..

theorem get?_accumulate (k : K) : (accumulate key add xs).get? k =
    (xs.filter fun x => key x = k).foldl (fun v x => some (add v x)) none := by
  induction xs using List.reverseRecOn with
  | nil => rfl
  | append_singleton xs x ih =>
    rw [accumulate_snoc, get?_insert, List.filter_append]
    by_cases hk : key x = k
    · subst hk
      simp [ih]
    · simp [hk, Ne.symm hk, ih]

/-- What the values hold together is a part of each element. -/
theorem flatMap_accumulate_perm {B : Type} (part : A → B) (held : V → List B)
    (hadd : ∀ v x, held (add v x) = ((v.map held).getD []) ++ [part x]) :
    ((accumulate key add xs).values.flatMap held).Perm (xs.map part) := by
  induction xs using List.reverseRecOn with
  | nil => exact .refl _
  | append_singleton xs x ih =>
    rw [accumulate_snoc, List.map_append]
    refine List.Perm.trans ?_ (ih.append_right [part x])
    cases hget : (accumulate key add xs).get? (key x) with
    | none =>
      rw [values_insert_new hget, List.flatMap_append]
      simp [hadd]
    | some v =>
      obtain ⟨before, after, hold, hnew⟩ := values_insert_old hget (add (some v) x)
      rw [hold, hnew]
      simp only [List.flatMap_append, List.flatMap_cons, hadd, Option.map_some, Option.getD_some,
        List.append_assoc]
      exact (List.perm_append_comm.append_left (held v)).append_left (before.flatMap held)

theorem sum_accumulate {M : Type} [AddCommMonoid M] (part : A → M) (held : V → M)
    (hadd : ∀ v x, held (add v x) = ((v.map held).getD 0) + part x) :
    ((accumulate key add xs).values.map held).sum = (xs.map part).sum := by
  induction xs using List.reverseRecOn with
  | nil => rfl
  | append_singleton xs x ih =>
    rw [accumulate_snoc, List.map_append, List.sum_append, ← ih]
    cases hget : (accumulate key add xs).get? (key x) with
    | none =>
      rw [values_insert_new hget, List.map_append, List.sum_append]
      simp [hadd]
    | some v =>
      obtain ⟨before, after, hold, hnew⟩ := values_insert_old hget (add (some v) x)
      rw [hold, hnew]
      simp only [List.map_append, List.map_cons, List.sum_append, List.sum_cons, hadd,
        Option.map_some, Option.getD_some, List.map_nil, List.sum_nil, add_zero]
      ac_rfl

/-- There is a value exactly for the keys of the elements. -/
theorem get?_accumulate_isSome {k : K} :
    (∃ v, (accumulate key add xs).get? k = some v) ↔ ∃ x ∈ xs, key x = k := by
  induction xs using List.reverseRecOn with
  | nil => simp
  | append_singleton xs x ih =>
    rw [accumulate_snoc, get?_insert]
    by_cases hk : k = key x
    · simp [hk]
    · rw [if_neg hk, ih]
      simp [Ne.symm hk]

/-! ## Two dictionaries -/

/-- The same keys in the same order, with related values. -/
def Alike {W : Type} (Q : V → W → Prop) (d : Dict K V) (e : Dict K W) : Prop :=
  List.Forall₂ (fun x y => x.1 = y.1 ∧ Q x.2 y.2) d.items e.items

section Alike

variable {B W : Type} {Q : V → W → Prop} {d : Dict K V} {e : Dict K W}

theorem Alike.get? (h : Alike Q d e) (k : K) : Option.Rel Q (d.get? k) (e.get? k) := by
  unfold Dict.get?
  unfold Alike at h
  generalize d.items = xs at h
  generalize e.items = ys at h
  induction h with
  | nil => exact .none
  | @cons x y _ _ hxy _ ih =>
    obtain ⟨hkey, hvalue⟩ := hxy
    rw [List.find?_cons, List.find?_cons, ← hkey]
    by_cases hk : x.1 = k
    · rw [decide_eq_true hk]
      exact .some hvalue
    · rw [decide_eq_false hk]
      exact ih

theorem Alike.insert (h : Alike Q d e) (k : K) {v : V} {w : W} (hvw : Q v w) :
    Alike Q (d.insert k v) (e.insert k w) := by
  unfold Alike at h
  unfold Alike Dict.insert
  dsimp only
  generalize d.items = xs at h
  generalize e.items = ys at h
  induction h with
  | nil => exact .cons ⟨rfl, hvw⟩ .nil
  | @cons x y _ _ hxy hrest ih =>
    rw [replaceOrAppend, replaceOrAppend, ← hxy.1]
    by_cases hk : x.1 = k
    · rw [if_pos hk, if_pos hk]
      exact .cons ⟨rfl, hvw⟩ hrest
    · rw [if_neg hk, if_neg hk]
      exact .cons hxy ih

omit [DecidableEq K] in
theorem Alike.values (h : Alike Q d e) : List.Forall₂ Q d.values e.values := by
  unfold Dict.values
  rw [List.forall₂_map_left_iff, List.forall₂_map_right_iff]
  exact h.imp fun _ _ hxy => hxy.2

/-- Related elements are gathered into related values. -/
theorem accumulate_alike {R : A → B → Prop} {key' : B → K} {add' : Option W → B → W}
    (hkey : ∀ a b, R a b → key a = key' b)
    (hadd : ∀ v w a b, Option.Rel Q v w → R a b → Q (add v a) (add' w b))
    {ys : List B} (h : List.Forall₂ R xs ys) :
    Alike Q (accumulate key add xs) (accumulate key' add' ys) := by
  unfold accumulate
  have hempty : Alike Q (empty : Dict K V) (empty : Dict K W) := List.Forall₂.nil
  generalize (empty : Dict K V) = d at hempty
  generalize (empty : Dict K W) = e at hempty
  induction h generalizing d e with
  | nil => exact hempty
  | @cons a b _ _ hab _ ih =>
    rw [List.foldl_cons, List.foldl_cons, hkey a b hab]
    exact ih _ _ (hempty.insert _ (hadd _ _ a b (hempty.get? _) hab))

end Alike

end Dict
