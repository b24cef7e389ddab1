import NetOps.Dict

/-!
# OuterJoin

The full outer join of two tables by a key, over two dictionaries of the rows: `join` says
something of every key that only one of the tables has, and of the rows of a key that both have.

A dictionary holds one row of a key, the last. The join of all rows (`Joined`) does not depend on
their order, and the join over dictionaries is it if it does not matter which of the rows of a key
is taken (`mem_join`).
-/

namespace OuterJoin

variable {α β κ γ : Type}

/-- The keys of two tables, and what is said of their rows. -/
structure Spec (α β κ γ : Type) where
  left : α → κ
  right : β → κ
  onlyLeft : κ → α → γ
  both : α → β → List γ
  onlyRight : κ → β → γ

variable (s : Spec α β κ γ)

/-- The join of all rows. -/
inductive Joined (xs : List α) (ys : List β) : γ → Prop where
  | onlyLeft {x : α} (hx : x ∈ xs) (hnone : ∀ y ∈ ys, s.right y ≠ s.left x) :
      Joined xs ys (s.onlyLeft (s.left x) x)
  | both {x : α} {y : β} {c : γ} (hx : x ∈ xs) (hy : y ∈ ys) (hkey : s.right y = s.left x)
      (hc : c ∈ s.both x y) : Joined xs ys c
  | onlyRight {y : β} (hy : y ∈ ys) (hnone : ∀ x ∈ xs, s.left x ≠ s.right y) :
      Joined xs ys (s.onlyRight (s.right y) y)

/-- The rows of a key give one and the same. -/
structure Functional (xs : List α) (ys : List β) : Prop where
  onlyLeft : ∀ x ∈ xs, ∀ x' ∈ xs, s.left x = s.left x' → (∀ y ∈ ys, s.right y ≠ s.left x) →
    s.onlyLeft (s.left x) x = s.onlyLeft (s.left x') x'
  both : ∀ x ∈ xs, ∀ x' ∈ xs, s.left x = s.left x' → ∀ y ∈ ys, ∀ y' ∈ ys,
    s.right y = s.left x → s.right y' = s.left x → s.both x y = s.both x' y'
  onlyRight : ∀ y ∈ ys, ∀ y' ∈ ys, s.right y = s.right y' → (∀ x ∈ xs, s.left x ≠ s.right y) →
    s.onlyRight (s.right y) y = s.onlyRight (s.right y') y'

variable {s} {xs xs' : List α} {ys ys' : List β} {c : γ}

/-! ## Any order -/

theorem Joined.congr (hx : ∀ x, x ∈ xs ↔ x ∈ xs') (hy : ∀ y, y ∈ ys ↔ y ∈ ys')
    (h : Joined s xs ys c) : Joined s xs' ys' c := by
  cases h with
  | onlyLeft hmem hnone => exact .onlyLeft ((hx _).1 hmem) fun y h => hnone y ((hy y).2 h)
  | both hmem hmem' hkey hc => exact .both ((hx _).1 hmem) ((hy _).1 hmem') hkey hc
  | onlyRight hmem hnone => exact .onlyRight ((hy _).1 hmem) fun x h => hnone x ((hx x).2 h)

theorem Functional.congr (hx : ∀ x, x ∈ xs ↔ x ∈ xs') (hy : ∀ y, y ∈ ys ↔ y ∈ ys')
    (h : Functional s xs ys) : Functional s xs' ys' := by
  obtain ⟨hleft, hboth, hright⟩ := h
  simp only [hx, hy] at hleft hboth hright
  exact ⟨hleft, hboth, hright⟩

/-- Rows with keys of their own leave no choice. -/
theorem functional_of_nodup (hx : (xs.map s.left).Nodup) (hy : (ys.map s.right).Nodup) :
    Functional s xs ys := by
  constructor
  · intro x hmem x' hmem' hkey _
    rw [List.inj_on_of_nodup_map hx hmem hmem' hkey]
  · intro x hmem x' hmem' hkey y hy' y' hy'' hsame hsame'
    rw [List.inj_on_of_nodup_map hx hmem hmem' hkey,
      List.inj_on_of_nodup_map hy hy' hy'' (hsame.trans hsame'.symm)]
  · intro y hmem y' hmem' hkey _
    rw [List.inj_on_of_nodup_map hy hmem hmem' hkey]

/-! ## The join over dictionaries -/

section Join

variable [DecidableEq κ]

/-- What is said of the left row of a key. -/
def joinRow (s : Spec α β κ γ) (ys : List β) (e : κ × α) : List γ :=
  match (Dict.byKey s.right ys).get? e.1 with
  | none => [s.onlyLeft e.1 e.2]
  | some y => s.both e.2 y

def join (s : Spec α β κ γ) (xs : List α) (ys : List β) : List γ :=
  (Dict.byKey s.left xs).items.flatMap (joinRow s ys) ++
    ((Dict.byKey s.right ys).items.filter fun e =>
      ((Dict.byKey s.left xs).get? e.1).isNone).map fun e => s.onlyRight e.1 e.2

/-- What the join says is said of some rows. -/
theorem joined_of_mem (h : c ∈ join s xs ys) : Joined s xs ys c := by
  unfold join at h
  rw [List.mem_append, List.mem_flatMap, List.mem_map] at h
  rcases h with ⟨e, he, hc⟩ | ⟨e, he, rfl⟩
  · obtain ⟨hx, hkey, _⟩ := Dict.mem_items_byKey he
    unfold joinRow at hc
    rw [← hkey] at hc
    split at hc
    · rename_i hnone
      rw [List.mem_singleton.1 hc]
      exact .onlyLeft hx (Dict.get?_byKey_eq_none.1 hnone)
    · rename_i y hsome
      obtain ⟨hy, hsame⟩ := Dict.get?_byKey hsome
      exact .both hx hy hsame hc
  · obtain ⟨hitem, hnone⟩ := List.mem_filter.1 he
    obtain ⟨hy, hkey, _⟩ := Dict.mem_items_byKey hitem
    rw [← hkey]
    refine .onlyRight hy (Dict.get?_byKey_eq_none.1 ?_)
    rw [hkey]
    exact Option.isNone_iff_eq_none.1 hnone

/-- If the rows of a key give one and the same, the join says all. -/
theorem mem_of_joined (hone : Functional s xs ys) (h : Joined s xs ys c) : c ∈ join s xs ys := by
  unfold join
  rw [List.mem_append, List.mem_flatMap, List.mem_map]
  cases h with
  | @onlyLeft x hx hnone =>
    obtain ⟨x', hget⟩ := Dict.get?_byKey_isSome s.left hx
    obtain ⟨hx', hkey⟩ := Dict.get?_byKey hget
    refine .inl ⟨(s.left x, x'), Dict.mem_items.2 hget, ?_⟩
    unfold joinRow
    rw [Dict.get?_byKey_eq_none.2 hnone, hone.onlyLeft x hx x' hx' hkey.symm hnone, hkey]
    exact List.mem_singleton_self _
  | @both x y _ hx hy hsame hc =>
    obtain ⟨x', hget⟩ := Dict.get?_byKey_isSome s.left hx
    obtain ⟨hx', hkey⟩ := Dict.get?_byKey hget
    obtain ⟨y', hget'⟩ := Dict.get?_byKey_isSome s.right hy
    rw [hsame] at hget'
    obtain ⟨hy', hkey'⟩ := Dict.get?_byKey hget'
    refine .inl ⟨(s.left x, x'), Dict.mem_items.2 hget, ?_⟩
    unfold joinRow
    rw [hget']
    dsimp only
    rw [← hone.both x hx x' hx' hkey.symm y hy y' hy' hsame hkey']
    exact hc
  | @onlyRight y hy hnone =>
    obtain ⟨y', hget⟩ := Dict.get?_byKey_isSome s.right hy
    obtain ⟨hy', hkey⟩ := Dict.get?_byKey hget
    refine .inr ⟨(s.right y, y'), ?_, ?_⟩
    · rw [List.mem_filter]
      refine ⟨Dict.mem_items.2 hget, ?_⟩
      dsimp only
      rw [Dict.get?_byKey_eq_none.2 hnone]
      rfl
    · rw [hone.onlyRight y hy y' hy' hkey.symm hnone, hkey]

theorem mem_join (hone : Functional s xs ys) : c ∈ join s xs ys ↔ Joined s xs ys c :=
  ⟨joined_of_mem, mem_of_joined hone⟩

end Join

end OuterJoin
