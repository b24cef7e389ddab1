import Mathlib.Data.List.Induction
import Mathlib.Data.List.Nodup

/-!
# Dict

Python's `dict`: the entries in the order their keys were first inserted; inserting a key again
replaces its value where it stands.
-/

structure Dict (K V : Type) where
  items : List (K × V)
  nodup : (items.map Prod.fst).Nodup

namespace Dict

variable {K V : Type}

def empty : Dict K V where
  items := []
  nodup := .nil

instance : Inhabited (Dict K V) := ⟨empty⟩

variable [DecidableEq K]

def replaceOrAppend (k : K) (v : V) : List (K × V) → List (K × V)
  | [] => [(k, v)]
  | e :: es => if e.1 = k then (k, v) :: es else e :: replaceOrAppend k v es

theorem keys_replaceOrAppend (k : K) (v : V) (es : List (K × V)) :
    (replaceOrAppend k v es).map Prod.fst =
      if k ∈ es.map Prod.fst then es.map Prod.fst else es.map Prod.fst ++ [k] := by
  induction es with
  | nil => rfl
  | cons e es ih =>
    by_cases he : e.1 = k
    · subst he
      simp [replaceOrAppend]
    · simp only [replaceOrAppend, he, if_false, List.map_cons, ih, List.mem_cons, Ne.symm he,
        false_or]
      split <;> rfl

/-- `d[k] = v`. -/
def insert (d : Dict K V) (k : K) (v : V) : Dict K V where
  items := replaceOrAppend k v d.items
  nodup := by
    rw [keys_replaceOrAppend]
    split
    · exact d.nodup
    · rename_i hk
      rw [List.nodup_append]
      refine ⟨d.nodup, List.nodup_singleton k, ?_⟩
      rintro a ha b hb rfl
      exact hk (List.mem_singleton.1 hb ▸ ha)

/-- `d.get(k)`. -/
def get? (d : Dict K V) (k : K) : Option V := (d.items.find? fun e => e.1 = k).map Prod.snd

def values (d : Dict K V) : List V := d.items.map Prod.snd

/-- `{k: v for k, v in entries}`. -/
def ofList (entries : List (K × V)) : Dict K V :=
  entries.foldl (fun d e => d.insert e.1 e.2) empty

@[simp] theorem get?_empty (k : K) : (empty : Dict K V).get? k = none := rfl

@[simp] theorem get?_insert (d : Dict K V) (k k' : K) (v : V) :
    (d.insert k v).get? k' = if k' = k then some v else d.get? k' := by
  unfold get? insert
  dsimp only
  induction d.items with
  | nil => by_cases h : k = k' <;> simp [replaceOrAppend, h, eq_comm]
  | cons e es ih =>
    by_cases he : e.1 = k
    · by_cases h : k = k'
      · simp [replaceOrAppend, he, h]
      · simp [replaceOrAppend, he, h, Ne.symm h]
    · by_cases h : e.1 = k'
      · have hk : k' ≠ k := fun hk => he (h.trans hk)
        simp [replaceOrAppend, h, hk]
      · simp only [replaceOrAppend, he, if_false, List.find?_cons, h, decide_false]
        exact ih

/-- The entries are what the keys lead to. -/
theorem mem_items {d : Dict K V} {k : K} {v : V} : (k, v) ∈ d.items ↔ d.get? k = some v := by
  unfold get?
  have hnodup := d.nodup
  generalize d.items = es at hnodup
  induction es with
  | nil => simp
  | cons e es ih =>
    rw [List.map_cons, List.nodup_cons] at hnodup
    rw [List.mem_cons, List.find?_cons]
    by_cases he : e.1 = k
    · simp only [he, decide_true, Option.map_some, Option.some.injEq]
      constructor
      · rintro (rfl | hmem)
        · rfl
        · exact absurd (List.mem_map_of_mem (f := Prod.fst) hmem) (he ▸ hnodup.1)
      · intro hv
        exact .inl (Prod.ext he.symm hv.symm)
    · simp only [he, decide_false]
      refine Iff.trans ?_ (ih hnodup.2)
      constructor
      · rintro (rfl | hmem)
        · exact absurd rfl he
        · exact hmem
      · exact .inr

theorem mem_values {d : Dict K V} {v : V} : v ∈ d.values ↔ ∃ k, d.get? k = some v := by
  unfold values
  rw [List.mem_map]
  constructor
  · rintro ⟨⟨k, v'⟩, hmem, rfl⟩
    exact ⟨k, mem_items.1 hmem⟩
  · rintro ⟨k, hk⟩
    exact ⟨(k, v), mem_items.2 hk, rfl⟩

theorem ofList_append (entries : List (K × V)) (e : K × V) :
    ofList (entries ++ [e]) = (ofList entries).insert e.1 e.2 := by
  simp [ofList, List.foldl_append]

/-- What a key leads to is one of its values. -/
theorem get?_ofList {entries : List (K × V)} {k : K} {v : V}
    (h : (ofList entries).get? k = some v) : (k, v) ∈ entries := by
  induction entries using List.reverseRecOn with
  | nil => cases h
  | append_singleton entries e ih =>
    rw [ofList_append, get?_insert] at h
    split at h
    · rename_i hk
      cases h
      rw [hk]
      exact List.mem_append_right _ (List.mem_singleton_self e)
    · exact List.mem_append_left _ (ih h)

/-- And every key of the list leads to one. -/
theorem get?_ofList_isSome {entries : List (K × V)} {k : K} {v : V} (h : (k, v) ∈ entries) :
    ∃ v', (ofList entries).get? k = some v' := by
  induction entries using List.reverseRecOn with
  | nil => cases h
  | append_singleton entries e ih =>
    rw [ofList_append, get?_insert]
    split
    · exact ⟨e.2, rfl⟩
    · rename_i hk
      rcases List.mem_append.1 h with hmem | hmem
      · exact ih hmem
      · rw [List.mem_singleton] at hmem
        exact absurd (congrArg Prod.fst hmem) hk

theorem get?_ofList_eq_none {entries : List (K × V)} {k : K} :
    (ofList entries).get? k = none ↔ ∀ v, (k, v) ∉ entries := by
  constructor
  · intro h v hmem
    obtain ⟨v', hv'⟩ := get?_ofList_isSome hmem
    rw [h] at hv'
    cases hv'
  · intro h
    cases hget : (ofList entries).get? k with
    | none => rfl
    | some v => exact absurd (get?_ofList hget) (h v)

/-- Of the values of one key, the last is kept. -/
theorem get?_ofList_eq_getLast? (entries : List (K × V)) (k : K) :
    (ofList entries).get? k = ((entries.filter fun e => e.1 = k).getLast?).map Prod.snd := by
  induction entries using List.reverseRecOn with
  | nil => rfl
  | append_singleton entries e ih =>
    rw [ofList_append, get?_insert, List.filter_append, ih]
    by_cases hk : e.1 = k
    · simp [hk]
    · simp [hk, Ne.symm hk]

theorem replaceOrAppend_new {k : K} (v : V) {es : List (K × V)} (h : k ∉ es.map Prod.fst) :
    replaceOrAppend k v es = es ++ [(k, v)] := by
  induction es with
  | nil => rfl
  | cons e es ih =>
    rw [List.map_cons, List.mem_cons, not_or] at h
    rw [replaceOrAppend, if_neg (Ne.symm h.1), ih h.2, List.cons_append]

/-- Entries of different keys are kept as they come. -/
theorem items_ofList {entries : List (K × V)} (h : (entries.map Prod.fst).Nodup) :
    (ofList entries).items = entries := by
  induction entries using List.reverseRecOn with
  | nil => rfl
  | append_singleton entries e ih =>
    rw [List.map_append, List.map_singleton, List.nodup_append] at h
    have hitems := ih h.1
    have hnew : e.1 ∉ (ofList entries).items.map Prod.fst := by
      rw [hitems]
      exact fun hmem => h.2.2 _ hmem _ (List.mem_singleton_self _) rfl
    rw [ofList_append]
    refine (replaceOrAppend_new e.2 hnew).trans ?_
    rw [hitems]

/-- A dictionary of values by a key of theirs. -/
def byKey (key : V → K) (vs : List V) : Dict K V := ofList (vs.map fun v => (key v, v))

theorem get?_byKey {key : V → K} {vs : List V} {k : K} {v : V}
    (h : (byKey key vs).get? k = some v) : v ∈ vs ∧ key v = k := by
  obtain ⟨v', hmem, heq⟩ := List.mem_map.1 (get?_ofList h)
  cases heq
  exact ⟨hmem, rfl⟩

theorem get?_byKey_isSome (key : V → K) {vs : List V} {v : V} (h : v ∈ vs) :
    ∃ v', (byKey key vs).get? (key v) = some v' :=
  get?_ofList_isSome (List.mem_map_of_mem (f := fun v => (key v, v)) h)

theorem get?_byKey_eq_none {key : V → K} {vs : List V} {k : K} :
    (byKey key vs).get? k = none ↔ ∀ v ∈ vs, key v ≠ k := by
  unfold byKey
  rw [get?_ofList_eq_none]
  constructor
  · intro h v hv hk
    exact h v (List.mem_map.2 ⟨v, hv, by rw [hk]⟩)
  · intro h v hmem
    obtain ⟨v', hv', heq⟩ := List.mem_map.1 hmem
    cases heq
    exact h v hv' rfl

/-- Of the values of one key, the last is kept. -/
theorem get?_byKey_eq_getLast? (key : V → K) (vs : List V) (k : K) :
    (byKey key vs).get? k = (vs.filter fun v => key v = k).getLast? := by
  unfold byKey
  rw [get?_ofList_eq_getLast?, List.filter_map, List.getLast?_map, Option.map_map]
  exact Option.map_id'

theorem mem_items_byKey {key : V → K} {vs : List V} {e : K × V}
    (h : e ∈ (byKey key vs).items) :
    e.2 ∈ vs ∧ key e.2 = e.1 ∧ (byKey key vs).get? (key e.2) = some e.2 := by
  have hget : (byKey key vs).get? e.1 = some e.2 := mem_items.1 h
  obtain ⟨hmem, hkey⟩ := get?_byKey hget
  exact ⟨hmem, hkey, hkey.symm ▸ hget⟩

/-- The values of a dictionary by a key have pairwise different keys. -/
theorem nodup_values_byKey (key : V → K) (vs : List V) : ((byKey key vs).values.map key).Nodup := by
  have hkeys : (byKey key vs).values.map key = (byKey key vs).items.map Prod.fst := by
    unfold values
    rw [List.map_map]
    exact List.map_congr_left fun e he => (mem_items_byKey he).2.1
  rw [hkeys]
  exact (byKey key vs).nodup

end Dict
