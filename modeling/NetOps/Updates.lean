import NetOps.Groups

/-!
# Updates

A list of values entered into a dictionary, each under a key of its own. Entering the values of
the list's own dictionary comes to the same (`insertAll_values`).
-/

namespace Dict

variable {K V : Type}

theorem ext_items {d e : Dict K V} (h : d.items = e.items) : d = e := by
  cases d
  cases e
  subst h
  rfl

variable [DecidableEq K]

theorem replaceOrAppend_twice (k : K) (v v' : V) (es : List (K × V)) :
    replaceOrAppend k v' (replaceOrAppend k v es) = replaceOrAppend k v' es := by
  induction es with
  | nil => simp [replaceOrAppend]
  | cons e es ih =>
    by_cases he : e.1 = k
    · simp [replaceOrAppend, he]
    · simp [replaceOrAppend, he, ih]

theorem replaceOrAppend_comm {k k' : K} (hne : k ≠ k') (v v' : V) {es : List (K × V)}
    (hmem : k ∈ es.map Prod.fst) : replaceOrAppend k' v' (replaceOrAppend k v es) =
      replaceOrAppend k v (replaceOrAppend k' v' es) := by
  induction es with
  | nil => simp at hmem
  | cons e es ih =>
    by_cases he : e.1 = k
    · have hother : e.1 ≠ k' := fun h => hne (he.symm.trans h)
      simp [replaceOrAppend, he, hne]
    · have hrest : k ∈ es.map Prod.fst := by
        rw [List.map_cons, List.mem_cons] at hmem
        exact hmem.resolve_left (Ne.symm he)
      by_cases he' : e.1 = k'
      · simp [replaceOrAppend, he', Ne.symm hne]
      · simp [replaceOrAppend, he, he', ih hrest]

@[simp] theorem insert_twice (d : Dict K V) (k : K) (v v' : V) :
    (d.insert k v).insert k v' = d.insert k v' :=
  ext_items (replaceOrAppend_twice k v v' d.items)

/-- A key that is there is replaced where it stands, before or after another is entered. -/
theorem insert_comm {d : Dict K V} {k k' : K} (hne : k ≠ k') (v v' : V)
    (hget : d.get? k ≠ none) : (d.insert k v).insert k' v' = (d.insert k' v').insert k v := by
  obtain ⟨w, hw⟩ := Option.ne_none_iff_exists'.1 hget
  have hmem : k ∈ d.items.map Prod.fst :=
    List.mem_map_of_mem (f := Prod.fst) (mem_items.2 hw)
  exact ext_items (replaceOrAppend_comm hne v v' hmem)

/-- `for v in vs: d[key(v)] = v`. -/
def insertAll (key : V → K) (d : Dict K V) (vs : List V) : Dict K V :=
  vs.foldl (fun d v => d.insert (key v) v) d

variable {key : V → K} {d : Dict K V}

@[simp] theorem insertAll_nil : insertAll key d [] = d := rfl

@[simp] theorem insertAll_cons (v : V) (vs : List V) :
    insertAll key d (v :: vs) = insertAll key (d.insert (key v) v) vs := rfl

theorem insertAll_append (vs ws : List V) :
    insertAll key d (vs ++ ws) = insertAll key (insertAll key d vs) ws := List.foldl_append ..

theorem insertAll_empty (key : V → K) (vs : List V) : insertAll key empty vs = byKey key vs := by
  unfold insertAll byKey ofList
  rw [List.foldl_map]

theorem insertAll_insert {k : K} (hget : d.get? k ≠ none) (v : V) {vs : List V}
    (hvs : ∀ w ∈ vs, key w ≠ k) :
    insertAll key (d.insert k v) vs = (insertAll key d vs).insert k v := by
  induction vs generalizing d with
  | nil => rfl
  | cons w vs ih =>
    have hw := hvs w List.mem_cons_self
    have hkept : (d.insert (key w) w).get? k ≠ none := by
      rw [get?_insert, if_neg (Ne.symm hw)]
      exact hget
    rw [insertAll_cons, insertAll_cons, insert_comm (Ne.symm hw) v w hget]
    exact ih hkept fun u hu => hvs u (List.mem_cons_of_mem _ hu)

/-- Of the values of one key only the last counts, which stands where the first of them stood. -/
theorem insertAll_values (key : V → K) (d : Dict K V) (vs : List V) :
    insertAll key d (byKey key vs).values = insertAll key d vs := by
  induction vs using List.reverseRecOn with
  | nil => rfl
  | append_singleton vs v ih =>
    have hlast : byKey key (vs ++ [v]) = (byKey key vs).insert (key v) v := by
      rw [← insertAll_empty, insertAll_append, insertAll_empty]
      rfl
    rw [hlast, insertAll_append]
    cases hget : (byKey key vs).get? (key v) with
    | none => rw [values_insert_new hget, insertAll_append, ih]
    | some old =>
      obtain ⟨before, after, hold, hnew⟩ := values_insert_old hget v
      have hkey : key old = key v := (get?_byKey hget).2
      have hafter : ∀ w ∈ after, key w ≠ key v := by
        have hnodup := nodup_values_byKey key vs
        rw [hold, List.map_append, List.map_cons, List.nodup_append, List.nodup_cons] at hnodup
        intro w hw hsame
        refine hnodup.2.1.1 ?_
        rw [hkey, ← hsame]
        exact List.mem_map_of_mem hw
      have hthere : ((insertAll key d before).insert (key v) old).get? (key v) ≠ none := by
        simp
      rw [hnew, ← ih, hold]
      simp only [insertAll_append, insertAll_cons, insertAll_nil, hkey]
      rw [← insertAll_insert hthere v hafter, insert_twice]

theorem byKey_values {key : V → K} {d : Dict K V} (h : ∀ e ∈ d.items, key e.2 = e.1) :
    byKey key d.values = d := by
  have hentries : d.values.map (fun v => (key v, v)) = d.items := by
    unfold values
    rw [List.map_map]
    refine (List.map_congr_left fun e he => ?_).trans (List.map_id d.items)
    exact Prod.ext (h e he) rfl
  unfold byKey
  rw [hentries]
  exact ext_items (items_ofList d.nodup)

theorem insertAll_keyed {key : V → K} {d : Dict K V} (h : ∀ e ∈ d.items, key e.2 = e.1)
    (vs : List V) : ∀ e ∈ (insertAll key d vs).items, key e.2 = e.1 := by
  have hall : insertAll key d vs = byKey key (d.values ++ vs) := by
    rw [← insertAll_empty, insertAll_append, insertAll_empty, byKey_values h]
  rw [hall]
  intro e he
  exact (mem_items_byKey he).2.1

end Dict
