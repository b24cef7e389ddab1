import NetOps.Conc.Alone

/-!
# Conc.Frame

What a session keeps of the rows it works on while other sessions work on theirs.

* `Focus`: what matters of each row, `none` for a row that does not matter. Two tables agree if
  they show the same under every key (`Focus.Agree`); agreement survives the writes and the
  changes of the session (`Agree.overlay`, `Agree.applyTo`).
* `Store.Knows`: session `s` has rows that show `W`. It goes on knowing what it knows when other
  sessions change nothing that matters (`Knows.rely`), and every statement of its own changes `W`
  as it says (`Knows.write`, `Knows.change`, `Knows.flush`, `Knows.commit`).
-/

namespace Conc

/-! ## Rows -/

namespace Tbl

variable {V : Type} {key : V → Nat} {T : Tbl V key}

theorem get_overlay_single (v : V) (k : Nat) :
    (T.overlay [v]).get k = if k = key v then some v else T.get k := get_set T v k

/-- An update of the rows that satisfy `p`. -/
theorem get_overlay_update {p : V → Bool} {f : V → V}
    (hkey : ∀ r ∈ T.rows, p r = true → key (f r) = key r) (k : Nat) :
    (T.overlay ((T.rows.filter p).map f)).get k =
      (T.get k).map fun r => if p r then f r else r := by
  cases hr : T.get k with
  | none =>
    rw [overlay_get_of_not_mem, hr]
    · rfl
    · intro w hw hk
      obtain ⟨r, hrows, rfl⟩ := List.mem_map.1 hw
      obtain ⟨hrow, hp⟩ := List.mem_filter.1 hrows
      rw [hkey r hrow hp] at hk
      rw [← hk, mem_rows.1 hrow] at hr
      cases hr
  | some r =>
    have hrow := mem_rows_of_get hr
    have hk : key r = k := T.keyed _ _ hr
    obtain ⟨v, hv⟩ := overlay_get_isSome ((T.rows.filter p).map f) hr
    rw [hv, Option.map_some]
    rcases overlay_get hv with hmem | ⟨hsame, hnone⟩
    · obtain ⟨r', hrows, rfl⟩ := List.mem_map.1 hmem
      obtain ⟨hrow', hp⟩ := List.mem_filter.1 hrows
      have hk' : key (f r') = k := (T.overlay _).keyed _ _ hv
      rw [hkey r' hrow' hp] at hk'
      have hget := mem_rows.1 hrow'
      rw [hk', hr] at hget
      cases hget
      rw [if_pos hp]
    · rw [hr] at hsame
      cases hsame
      rw [if_neg]
      intro hp
      refine hnone (f r) (List.mem_map_of_mem (List.mem_filter.2 ⟨hrow, hp⟩)) ?_
      rw [hkey r hrow hp, hk]

/-- No two rows have one key. -/
theorem nodup_map_key : (T.rows.map key).Nodup := by
  have hkeys : T.rows.map key = T.keys := by
    have hall : ∀ ks : List Nat, (∀ k ∈ ks, k ∈ T.keys) → (ks.filterMap T.get).map key = ks := by
      intro ks
      induction ks with
      | nil => intro _; rfl
      | cons k ks ih =>
        intro hks
        obtain ⟨r, hr⟩ := Option.isSome_iff_exists.1 ((T.dom k).1 (hks k List.mem_cons_self))
        rw [List.filterMap_cons_some hr, List.map_cons, T.keyed _ _ hr,
          ih fun k' hk' => hks k' (List.mem_cons_of_mem k hk')]
    exact hall T.keys fun _ hk => hk
  rw [hkeys]
  exact T.nodup

end Tbl

/-! ## What matters of a row -/

/-- What matters of the rows of each table. -/
structure Focus (S : Schema) where
  What : S.Table → Type
  of : (t : S.Table) → S.Row t → Option (What t)

variable {S : Schema} {X : Lang} {Sid : Type}

namespace Focus

variable (F : Focus S)

/-- What matters of the row under key `k`. -/
def shown {t : S.Table} (T : Tbl (S.Row t) (S.key t)) (k : Nat) : Option (F.What t) :=
  (T.get k).bind (F.of t)

/-- Two tables show the same. -/
def Agree {t : S.Table} (T T' : Tbl (S.Row t) (S.key t)) : Prop := ∀ k, F.shown T k = F.shown T' k

/-- What matters of the row after `f` depends on what mattered before, and a row that did not
matter does not begin to. -/
structure Respects {t : S.Table} (f : S.Row t → S.Row t) : Prop where
  congr : ∀ r r', F.of t r = F.of t r' → F.of t (f r) = F.of t (f r')
  none : ∀ r, F.of t r = none → F.of t (f r) = none
  key : ∀ r, S.key t (f r) = S.key t r

variable {F} {t : S.Table} {T T' : Tbl (S.Row t) (S.key t)}

theorem Respects.of_map {f : S.Row t → S.Row t} {g : F.What t → F.What t}
    (h : ∀ r, F.of t (f r) = (F.of t r).map g) (hkey : ∀ r, S.key t (f r) = S.key t r) :
    F.Respects f where
  congr r r' hr := by rw [h, h, hr]
  none r hr := by rw [h, hr, Option.map_none]
  key := hkey

theorem shown_set (T : Tbl (S.Row t) (S.key t)) (v : S.Row t) (k : Nat) :
    F.shown (T.set v) k = if k = S.key t v then F.of t v else F.shown T k := by
  unfold Focus.shown
  rw [Tbl.get_set]
  split <;> rfl

theorem Agree.set (h : F.Agree T T') (v : S.Row t) : F.Agree (T.set v) (T'.set v) := by
  intro k
  rw [shown_set, shown_set, h k]

theorem Agree.overlay (h : F.Agree T T') (ws : List (S.Row t)) :
    F.Agree (T.overlay ws) (T'.overlay ws) := by
  induction ws generalizing T T' with
  | nil => exact h
  | cons w ws ih => exact ih (h.set w)

theorem shown_some {k : Nat} {r : S.Row t} (h : T.get k = some r) : F.shown T k = F.of t r := by
  rw [Focus.shown, h, Option.bind_some]

/-- Setting a row to what it shows. -/
theorem shown_set_respects {f : S.Row t → S.Row t} (hf : F.Respects f) {k k' : Nat} {r : S.Row t}
    (hr : T.get k = some r) :
    F.shown (T.set (f r)) k' = if k' = k then F.of t (f r) else F.shown T k' := by
  rw [shown_set, hf.key, T.keyed _ _ hr]

theorem Agree.applyTo [DecidableEq S.Table] (h : F.Agree T T') {c : Change S}
    (hc : F.Respects c.apply) : F.Agree (c.applyTo t T) (c.applyTo t T') := by
  by_cases ht : c.table = t
  · obtain ⟨t', k, f⟩ := c
    cases ht
    intro k'
    have hk := h k
    unfold Focus.shown at hk
    cases hr : T.get k with
    | none =>
      cases hr' : T'.get k with
      | none => simp [Change.applyTo, hr, hr', h k']
      | some r' =>
        rw [hr, hr', Option.bind_none, Option.bind_some] at hk
        rw [Change.applyTo_some hr', shown_set_respects hc hr', hc.none r' hk.symm]
        simp only [Change.applyTo, hr, dite_true]
        split
        · rename_i hkk
          rw [hkk, Focus.shown, hr, Option.bind_none]
        · exact h k'
    | some r =>
      cases hr' : T'.get k with
      | none =>
        rw [hr, hr', Option.bind_none, Option.bind_some] at hk
        rw [Change.applyTo_some hr, shown_set_respects hc hr, hc.none r hk]
        simp only [Change.applyTo, hr', dite_true]
        split
        · rename_i hkk
          rw [hkk, Focus.shown, hr', Option.bind_none]
        · exact h k'
      | some r' =>
        rw [hr, hr', Option.bind_some, Option.bind_some] at hk
        rw [Change.applyTo_some hr, Change.applyTo_some hr', shown_set_respects hc hr,
          shown_set_respects hc hr', hc.congr r r' hk, h k']
  · intro k
    rw [Change.applyTo_ne ht, Change.applyTo_ne ht, h k]

/-- Everything matters. -/
def whole (S : Schema) : Focus S := ⟨S.Row, fun _ r => some r⟩

@[simp] theorem shown_whole (T : Tbl (S.Row t) (S.key t)) (k : Nat) :
    (whole S).shown T k = T.get k := Option.bind_fun_some _

end Focus

/-! ## What a session knows -/

namespace Store

variable [DecidableEq S.Table] {F : Focus S}

/-- The rows of session `s` show `W`, and it has unsent changes to the tables in `U` at most. -/
structure Knows (F : Focus S) (s : Sid) (W : (t : S.Table) → Nat → Option (F.What t))
    (U : List S.Table) (σ : Store S Sid) : Prop where
  rows : ∀ t k, F.shown (σ.pending s t) k = W t k
  unsent : ∀ c ∈ σ.dirty s, c.table ∈ U ∧ F.Respects c.apply

namespace Knows

variable {s : Sid} {W : (t : S.Table) → Nat → Option (F.What t)} {U : List S.Table}
  {σ σ' : Store S Sid} {t : S.Table}

theorem sent (h : σ.Knows F s W U) (ht : t ∉ U) : σ.Sent s t := by
  rintro c hc rfl
  exact ht (h.unsent c hc).1

/-- What the session reads of a table it has sent its changes to. -/
theorem view (h : σ.Knows F s W U) (ht : t ∉ U) (k : Nat) : F.shown (σ.view s t) k = W t k := by
  rw [← (h.sent ht).pending_eq, h.rows]

/-- A row that can be inserted is not there. -/
theorem fresh (h : σ.Knows F s W U) (ht : t ∉ U) {r : S.Row t} (hr : ¬ Taken (σ.view s t) r) :
    W t (S.key t r) = none := by
  rw [← h.view ht, Focus.shown]
  cases hget : (σ.view s t).get (S.key t r) with
  | none => rfl
  | some r' => exact absurd (.inl (by rw [hget]; rfl)) hr

/-- Other sessions change nothing that matters. -/
theorem rely (h : σ.Knows F s W U) (hdb : ∀ t, F.Agree (σ'.db t) (σ.db t))
    (hlog : σ'.log s = σ.log s) (hdirty : σ'.dirty s = σ.dirty s) : σ'.Knows F s W U where
  rows t k := by
    have hfold : ∀ (cs : List (Change S)) (T T' : Tbl (S.Row t) (S.key t)),
        (∀ c ∈ cs, F.Respects c.apply) → F.Agree T T' →
        F.Agree (cs.foldl (Change.applyTo t) T) (cs.foldl (Change.applyTo t) T') := by
      intro cs
      induction cs with
      | nil => exact fun _ _ _ hT => hT
      | cons c cs ih =>
        intro T T' hcs hT
        exact ih _ _ (fun c' hc' => hcs c' (List.mem_cons_of_mem c hc'))
          (hT.applyTo (hcs c List.mem_cons_self))
    rw [← h.rows t k, pending, pending, Store.view, Store.view, hlog, hdirty]
    exact hfold _ _ _ (fun c hc => (h.unsent c hc).2) ((hdb t).overlay _) k
  unsent c hc := by
    rw [hdirty] at hc
    exact h.unsent c hc

theorem congr (h : σ.Knows F s W U) (hdb : σ'.db = σ.db) (hlog : σ'.log s = σ.log s)
    (hdirty : σ'.dirty s = σ.dirty s) : σ'.Knows F s W U :=
  h.rely (fun t k => by rw [hdb]) hlog hdirty

theorem mono {U' : List S.Table} (h : σ.Knows F s W U) (hU : ∀ t ∈ U, t ∈ U') :
    σ.Knows F s W U' where
  rows := h.rows
  unsent c hc := ⟨hU _ (h.unsent c hc).1, (h.unsent c hc).2⟩

/-- The session has nothing open. -/
theorem start (hdirty : σ.dirty s = []) : σ.Knows F s (fun t => F.shown (σ.view s t)) [] where
  rows t k := by rw [pending, hdirty, List.foldl_nil]
  unsent c hc := by
    rw [hdirty] at hc
    cases hc

variable [DecidableEq Sid]

theorem load (h : σ.Knows F s W U) (ws : List (S.Row t)) : (σ.load s t ws).Knows F s W U :=
  h.congr rfl rfl rfl

theorem flush (h : σ.Knows F s W U) : (σ.flush s).Knows F s W [] where
  rows t k := by rw [pending_flush, h.rows]
  unsent c hc := by simp [Store.flush, Store.clean] at hc

/-- A commit publishes what the session knows. -/
theorem commit_db (h : σ.Knows F s W U) (t : S.Table) (k : Nat) :
    F.shown (((σ.flush s).commit s).db t) k = W t k := by
  have hdb : ((σ.flush s).commit s).db t = (σ.flush s).view s t := rfl
  rw [hdb, view_flush, h.rows]

theorem commit (h : σ.Knows F s W U) : ((σ.flush s).commit s).Knows F s W [] where
  rows t k := by
    have hclean : ((σ.flush s).commit s).dirty s = [] := by
      simp [Store.commit, Store.flush, Store.clean]
    have hlog : ((σ.flush s).commit s).log s t = [] := by simp [Store.commit]
    rw [pending, hclean, List.foldl_nil, Store.view, hlog, Tbl.overlay_nil, h.commit_db]
  unsent c hc := by simp [Store.commit, Store.flush, Store.clean] at hc

/-- A write changes what the session knows of that table. -/
theorem write (h : σ.Knows F s W U) (ht : t ∉ U) {ws : List (S.Row t)}
    {w : Nat → Option (F.What t)} (hw : ∀ k, F.shown ((σ.view s t).overlay ws) k = w k) :
    (σ.write s t ws).Knows F s (Function.update W t w) U where
  rows t' k := by
    by_cases htt : t' = t
    · subst htt
      have hsent : (σ.write s t' ws).Sent s t' := h.sent ht
      rw [Function.update_self, hsent.pending_eq, view_write, hw]
    · rw [Function.update_of_ne htt, pending_write_ne (Ne.symm htt), h.rows]
  unsent := h.unsent

/-- An update: what matters of the rows it matches is changed by `g`. -/
theorem update (h : σ.Knows F s W U) (ht : t ∉ U) {p : S.Row t → Bool} {f : S.Row t → S.Row t}
    {g : F.What t → F.What t} (hf : ∀ r, F.of t (f r) = (F.of t r).map g)
    (hkey : ∀ r, S.key t (f r) = S.key t r) :
    (σ.write s t (((σ.view s t).rows.filter p).map f)).Knows F s
      (Function.update W t fun k =>
        if k ∈ ((σ.view s t).rows.filter p).map (S.key t) then (W t k).map g else W t k) U := by
  refine h.write ht fun k => ?_
  rw [← h.view ht, Focus.shown, Focus.shown, Tbl.get_overlay_update fun r _ _ => hkey r]
  cases hr : (σ.view s t).get k with
  | none =>
    simp only [Option.map_none, Option.bind_none]
    split <;> rfl
  | some r =>
    have hk := (σ.view s t).keyed _ _ hr
    have hrow := Tbl.mem_rows_of_get hr
    simp only [Option.map_some, Option.bind_some]
    by_cases hp : p r = true
    · have hmem : k ∈ ((σ.view s t).rows.filter p).map (S.key t) :=
        List.mem_map.2 ⟨r, List.mem_filter.2 ⟨hrow, hp⟩, hk⟩
      rw [if_pos hp, if_pos hmem, hf]
    · have hmem : k ∉ ((σ.view s t).rows.filter p).map (S.key t) := by
        intro hmem
        obtain ⟨r', hr', hk'⟩ := List.mem_map.1 hmem
        obtain ⟨hrow', hp'⟩ := List.mem_filter.1 hr'
        have hget := Tbl.mem_rows.1 hrow'
        rw [hk', hr] at hget
        cases hget
        exact hp hp'
      rw [if_neg hp, if_neg hmem]

/-- A new row. -/
theorem insert (h : σ.Knows F s W U) (ht : t ∉ U) (r : S.Row t) :
    (σ.write s t [r]).Knows F s
      (Function.update W t (Function.update (W t) (S.key t r) (F.of t r))) U := by
  refine h.write ht fun k => ?_
  rw [← funext (h.view ht), Focus.shown, Tbl.get_overlay_single, Function.update_apply]
  split
  · rfl
  · rfl

/-- A change of a row in memory. -/
theorem change (h : σ.Knows F s W U) {k : Nat} {f : S.Row t → S.Row t} (hf : F.Respects f)
    {r : S.Row t} (hr : (σ.pending s t).get k = some r) :
    (σ.change s ⟨t, k, f⟩).Knows F s
      (Function.update W t (Function.update (W t) k (F.of t (f r)))) (t :: U) where
  rows t' k' := by
    rw [pending_change]
    by_cases htt : t' = t
    · subst htt
      rw [Function.update_self, Change.applyTo_some hr, Focus.shown_set_respects hf hr,
        Function.update_apply, h.rows]
    · rw [Function.update_of_ne htt, Change.applyTo_ne (Ne.symm htt), h.rows]
  unsent c hc := by
    simp only [Store.change, Function.update_self, List.mem_append, List.mem_singleton] at hc
    rcases hc with hold | rfl
    · exact ⟨List.mem_cons_of_mem t (h.unsent c hold).1, (h.unsent c hold).2⟩
    · exact ⟨List.mem_cons_self, hf⟩

/-- A change that keeps what matters of the row. -/
theorem change_keep (h : σ.Knows F s W U) {k : Nat} {f : S.Row t → S.Row t}
    (hf : F.Respects f) (hf' : ∀ r, F.of t (f r) = F.of t r) :
    (σ.change s ⟨t, k, f⟩).Knows F s W (t :: U) where
  rows t' k' := by
    rw [pending_change]
    by_cases htt : t' = t
    · subst htt
      cases hr : (σ.pending s t').get k with
      | none =>
        simp only [Change.applyTo, hr, dite_true]
        exact h.rows t' k'
      | some r =>
        rw [Change.applyTo_some hr, Focus.shown_set_respects hf hr, hf']
        split
        · rename_i hk
          rw [hk, ← h.rows t' k, Focus.shown_some hr]
        · exact h.rows t' k'
    · rw [Change.applyTo_ne (Ne.symm htt), h.rows]
  unsent c hc := by
    simp only [Store.change, Function.update_self, List.mem_append, List.mem_singleton] at hc
    rcases hc with hold | rfl
    · exact ⟨List.mem_cons_of_mem t (h.unsent c hold).1, (h.unsent c hold).2⟩
    · exact ⟨List.mem_cons_self, hf⟩

end Knows
end Store
end Conc
