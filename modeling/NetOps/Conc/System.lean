import NetOps.Conc.Store
import Mathlib.Data.Fintype.Basic
import Mathlib.Logic.Relation

/-!
# Conc.System

Tasks that run programs over one store, interleaved between any two statements.

* `Sys.Step`: one task issues one statement, or an idle task starts another program, in any
  session that `start` allows. The parameter `cond` is asked of the state in which a statement is
  issued, so that a theorem can be about the runs all of whose steps meet a condition.
* `Steps.rows_keep`: if every statement keeps a reflexive and transitive relation on rows, then
  so does every run, from committed rows to committed rows. Row locks make this work: between
  the first write of a session to a row and its commit nobody else writes the row.
* `Sys.Runs`: runs with their statements; `Runs.sat`: a program that keeps its contract keeps it
  among other tasks.
* `Sys.Move`, `Sys.runs`: an executable scheduler, and `runs_steps`: what it computes is a run.
-/

namespace Conc

open Relation

variable {S : Schema} {X : Lang} {Sid Tid : Type}

/-- A task: the session it works in and what it has still to do. -/
structure Task (S : Schema) (X : Lang) (Sid : Type) where
  sid : Sid
  prog : Prog (Sql S X) Unit

structure Sys (S : Schema) (X : Lang) (Sid Tid : Type) where
  store : Store S Sid
  task : Tid → Task S X Sid

/-! ## Rows under one statement -/

/-- The statement keeps the key of every row it would change in the tables `db`, and relates the
row to its new version. A change in memory does so for every row, since it is sent later. -/
def Stmt.Keeps (R : (t : S.Table) → S.Row t → S.Row t → Prop) (db : Db S) : Stmt S X → Prop
  | .update _ t p f => ∀ r ∈ (db t).rows, p r = true → S.key t (f r) = S.key t r ∧ R t r (f r)
  | .change t _ f => ∀ r, S.key t (f r) = S.key t r ∧ R t r (f r)
  | _ => True

namespace Store

variable {R : (t : S.Table) → S.Row t → S.Row t → Prop}

/-- Committed rows are related to the uncommitted versions of them, no row has uncommitted
versions in two sessions, and the changes that are not flushed keep the relation. -/
structure Inv (R : (t : S.Table) → S.Row t → S.Row t → Prop) (σ : Store S Sid) : Prop where
  mono : ∀ s t v, v ∈ σ.log s t → ∀ v₀, (σ.db t).get (S.key t v) = some v₀ → R t v₀ v
  excl : ∀ s s' t v v', s ≠ s' → v ∈ σ.log s t → v' ∈ σ.log s' t → S.key t v ≠ S.key t v'
  dirty : ∀ s, ∀ c ∈ σ.dirty s, ∀ r,
    S.key c.table (c.apply r) = S.key c.table r ∧ R c.table r (c.apply r)

/-- Rows that are committed stay, related to what they were. -/
def Grew (R : (t : S.Table) → S.Row t → S.Row t → Prop) (db db' : Db S) : Prop :=
  ∀ t k v, (db t).get k = some v → ∃ v', (db' t).get k = some v' ∧ R t v v'

theorem Grew.refl (hr : ∀ t r, R t r r) (db : Db S) : Grew R db db :=
  fun t _ v h => ⟨v, h, hr t v⟩

theorem Grew.trans (ht : ∀ t a b c, R t a b → R t b c → R t a c) {db db' db'' : Db S}
    (h : Grew R db db') (h' : Grew R db' db'') : Grew R db db'' := by
  intro t k v hv
  obtain ⟨v', hv', hr⟩ := h t k v hv
  obtain ⟨v'', hv'', hr'⟩ := h' t k v' hv'
  exact ⟨v'', hv'', ht t v v' v'' hr hr'⟩

variable [DecidableEq Sid]

theorem mem_log_discard {σ : Store S Sid} {s s' : Sid} {t : S.Table} {w} :
    w ∈ (σ.discard s).log s' t ↔ s' ≠ s ∧ w ∈ σ.log s' t := by
  by_cases h : s' = s
  · subst h; simp [discard]
  · simp [discard, h]

theorem mem_log_abort {σ : Store S Sid} {s s' : Sid} {t : S.Table} {w} :
    w ∈ (σ.abort s).log s' t ↔ s' ≠ s ∧ w ∈ σ.log s' t := by
  by_cases h : s' = s
  · subst h; simp [abort]
  · simp [abort, h]

theorem mem_log_commit {σ : Store S Sid} {s s' : Sid} {t : S.Table} {w} :
    w ∈ (σ.commit s).log s' t ↔ s' ≠ s ∧ w ∈ σ.log s' t := by
  by_cases h : s' = s
  · subst h; simp [commit]
  · simp [commit, h]

theorem mem_dirty_of_update {σ : Store S Sid} {s s' : Sid} {c : Change S}
    (h : c ∈ Function.update σ.dirty s [] s') : c ∈ σ.dirty s' := by
  by_cases hs : s' = s
  · subst hs; simp at h
  · rwa [Function.update_of_ne hs] at h

theorem Inv.discard {σ : Store S Sid} (h : Inv R σ) (s : Sid) : Inv R (σ.discard s) where
  mono s' t v hm := h.mono s' t v (mem_log_discard.1 hm).2
  excl s' s'' t v v' hne hm hm' :=
    h.excl s' s'' t v v' hne (mem_log_discard.1 hm).2 (mem_log_discard.1 hm').2
  dirty s' c hc := h.dirty s' c (mem_dirty_of_update hc)

theorem Inv.abort {σ : Store S Sid} (h : Inv R σ) (s : Sid) : Inv R (σ.abort s) where
  mono s' t v hm := h.mono s' t v (mem_log_abort.1 hm).2
  excl s' s'' t v v' hne hm hm' :=
    h.excl s' s'' t v v' hne (mem_log_abort.1 hm).2 (mem_log_abort.1 hm').2
  dirty := h.dirty

theorem Inv.commit {σ : Store S Sid} (h : Inv R σ) (s : Sid) : Inv R (σ.commit s) where
  mono s' t v hm v₀ hv₀ := by
    obtain ⟨hs, hm⟩ := mem_log_commit.1 hm
    have hkey : S.key t v₀ = S.key t v := (σ.view s t).keyed _ _ hv₀
    obtain hw | ⟨hv, _⟩ := Tbl.overlay_get hv₀
    · exact absurd hkey.symm (h.excl s' s t v v₀ hs hm hw)
    · exact h.mono s' t v hm v₀ hv
  excl s' s'' t v v' hne hm hm' :=
    h.excl s' s'' t v v' hne (mem_log_commit.1 hm).2 (mem_log_commit.1 hm').2
  dirty := h.dirty

theorem Inv.commit_grew {σ : Store S Sid} (h : Inv R σ) (hr : ∀ t r, R t r r) (s : Sid) :
    Grew R σ.db (σ.commit s).db := by
  intro t k v hv
  obtain ⟨v', hv'⟩ := Tbl.overlay_get_isSome (σ.log s t) hv
  refine ⟨v', hv', ?_⟩
  have hkey : S.key t v' = k := (σ.view s t).keyed _ _ hv'
  obtain hw | ⟨he, _⟩ := Tbl.overlay_get hv'
  · exact h.mono s t v' hw v (by rw [hkey]; exact hv)
  · rw [hv] at he; cases he; exact hr t v

variable [DecidableEq S.Table]

@[simp] theorem db_write (σ : Store S Sid) (s : Sid) (t : S.Table) (ws) :
    (σ.write s t ws).db = σ.db := rfl

@[simp] theorem db_load (σ : Store S Sid) (s : Sid) (t : S.Table) (ws) :
    (σ.load s t ws).db = σ.db := rfl

@[simp] theorem log_load (σ : Store S Sid) (s : Sid) (t : S.Table) (ws) :
    (σ.load s t ws).log = σ.log := rfl

theorem mem_log_write {σ : Store S Sid} {s s' : Sid} {t : S.Table} {ws} {t' : S.Table} {w} :
    w ∈ (σ.write s t ws).log s' t' ↔
      w ∈ σ.log s' t' ∨ s' = s ∧ ∃ h : t = t', h ▸ w ∈ ws := by
  by_cases hs : s' = s
  · subst hs
    by_cases ht : t = t'
    · subst ht; simp [write]
    · simp [write, ht, Function.update_of_ne (Ne.symm ht)]
  · simp [write, hs]

theorem Inv.load {σ : Store S Sid} (h : Inv R σ) (s : Sid) (t : S.Table) (ws) :
    Inv R (σ.load s t ws) := ⟨h.mono, h.excl, h.dirty⟩

/-- A session that writes rows nobody else has written, each related to the row it sees. -/
theorem Inv.write {σ : Store S Sid} (h : Inv R σ) (htr : ∀ t a b c, R t a b → R t b c → R t a c)
    {s : Sid} {t : S.Table} {ws : List (S.Row t)}
    (hfree : ∀ v ∈ ws, ¬ σ.Locked s t (S.key t v))
    (hrel : ∀ v ∈ ws, ∀ u, ((σ.view s) t).get (S.key t v) = some u → R t u v) :
    Inv R (σ.write s t ws) where
  mono s' t' v hm v₀ hv₀ := by
    obtain hm | ⟨rfl, rfl, hm⟩ := mem_log_write.1 hm
    · exact h.mono s' t' v hm v₀ hv₀
    · obtain ⟨u, hu⟩ := Tbl.overlay_get_isSome (σ.log s' t) hv₀
      have hr := hrel v hm u hu
      have hkey : S.key t u = S.key t v := (σ.view s' t).keyed _ _ hu
      obtain hm' | ⟨hu', _⟩ := Tbl.overlay_get hu
      · exact htr t v₀ u v (h.mono s' t u hm' v₀ (by rw [hkey]; exact hv₀)) hr
      · have hu₀ : (σ.db t).get (S.key t v) = some u := hu'
        have hv₁ : (σ.db t).get (S.key t v) = some v₀ := hv₀
        rw [hu₀] at hv₁
        cases hv₁
        exact hr
  excl s' s'' t' v v' hne hm hm' := by
    obtain hl | ⟨hs, ht, hl⟩ := mem_log_write.1 hm <;>
      obtain hl' | ⟨hs', ht', hl'⟩ := mem_log_write.1 hm'
    · exact h.excl s' s'' t' v v' hne hl hl'
    · subst hs' ht'
      exact fun e => hfree v' hl' ⟨s', hne, v, hl, e⟩
    · subst hs ht
      exact fun e => hfree v hl ⟨s'', hne.symm, v', hl', e.symm⟩
    · exact absurd (hs.trans hs'.symm) hne
  dirty := h.dirty

theorem Inv.change {σ : Store S Sid} (h : Inv R σ) {s : Sid} {c : Change S}
    (hc : ∀ r, S.key c.table (c.apply r) = S.key c.table r ∧ R c.table r (c.apply r)) :
    Inv R (σ.change s c) where
  mono := h.mono
  excl := h.excl
  dirty s' c' hc' := by
    simp only [Store.change] at hc'
    by_cases hs : s' = s
    · subst hs
      rw [Function.update_self, List.mem_append, List.mem_singleton] at hc'
      obtain hc' | rfl := hc'
      · exact h.dirty s' c' hc'
      · exact hc
    · rw [Function.update_of_ne hs] at hc'
      exact h.dirty s' c' hc'

/-! ### Flushing -/

theorem send_db (s : Sid) (σ : Store S Sid) (c : Change S) : (send s σ c).db = σ.db := by
  unfold send
  split <;> rfl

theorem send_log_of_ne {s s' : Sid} (σ : Store S Sid) (c : Change S) (hs : s' ≠ s) :
    (send s σ c).log s' = σ.log s' := by
  unfold send
  split
  · simp [write, hs]
  · rfl

/-- What every single change keeps, a flush keeps. -/
theorem flush_rule {σ : Store S Sid} {s : Sid} {P : Store S Sid → Prop}
    (hsend : ∀ τ, ∀ c ∈ σ.dirty s, P τ → P (send s τ c)) (hclean : ∀ τ, P τ → P (τ.clean s))
    (h : P σ) : P (σ.flush s) := by
  have hfold : ∀ cs : List (Change S), (∀ c ∈ cs, c ∈ σ.dirty s) →
      ∀ τ, P τ → P (cs.foldl (send s) τ) := by
    intro cs
    induction cs with
    | nil => exact fun _ τ hτ => hτ
    | cons c cs ih =>
      intro hcs τ hτ
      rw [List.foldl_cons]
      exact ih (fun c' hc' => hcs c' (List.mem_cons_of_mem c hc')) _
        (hsend τ c (hcs c List.mem_cons_self) hτ)
  exact hclean _ (hfold _ (fun _ hc => hc) σ h)

@[simp] theorem flush_db (σ : Store S Sid) (s : Sid) : (σ.flush s).db = σ.db :=
  flush_rule (P := fun τ => τ.db = σ.db) (fun τ c _ hτ => (send_db s τ c).trans hτ)
    (fun _ hτ => hτ) rfl

theorem flush_log_of_ne {σ : Store S Sid} {s s' : Sid} (hs : s' ≠ s) :
    (σ.flush s).log s' = σ.log s' :=
  flush_rule (P := fun τ => τ.log s' = σ.log s')
    (fun τ c _ hτ => (send_log_of_ne τ c hs).trans hτ) (fun _ hτ => hτ) rfl

theorem flush_of_clean {σ : Store S Sid} {s : Sid} (h : σ.dirty s = []) : σ.flush s = σ := by
  rw [flush, h]
  simp only [List.foldl_nil, clean]
  congr 1
  rw [← h, Function.update_eq_self]

theorem Inv.send {σ : Store S Sid} (h : Inv R σ) (htr : ∀ t a b c, R t a b → R t b c → R t a c)
    {s : Sid} {c : Change S} (hfree : ¬ σ.Locked s c.table c.key)
    (hc : ∀ r, S.key c.table (c.apply r) = S.key c.table r ∧ R c.table r (c.apply r)) :
    Inv R (send s σ c) := by
  unfold Store.send
  split
  · rename_i r hr
    have hkey : S.key c.table r = c.key := (σ.view s c.table).keyed _ _ hr
    refine h.write htr (fun v hm => ?_) (fun v hm u hu => ?_)
    · rw [List.mem_singleton.1 hm, (hc r).1, hkey]
      exact hfree
    · rw [List.mem_singleton.1 hm, (hc r).1, hkey, hr, Option.some.injEq] at hu
      rw [List.mem_singleton.1 hm, ← hu]
      exact (hc r).2
  · exact h

theorem Inv.flush {σ : Store S Sid} (h : Inv R σ) (htr : ∀ t a b c, R t a b → R t b c → R t a c)
    {s : Sid} (hfree : σ.Flushable s) : Inv R (σ.flush s) := by
  refine (flush_rule (P := fun τ => Inv R τ ∧ ∀ s', s' ≠ s → τ.log s' = σ.log s')
    (fun τ c hc hτ => ⟨?_, fun s' hs => ?_⟩) (fun τ hτ => ⟨?_, hτ.2⟩) ⟨h, fun _ _ => rfl⟩).1
  · refine hτ.1.send htr ?_ (h.dirty s c hc)
    rintro ⟨s', hs, w, hw, hk⟩
    rw [hτ.2 s' hs] at hw
    exact hfree c hc ⟨s', hs, w, hw, hk⟩
  · rw [send_log_of_ne τ c hs, hτ.2 s' hs]
  · exact ⟨hτ.1.mono, hτ.1.excl, fun s' c hc => hτ.1.dirty s' c (mem_dirty_of_update hc)⟩

omit [DecidableEq Sid] [DecidableEq S.Table] in
theorem not_locked_of_insert {σ : Store S Sid} {s : Sid} {t : S.Table} {r : S.Row t}
    (h : ∀ s', s' ≠ s → ∀ w ∈ σ.log s' t, S.key t w ≠ S.key t r ∧ S.clash t w r = false) :
    ¬ σ.Locked s t (S.key t r) := by
  rintro ⟨s', hs, w, hw, hk⟩
  exact (h s' hs w hw).1 hk

/-- One statement keeps the invariant and the relation on committed rows. -/
theorem Inv.exec {σ σ' : Store S Sid} (h : Inv R σ) (hr : ∀ t r, R t r r)
    (htr : ∀ t a b c, R t a b → R t b c → R t a c) {s : Sid} {c : Stmt S X}
    {r : Except DbError c.Ans} (hk : c.Keeps R (σ.view s)) (he : Exec s σ c r σ') :
    Inv R σ' ∧ Grew R σ.db σ'.db := by
  have same : Inv R σ ∧ Grew R σ.db σ.db := ⟨h, .refl hr _⟩
  have aborted : Inv R (σ.abort s) ∧ Grew R σ.db (σ.abort s).db := ⟨h.abort s, .refl hr _⟩
  have discarded : Inv R (σ.discard s) ∧ Grew R σ.db (σ.discard s).db :=
    ⟨h.discard s, .refl hr _⟩
  cases c with
  | select t p =>
    cases r with
    | ok rows => obtain ⟨_, rfl⟩ := he; exact ⟨h.load .., .refl hr _⟩
    | error e => cases e <;> cases he; exact aborted
  | get t k =>
    cases r with
    | ok row => obtain ⟨_, rfl⟩ := he; exact ⟨h.load .., .refl hr _⟩
    | error e => cases e <;> cases he; exact aborted
  | update site t p f =>
    cases r with
    | ok ks =>
      obtain ⟨hfree, _, rfl⟩ := he
      refine ⟨h.write htr (fun v hm => ?_) (fun v hm u hu => ?_), .refl hr _⟩
      · obtain ⟨w, hw, rfl⟩ := List.mem_map.1 hm
        obtain ⟨hw, hp⟩ := List.mem_filter.1 hw
        rw [(hk w hw hp).1]
        exact hfree w hw hp
      · obtain ⟨w, hw, rfl⟩ := List.mem_map.1 hm
        obtain ⟨hw, hp⟩ := List.mem_filter.1 hw
        rw [(hk w hw hp).1, Tbl.mem_rows.1 hw, Option.some.injEq] at hu
        rw [← hu]
        exact (hk w hw hp).2
    | error e => cases e <;> cases he; exact aborted
  | insert t row =>
    cases r with
    | ok _ =>
      obtain ⟨hnew, hfree, rfl⟩ := he
      refine ⟨h.write htr (fun v hm => ?_) (fun v hm u hu => ?_), .refl hr _⟩
      · rw [List.mem_singleton.1 hm]
        exact not_locked_of_insert hfree
      · rw [List.mem_singleton.1 hm] at hu
        exact absurd (.inl (by rw [hu]; rfl)) hnew
    | error e =>
      cases e with
      | integrity => obtain ⟨_, rfl | rfl⟩ := he; exacts [same, discarded]
      | operational => cases he; exact discarded
  | change t k f =>
    cases r with
    | ok _ => cases he; exact ⟨h.change hk, .refl hr _⟩
    | error e => cases he
  | flush =>
    cases r with
    | ok _ =>
      obtain ⟨hfree, rfl⟩ := he
      rw [flush_db]
      exact ⟨h.flush htr hfree, .refl hr _⟩
    | error e => cases e <;> cases he; exact discarded
  | commit =>
    cases r with
    | ok _ =>
      obtain ⟨hfree, rfl⟩ := he
      have hf := h.flush htr hfree
      have hgrew := hf.commit_grew hr s
      rw [flush_db] at hgrew
      exact ⟨hf.commit s, hgrew⟩
    | error e => cases e <;> cases he; exact discarded
  | rollback =>
    cases r with
    | ok _ => cases he; exact discarded
    | error e => cases he
  | ext x =>
    cases r with
    | ok _ => cases he; exact same
    | error e => cases he

omit [DecidableEq S.Table] in
/-- Rows with several versions: what a commit publishes is a version of the log or the row that
was there before. -/
theorem commit_get {σ : Store S Sid} {s : Sid} {t : S.Table} {k : Nat} {v : S.Row t}
    (h : ((σ.commit s).db t).get k = some v) :
    (v ∈ σ.log s t ∧ S.key t v = k) ∨ (σ.db t).get k = some v := by
  have hkey : S.key t v = k := (σ.view s t).keyed _ _ h
  obtain hm | ⟨hv, _⟩ := Tbl.overlay_get h
  · exact .inl ⟨hm, hkey⟩
  · exact .inr hv

/-- Only a commit changes committed rows. -/
theorem Exec.db_eq {σ σ' : Store S Sid} {s : Sid} {c : Stmt S X} {r : Except DbError c.Ans}
    (h : Exec s σ c r σ') (hc : c ≠ .commit) : σ'.db = σ.db := by
  cases c with
  | select t p =>
    cases r with
    | ok rows => rw [h.2, db_load]
    | error e => cases e <;> cases h; rfl
  | get t k =>
    cases r with
    | ok row => rw [h.2, db_load]
    | error e => cases e <;> cases h; rfl
  | update site t p f =>
    cases r with
    | ok ks => rw [h.2.2, db_write]
    | error e => cases e <;> cases h; rfl
  | insert t row =>
    cases r with
    | ok _ => rw [h.2.2, db_write]
    | error e =>
      cases e with
      | integrity => obtain ⟨_, rfl | rfl⟩ := h <;> rfl
      | operational => cases h; rfl
  | change t k f =>
    cases r with
    | ok _ => cases h; rfl
    | error e => cases h
  | flush =>
    cases r with
    | ok _ => rw [h.2, flush_db]
    | error e => cases e <;> cases h; rfl
  | commit => exact absurd rfl hc
  | rollback =>
    cases r with
    | ok _ => cases h; rfl
    | error e => cases h
  | ext x =>
    cases r with
    | ok _ => cases h; rfl
    | error e => cases h

/-- A session writes its own log only. -/
theorem Exec.log_of_ne {σ σ' : Store S Sid} {s s' : Sid} {c : Stmt S X}
    {r : Except DbError c.Ans} (h : Exec s σ c r σ') (hs : s' ≠ s) : σ'.log s' = σ.log s' := by
  have hab : (σ.abort s).log s' = σ.log s' := by simp [abort, hs]
  have hd : (σ.discard s).log s' = σ.log s' := by simp [discard, hs]
  have hw : ∀ t ws, (σ.write s t ws).log s' = σ.log s' := fun t ws => by simp [write, hs]
  cases c with
  | select t p =>
    cases r with
    | ok rows => rw [h.2, log_load]
    | error e => cases e <;> cases h; exact hab
  | get t k =>
    cases r with
    | ok row => rw [h.2, log_load]
    | error e => cases e <;> cases h; exact hab
  | update site t p f =>
    cases r with
    | ok ks => rw [h.2.2]; exact hw _ _
    | error e => cases e <;> cases h; exact hab
  | insert t row =>
    cases r with
    | ok _ => rw [h.2.2]; exact hw _ _
    | error e =>
      cases e with
      | integrity =>
        obtain ⟨_, rfl | rfl⟩ := h
        · rfl
        · exact hd
      | operational => cases h; exact hd
  | change t k f =>
    cases r with
    | ok _ => cases h; rfl
    | error e => cases h
  | flush =>
    cases r with
    | ok _ => rw [h.2, flush_log_of_ne hs]
    | error e => cases e <;> cases h; exact hd
  | commit =>
    cases r with
    | ok _ => rw [h.2]; simp [commit, hs, flush_log_of_ne hs]
    | error e => cases e <;> cases h; exact hd
  | rollback =>
    cases r with
    | ok _ => cases h; exact hd
    | error e => cases h
  | ext x =>
    cases r with
    | ok _ => cases h; rfl
    | error e => cases h

theorem flush_dirty_of_ne {σ : Store S Sid} {s s' : Sid} (hs : s' ≠ s) :
    (σ.flush s).dirty s' = σ.dirty s' := by
  refine flush_rule (P := fun τ => τ.dirty s' = σ.dirty s') (fun τ c _ hτ => ?_)
    (fun τ hτ => ?_) rfl
  · unfold send
    split <;> exact hτ
  · simpa [clean, hs] using hτ

/-- A session has changes of its own only. -/
theorem Exec.dirty_of_ne {σ σ' : Store S Sid} {s s' : Sid} {c : Stmt S X}
    {r : Except DbError c.Ans} (h : Exec s σ c r σ') (hs : s' ≠ s) :
    σ'.dirty s' = σ.dirty s' := by
  have hd : (σ.discard s).dirty s' = σ.dirty s' := by simp [discard, hs]
  cases c with
  | select t p =>
    cases r with
    | ok rows => rw [h.2]; rfl
    | error e => cases e <;> cases h; rfl
  | get t k =>
    cases r with
    | ok row => rw [h.2]; rfl
    | error e => cases e <;> cases h; rfl
  | update site t p f =>
    cases r with
    | ok ks => rw [h.2.2]; rfl
    | error e => cases e <;> cases h; rfl
  | insert t row =>
    cases r with
    | ok _ => rw [h.2.2]; rfl
    | error e =>
      cases e with
      | integrity =>
        obtain ⟨_, rfl | rfl⟩ := h
        · rfl
        · exact hd
      | operational => cases h; exact hd
  | change t k f =>
    cases r with
    | ok _ => cases h; simp [change, hs]
    | error e => cases h
  | flush =>
    cases r with
    | ok _ => rw [h.2, flush_dirty_of_ne hs]
    | error e => cases e <;> cases h; exact hd
  | commit =>
    cases r with
    | ok _ => rw [h.2]; exact flush_dirty_of_ne hs
    | error e => cases e <;> cases h; exact hd
  | rollback =>
    cases r with
    | ok _ => cases h; exact hd
    | error e => cases h
  | ext x =>
    cases r with
    | ok _ => cases h; rfl
    | error e => cases h

end Store

/-! ## Runs -/

namespace Sys

variable [DecidableEq S.Table] [DecidableEq Sid] [DecidableEq Tid]

/-- Task `t` goes on with program `p` in session `s`. -/
def resume (σ : Sys S X Sid Tid) (t : Tid) (s : Sid) (p : Prog (Sql S X) Unit) :
    Tid → Task S X Sid := Function.update σ.task t ⟨s, p⟩

/-- One step of one task. Idle tasks start programs that satisfy `start`; a statement is issued
in a state that satisfies `cond`. -/
inductive Step (start : Tid → Sid → Prog (Sql S X) Unit → Prop)
    (cond : Sys S X Sid Tid → Tid → Stmt S X → Prop) : Sys S X Sid Tid → Sys S X Sid Tid → Prop
  | exec {σ : Sys S X Sid Tid} {t : Tid} {s : Sid} {c : Stmt S X}
      {k : Except DbError c.Ans → Prog (Sql S X) Unit} {r : Except DbError c.Ans}
      {store' : Store S Sid} (ht : σ.task t = ⟨s, .stmt c k⟩) (hc : cond σ t c)
      (he : Store.Exec s σ.store c r store') :
      Step start cond σ ⟨store', σ.resume t s (k r)⟩
  | start {σ : Sys S X Sid Tid} {t : Tid} {s : Sid} {p : Prog (Sql S X) Unit} (s' : Sid)
      (ht : σ.task t = ⟨s, .pure ()⟩) (hp : start t s' p) :
      Step start cond σ ⟨σ.store, σ.resume t s' p⟩

/-- Runs of any length. -/
abbrev Steps (start : Tid → Sid → Prog (Sql S X) Unit → Prop)
    (cond : Sys S X Sid Tid → Tid → Stmt S X → Prop) :
    Sys S X Sid Tid → Sys S X Sid Tid → Prop :=
  ReflTransGen (Step start cond)

variable {start : Tid → Sid → Prog (Sql S X) Unit → Prop}
  {cond : Sys S X Sid Tid → Tid → Stmt S X → Prop}

/-- No transaction is open, nothing waits to be flushed, and every task is idle or about to run
a program it may start. -/
structure Initial (start : Tid → Sid → Prog (Sql S X) Unit → Prop) (σ : Sys S X Sid Tid) :
    Prop where
  log : ∀ s t, σ.store.log s t = []
  dirty : ∀ s, σ.store.dirty s = []
  task : ∀ t, (σ.task t).prog = .pure () ∨ start t (σ.task t).sid (σ.task t).prog

omit [DecidableEq S.Table] [DecidableEq Sid] [DecidableEq Tid] in
theorem Initial.inv {σ : Sys S X Sid Tid} (h : Initial start σ)
    (R : (t : S.Table) → S.Row t → S.Row t → Prop) : σ.store.Inv R where
  mono s t v hm := by simp [h.log] at hm
  excl s s' t v v' _ hm := by simp [h.log] at hm
  dirty s c hc := by simp [h.dirty] at hc

/-- Every statement a task has still to issue satisfies `P` of the task and its session. -/
def AllTasks (P : Tid → Sid → Stmt S X → Prop) (σ : Sys S X Sid Tid) : Prop :=
  ∀ t, (σ.task t).prog.All (P t (σ.task t).sid)

omit [DecidableEq S.Table] [DecidableEq Sid] [DecidableEq Tid] in
theorem Initial.allTasks {P : Tid → Sid → Stmt S X → Prop}
    (hstart : ∀ t s p, start t s p → p.All (P t s)) {σ : Sys S X Sid Tid}
    (h : Initial start σ) : AllTasks P σ := by
  intro t
  obtain hp | hp := h.task t
  · rw [hp]; trivial
  · exact hstart _ _ _ hp

theorem AllTasks.step {P : Tid → Sid → Stmt S X → Prop}
    (hstart : ∀ t s p, start t s p → p.All (P t s)) {σ σ' : Sys S X Sid Tid}
    (h : AllTasks P σ) (hs : Step start cond σ σ') : AllTasks P σ' := by
  intro t'
  cases hs with
  | @exec t s c k r _ ht _ _ =>
    by_cases he : t' = t
    · subst he
      have hrest := h t'
      rw [ht] at hrest
      simpa [resume] using hrest.2 r
    · simpa [resume, he] using h t'
  | @start t s p s' ht hp =>
    by_cases he : t' = t
    · subst he; simpa [resume] using hstart _ _ p hp
    · simpa [resume, he] using h t'

theorem AllTasks.steps {P : Tid → Sid → Stmt S X → Prop}
    (hstart : ∀ t s p, start t s p → p.All (P t s)) {σ σ' : Sys S X Sid Tid}
    (h : AllTasks P σ) (hs : Steps start cond σ σ') : AllTasks P σ' := by
  induction hs with
  | refl => exact h
  | tail _ hstep ih => exact ih.step hstart hstep

/-- Runs keep what statements keep: if every statement that satisfies `P` and is issued
under `cond` relates the rows it changes by the preorder `R`, then a run whose tasks issue only
such statements relates every committed row to what is committed under its key later. -/
theorem Steps.rows_keep {R : (t : S.Table) → S.Row t → S.Row t → Prop} (hr : ∀ t r, R t r r)
    (htr : ∀ t a b c, R t a b → R t b c → R t a c) {P : Tid → Sid → Stmt S X → Prop}
    (hstart : ∀ t s p, start t s p → p.All (P t s))
    (hkeep : ∀ (σ : Sys S X Sid Tid) t c, P t (σ.task t).sid c → cond σ t c →
      c.Keeps R (σ.store.view (σ.task t).sid))
    {σ σ' : Sys S X Sid Tid} (hall : AllTasks P σ) (hinv : σ.store.Inv R)
    (h : Steps start cond σ σ') : σ'.store.Inv R ∧ Store.Grew R σ.store.db σ'.store.db := by
  induction h with
  | refl => exact ⟨hinv, .refl hr _⟩
  | @tail σ₁ σ₂ hrun hstep ih =>
    have hall₁ := hall.steps hstart hrun
    obtain ⟨hinv₁, hgrew⟩ := ih
    cases hstep with
    | @exec t s c k r store' ht hc he =>
      have hP := hall₁ t
      rw [ht] at hP
      have hk := hkeep σ₁ t c (by rw [ht]; exact hP.1) hc
      rw [ht] at hk
      obtain ⟨hinv₂, hgrew₂⟩ := hinv₁.exec hr htr hk he
      exact ⟨hinv₂, hgrew.trans htr hgrew₂⟩
    | start s' ht hp => exact ⟨hinv₁, hgrew⟩

/-! ### The statements of a run -/

/-- A statement of a run: the task that issued it, its session, the answer it got, and the stores
before and after. -/
structure Event (S : Schema) (X : Lang) (Sid Tid : Type) where
  task : Tid
  sid : Sid
  stmt : Stmt S X
  answer : Except DbError stmt.Ans
  before : Store S Sid
  after : Store S Sid

/-- Runs from `σ₀`, with their statements in the order in which they were issued. -/
inductive Runs (start : Tid → Sid → Prog (Sql S X) Unit → Prop)
    (cond : Sys S X Sid Tid → Tid → Stmt S X → Prop) (σ₀ : Sys S X Sid Tid) :
    List (Event S X Sid Tid) → Sys S X Sid Tid → Prop
  | refl : Runs start cond σ₀ [] σ₀
  | exec {es : List (Event S X Sid Tid)} {σ : Sys S X Sid Tid} {t : Tid} {s : Sid}
      {c : Stmt S X} {k : Except DbError c.Ans → Prog (Sql S X) Unit} {r : Except DbError c.Ans}
      {store' : Store S Sid} (h : Runs start cond σ₀ es σ) (ht : σ.task t = ⟨s, .stmt c k⟩)
      (hc : cond σ t c) (he : Store.Exec s σ.store c r store') :
      Runs start cond σ₀ (es ++ [⟨t, s, c, r, σ.store, store'⟩]) ⟨store', σ.resume t s (k r)⟩
  | start {es : List (Event S X Sid Tid)} {σ : Sys S X Sid Tid} {t : Tid} {s : Sid}
      {p : Prog (Sql S X) Unit} (s' : Sid) (h : Runs start cond σ₀ es σ)
      (ht : σ.task t = ⟨s, .pure ()⟩) (hp : start t s' p) :
      Runs start cond σ₀ es ⟨σ.store, σ.resume t s' p⟩

theorem Runs.steps {σ₀ σ : Sys S X Sid Tid} {es : List (Event S X Sid Tid)}
    (h : Runs start cond σ₀ es σ) : Steps start cond σ₀ σ := by
  induction h with
  | refl => exact .refl
  | exec _ ht hc he ih => exact ih.tail (.exec ht hc he)
  | start s' _ ht hp ih => exact ih.tail (.start s' ht hp)

/-- Every run has its statements. -/
theorem Steps.runs {σ₀ σ : Sys S X Sid Tid} (h : Steps start cond σ₀ σ) :
    ∃ es, Runs start cond σ₀ es σ := by
  induction h with
  | refl => exact ⟨[], .refl⟩
  | tail _ hstep ih =>
    obtain ⟨es, ih⟩ := ih
    cases hstep with
    | exec ht hc he => exact ⟨_, ih.exec ht hc he⟩
    | start s' ht hp => exact ⟨es, ih.start s' ht hp⟩

/-- A run of programs that `start` allows is a run of programs that `start'` allows. -/
theorem Runs.mono {start' : Tid → Sid → Prog (Sql S X) Unit → Prop}
    (hstart : ∀ t s p, start t s p → start' t s p) {σ₀ σ : Sys S X Sid Tid}
    {es : List (Event S X Sid Tid)} (h : Runs start cond σ₀ es σ) : Runs start' cond σ₀ es σ := by
  induction h with
  | refl => exact .refl
  | exec _ ht hc he ih => exact ih.exec ht hc he
  | start s' _ ht hp ih => exact ih.start s' ht (hstart _ _ _ hp)

/-- A session that only one task works in: the tasks that are elsewhere stay elsewhere. -/
theorem Runs.session_of {t₀ : Tid} {s₀ : Sid}
    (hstart : ∀ t s p, start t s p → s = s₀ → t = t₀) {σ₀ σ : Sys S X Sid Tid}
    (h₀ : ∀ t, (σ₀.task t).sid = s₀ → t = t₀) {es : List (Event S X Sid Tid)}
    (h : Runs start cond σ₀ es σ) :
    (∀ e ∈ es, e.sid = s₀ → e.task = t₀) ∧ ∀ t, (σ.task t).sid = s₀ → t = t₀ := by
  induction h with
  | refl => exact ⟨by simp, h₀⟩
  | @exec es σ t s c k r store' _ ht _ _ ih =>
    have hsid : s = s₀ → t = t₀ := fun hs => ih.2 t (by rw [ht]; exact hs)
    refine ⟨fun e he => ?_, fun t' => ?_⟩
    · obtain he | he := List.mem_append.1 he
      · exact ih.1 e he
      · rw [List.mem_singleton.1 he]
        exact hsid
    · by_cases htt : t' = t
      · subst htt
        simpa [resume] using hsid
      · simpa [resume, htt] using ih.2 t'
  | @start es σ t s p s' _ ht hp ih =>
    refine ⟨ih.1, fun t' => ?_⟩
    by_cases htt : t' = t
    · subst htt
      simpa [resume] using hstart t' s' p hp
    · simpa [resume, htt] using ih.2 t'

/-- One task among others. A task whose program meets a contract over the abstraction `abs` of
the run so far goes on meeting it, if its own steps are answered as the contract says and the
steps of all other tasks are what the contract lets happen meanwhile. `K` is what is known of
every state of the run. -/
theorem Runs.sat {G : Type} {C : Prog.Contract (Sql S X) G} {Q : G → Prop}
    {K : Sys S X Sid Tid → Prop} {t₀ : Tid} {s₀ : Sid}
    (abs : List (Event S X Sid Tid) → Sys S X Sid Tid → G) (hidle : ∀ s p, ¬ start t₀ s p)
    (hown : ∀ es (σ : Sys S X Sid Tid) c k r store', K σ → σ.task t₀ = ⟨s₀, .stmt c k⟩ →
      cond σ t₀ c → Store.Exec s₀ σ.store c r store' →
      C.act (abs es σ) c r
        (abs (es ++ [⟨t₀, s₀, c, r, σ.store, store'⟩]) ⟨store', σ.resume t₀ s₀ (k r)⟩))
    (hrefl : ∀ c g, C.rely c g g)
    (htrans : ∀ c g g' g'', C.rely c g g' → C.rely c g' g'' → C.rely c g g'')
    (hother : ∀ es (σ : Sys S X Sid Tid) t s c k r store', K σ → t ≠ t₀ →
      σ.task t = ⟨s, .stmt c k⟩ → cond σ t c → Store.Exec s σ.store c r store' →
      let g' := abs (es ++ [⟨t, s, c, r, σ.store, store'⟩]) ⟨store', σ.resume t s (k r)⟩
      (∀ c₀, C.rely c₀ (abs es σ) g') ∧ (Q (abs es σ) → Q g'))
    (hstart : ∀ es (σ : Sys S X Sid Tid) t s s' p, K σ → t ≠ t₀ → σ.task t = ⟨s, .pure ()⟩ →
      start t s' p → (∀ c₀, C.rely c₀ (abs es σ) (abs es ⟨σ.store, σ.resume t s' p⟩)) ∧
        (Q (abs es σ) → Q (abs es ⟨σ.store, σ.resume t s' p⟩)))
    {σ₀ σ : Sys S X Sid Tid} (hK : ∀ σ₁, Steps start cond σ₀ σ₁ → K σ₁)
    {p : Prog (Sql S X) Unit} (hp : σ₀.task t₀ = ⟨s₀, p⟩)
    (hsat : p.Sat C (abs [] σ₀) fun _ => Q) {es : List (Event S X Sid Tid)}
    (h : Runs start cond σ₀ es σ) :
    ∃ p', σ.task t₀ = ⟨s₀, p'⟩ ∧ p'.Sat C (abs es σ) fun _ => Q := by
  -- what a move of another task leaves of a program that keeps the contract
  have pass : ∀ {p₁ : Prog (Sql S X) Unit} {g g' : G}, p₁.Sat C g (fun _ => Q) →
      (∀ c₀, C.rely c₀ g g') ∧ (Q g → Q g') → p₁.Sat C g' fun _ => Q := by
    rintro p₁ g g' hsat₁ ⟨hrely, hq⟩
    cases p₁ with
    | pure a => exact hq hsat₁
    | stmt c₀ k₀ => exact fun g'' hg => hsat₁ g'' (htrans _ _ _ _ (hrely c₀) hg)
  induction h with
  | refl => exact ⟨p, hp, hsat⟩
  | @exec es₁ σ₁ t s c k r store' hrun ht hc he ih =>
    obtain ⟨p₁, hp₁, hsat₁⟩ := ih
    have hK₁ := hK σ₁ hrun.steps
    by_cases htt : t = t₀
    · subst htt
      rw [ht] at hp₁
      cases hp₁
      refine ⟨k r, by simp [resume], ?_⟩
      exact (hsat₁ _ (hrefl c _)).2 r _ (hown es₁ σ₁ c k r store' hK₁ ht hc he)
    · refine ⟨p₁, by simp [resume, Ne.symm htt, hp₁], ?_⟩
      exact pass hsat₁ (hother es₁ σ₁ t s c k r store' hK₁ htt ht hc he)
  | @start es₁ σ₁ t s p' s' hrun ht hst ih =>
    obtain ⟨p₁, hp₁, hsat₁⟩ := ih
    have htt : t ≠ t₀ := fun e => hidle _ _ (e ▸ hst)
    refine ⟨p₁, by simp [resume, Ne.symm htt, hp₁], ?_⟩
    exact pass hsat₁ (hstart es₁ σ₁ t s s' p' (hK σ₁ hrun.steps) htt ht hst)

/-- `Runs.sat` for a contract about the states only. -/
theorem Steps.sat {G : Type} {C : Prog.Contract (Sql S X) G} {Q : G → Prop}
    {K : Sys S X Sid Tid → Prop} {t₀ : Tid} {s₀ : Sid} (abs : Sys S X Sid Tid → G)
    (hidle : ∀ s p, ¬ start t₀ s p)
    (hown : ∀ (σ : Sys S X Sid Tid) c k r store', K σ → σ.task t₀ = ⟨s₀, .stmt c k⟩ →
      cond σ t₀ c → Store.Exec s₀ σ.store c r store' →
      C.act (abs σ) c r (abs ⟨store', σ.resume t₀ s₀ (k r)⟩))
    (hrefl : ∀ c g, C.rely c g g)
    (htrans : ∀ c g g' g'', C.rely c g g' → C.rely c g' g'' → C.rely c g g'')
    (hother : ∀ (σ : Sys S X Sid Tid) t s c k r store', K σ → t ≠ t₀ →
      σ.task t = ⟨s, .stmt c k⟩ → cond σ t c → Store.Exec s σ.store c r store' →
      (∀ c₀, C.rely c₀ (abs σ) (abs ⟨store', σ.resume t s (k r)⟩)) ∧
        (Q (abs σ) → Q (abs ⟨store', σ.resume t s (k r)⟩)))
    (hstart : ∀ (σ : Sys S X Sid Tid) t s s' p, K σ → t ≠ t₀ → σ.task t = ⟨s, .pure ()⟩ →
      start t s' p → (∀ c₀, C.rely c₀ (abs σ) (abs ⟨σ.store, σ.resume t s' p⟩)) ∧
        (Q (abs σ) → Q (abs ⟨σ.store, σ.resume t s' p⟩)))
    {σ σ' : Sys S X Sid Tid} (hK : ∀ σ₁, Steps start cond σ σ₁ → K σ₁)
    {p : Prog (Sql S X) Unit} (hp : σ.task t₀ = ⟨s₀, p⟩) (hsat : p.Sat C (abs σ) fun _ => Q)
    (h : Steps start cond σ σ') :
    ∃ p', σ'.task t₀ = ⟨s₀, p'⟩ ∧ p'.Sat C (abs σ') fun _ => Q := by
  obtain ⟨es, hruns⟩ := h.runs
  exact hruns.sat (fun _ => abs) hidle (fun _ => hown) hrefl htrans (fun _ => hother)
    (fun _ => hstart) hK hp hsat

end Sys

/-! ## An executable scheduler -/

namespace Store

variable [DecidableEq S.Table] [DecidableEq Sid] [Fintype Sid]

/-- No row that session `s` has changed is locked by another session. -/
def unlocked (s : Sid) (σ : Store S Sid) : Bool :=
  decide (∀ c ∈ σ.dirty s, ∀ s', s' ≠ s → ∀ w ∈ σ.log s' c.table, S.key c.table w ≠ c.key)

omit [DecidableEq S.Table] in
theorem flushable_of_unlocked {s : Sid} {σ : Store S Sid} (h : σ.unlocked s = true) :
    σ.Flushable s := by
  rintro c hc ⟨s', hs, w, hw, hk⟩
  exact of_decide_eq_true h c hc s' hs w hw hk

/-- What the database answers when it does not fail and serves every row fresh; `ans` answers
the outside statements. `none`: the statement waits for a lock. -/
def answer (ans : (x : X.Stmt) → X.Resp x) (s : Sid) (σ : Store S Sid) :
    (c : Stmt S X) → Option (Except DbError c.Ans × Store S Sid)
  | .select t p =>
    let rows := ((σ.view s) t).rows.filter p
    some (.ok rows, σ.load s t rows)
  | .get t k =>
    let r := ((σ.view s) t).get k
    some (.ok r, σ.load s t r.toList)
  | .update _ t p f =>
    let hits := ((σ.view s) t).rows.filter p
    if ∀ r ∈ hits, ∀ s', s' ≠ s → ∀ w ∈ σ.log s' t, S.key t w ≠ S.key t r then
      some (.ok (hits.map (S.key t)), σ.write s t (hits.map f))
    else none
  | .insert t r =>
    let T := (σ.view s) t
    if (T.get (S.key t r)).isSome ∨ ∃ r' ∈ T.rows, S.clash t r' r = true then
      some (.error .integrity, σ)
    else if ∀ s', s' ≠ s → ∀ w ∈ σ.log s' t, S.key t w ≠ S.key t r ∧ S.clash t w r = false then
      some (.ok (), σ.write s t [r])
    else none
  | .change t k f => some (.ok (), σ.change s ⟨t, k, f⟩)
  | .flush => if σ.unlocked s then some (.ok (), σ.flush s) else none
  | .commit => if σ.unlocked s then some (.ok (), (σ.flush s).commit s) else none
  | .rollback => some (.ok (), σ.discard s)
  | .ext x => some (.ok (ans x), σ)

theorem answer_exec {ans : (x : X.Stmt) → X.Resp x} {s : Sid} {σ σ' : Store S Sid}
    {c : Stmt S X} {r : Except DbError c.Ans} (h : σ.answer ans s c = some (r, σ')) :
    Exec s σ c r σ' := by
  cases c with
  | select t p =>
    simp only [answer, Option.some.injEq, Prod.mk.injEq] at h
    obtain ⟨rfl, rfl⟩ := h
    exact ⟨.refl _, rfl⟩
  | get t k =>
    simp only [answer, Option.some.injEq, Prod.mk.injEq] at h
    obtain ⟨rfl, rfl⟩ := h
    exact ⟨.inl rfl, rfl⟩
  | update site t p f =>
    simp only [answer] at h
    split at h
    · rename_i hfree
      simp only [Option.some.injEq, Prod.mk.injEq] at h
      obtain ⟨rfl, rfl⟩ := h
      refine ⟨fun r hr hp hl => ?_, rfl, rfl⟩
      obtain ⟨s', hs, w, hw, he⟩ := hl
      exact hfree r (List.mem_filter.2 ⟨hr, hp⟩) s' hs w hw he
    · cases h
  | insert t row =>
    simp only [answer] at h
    split at h
    · rename_i ht
      simp only [Option.some.injEq, Prod.mk.injEq] at h
      obtain ⟨rfl, rfl⟩ := h
      exact ⟨ht, .inl rfl⟩
    · rename_i ht
      split at h
      · rename_i hfree
        simp only [Option.some.injEq, Prod.mk.injEq] at h
        obtain ⟨rfl, rfl⟩ := h
        exact ⟨ht, hfree, rfl⟩
      · cases h
  | change t k f =>
    simp only [answer, Option.some.injEq, Prod.mk.injEq] at h
    obtain ⟨rfl, rfl⟩ := h
    rfl
  | flush =>
    simp only [answer] at h
    split at h
    · simp only [Option.some.injEq, Prod.mk.injEq] at h
      obtain ⟨rfl, rfl⟩ := h
      exact ⟨flushable_of_unlocked ‹_›, rfl⟩
    · cases h
  | commit =>
    simp only [answer] at h
    split at h
    · simp only [Option.some.injEq, Prod.mk.injEq] at h
      obtain ⟨rfl, rfl⟩ := h
      exact ⟨flushable_of_unlocked ‹_›, rfl⟩
    · cases h
  | rollback =>
    simp only [answer, Option.some.injEq, Prod.mk.injEq] at h
    obtain ⟨rfl, rfl⟩ := h
    rfl
  | ext x =>
    simp only [answer, Option.some.injEq, Prod.mk.injEq] at h
    obtain ⟨rfl, rfl⟩ := h
    rfl

end Store

namespace Sys

variable [DecidableEq S.Table] [DecidableEq Sid] [DecidableEq Tid] [Fintype Sid]

/-- A scheduling decision: `task` issues its next `count` statements, and outside statements
are answered by `ans`. -/
structure Move (X : Lang) (Tid : Type) where
  task : Tid
  count : Nat
  ans : (x : X.Stmt) → X.Resp x

variable (cond : Sys S X Sid Tid → Tid → Stmt S X → Prop) [∀ σ t c, Decidable (cond σ t c)]

/-- `none`: the task is idle, waits for a lock, or would break `cond`. -/
def issueOne (t : Tid) (ans : (x : X.Stmt) → X.Resp x) (σ : Sys S X Sid Tid) :
    Option (Sys S X Sid Tid) :=
  match σ.task t with
  | ⟨s, .stmt c k⟩ =>
    if cond σ t c then
      match σ.store.answer ans s c with
      | some (r, store') => some ⟨store', σ.resume t s (k r)⟩
      | none => none
    else none
  | ⟨_, .pure _⟩ => none

def issueMany (t : Tid) (ans : (x : X.Stmt) → X.Resp x) :
    Nat → Sys S X Sid Tid → Option (Sys S X Sid Tid)
  | 0, σ => some σ
  | n + 1, σ => (σ.issueOne cond t ans).bind (issueMany t ans n)

def runs : List (Move X Tid) → Sys S X Sid Tid → Option (Sys S X Sid Tid)
  | [], σ => some σ
  | m :: ms, σ => (issueMany cond m.task m.ans m.count σ).bind (runs ms)

variable {cond} {start : Tid → Sid → Prog (Sql S X) Unit → Prop}

theorem issueOne_step {t : Tid} {ans : (x : X.Stmt) → X.Resp x} {σ σ' : Sys S X Sid Tid}
    (h : σ.issueOne cond t ans = some σ') : Step start cond σ σ' := by
  unfold issueOne at h
  split at h
  · rename_i s c k ht
    split at h
    · rename_i hc
      split at h
      · rename_i r store' ha
        cases h
        exact .exec ht hc (Store.answer_exec ha)
      · cases h
    · cases h
  · cases h

theorem issueMany_steps {t : Tid} {ans : (x : X.Stmt) → X.Resp x} {n : Nat} :
    ∀ {σ σ' : Sys S X Sid Tid}, issueMany cond t ans n σ = some σ' → Steps start cond σ σ' := by
  induction n with
  | zero => intro σ σ' h; cases h; exact .refl
  | succ n ih =>
    intro σ σ' h
    obtain ⟨σ₁, h₁, h₂⟩ := Option.bind_eq_some_iff.1 h
    exact .head (issueOne_step h₁) (ih h₂)

/-- What the scheduler computes is a run. -/
theorem runs_steps {ms : List (Move X Tid)} : ∀ {σ σ' : Sys S X Sid Tid},
    runs cond ms σ = some σ' → Steps start cond σ σ' := by
  induction ms with
  | nil => intro σ σ' h; cases h; exact .refl
  | cons m ms ih =>
    intro σ σ' h
    obtain ⟨σ₁, h₁, h₂⟩ := Option.bind_eq_some_iff.1 h
    exact (issueMany_steps h₁).trans (ih h₂)

end Sys
end Conc
