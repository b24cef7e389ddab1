import NetOps.Conc.System

/-!
# Conc.Rows

Predicates that hold of every row version, committed or not.

`Steps.rows_keep` relates a row to its later versions; here a predicate is kept of all rows,
also of those that a run adds.

* `Stmt.Makes P`: the row versions a statement writes satisfy `P` if those it starts from do.
* `Store.Holds P`: committed rows and uncommitted versions satisfy `P`, and the changes that are
  not flushed keep it.
* `Steps.rows_hold`: if every statement makes rows of `P`, every run keeps `Holds P`.
-/

namespace Conc

variable {S : Schema} {X : Lang} {Sid Tid : Type}

/-- The statement writes only row versions that satisfy `P`, over rows of `db` that do. -/
def Stmt.Makes (P : (t : S.Table) → S.Row t → Prop) (db : Db S) : Stmt S X → Prop
  | .update _ t p f => ∀ r ∈ (db t).rows, p r = true → P t r → P t (f r)
  | .insert t r => P t r
  | .change t _ f => ∀ r, P t r → P t (f r)
  | _ => True

namespace Store

variable {P : (t : S.Table) → S.Row t → Prop}

structure Holds (P : (t : S.Table) → S.Row t → Prop) (σ : Store S Sid) : Prop where
  db : ∀ t k r, (σ.db t).get k = some r → P t r
  log : ∀ s t r, r ∈ σ.log s t → P t r
  dirty : ∀ s, ∀ c ∈ σ.dirty s, ∀ r, P c.table r → P c.table (c.apply r)

theorem Holds.view {σ : Store S Sid} (h : Holds P σ) {s : Sid} {t : S.Table} {k : Nat}
    {r : S.Row t} (hr : (σ.view s t).get k = some r) : P t r := by
  obtain hm | ⟨hd, _⟩ := Tbl.overlay_get hr
  · exact h.log s t r hm
  · exact h.db t k r hd

theorem Holds.view_rows {σ : Store S Sid} (h : Holds P σ) {s : Sid} {t : S.Table} {r : S.Row t}
    (hr : r ∈ (σ.view s t).rows) : P t r :=
  h.view (Tbl.mem_rows.1 hr)

variable [DecidableEq Sid]

theorem Holds.discard {σ : Store S Sid} (h : Holds P σ) (s : Sid) : Holds P (σ.discard s) where
  db := h.db
  log s' t r hm := h.log s' t r (mem_log_discard.1 hm).2
  dirty s' c hc := h.dirty s' c (mem_dirty_of_update hc)

theorem Holds.abort {σ : Store S Sid} (h : Holds P σ) (s : Sid) : Holds P (σ.abort s) where
  db := h.db
  log s' t r hm := h.log s' t r (mem_log_abort.1 hm).2
  dirty := h.dirty

theorem Holds.commit {σ : Store S Sid} (h : Holds P σ) (s : Sid) : Holds P (σ.commit s) where
  db _ _ _ hr := h.view hr
  log s' t r hm := h.log s' t r (mem_log_commit.1 hm).2
  dirty := h.dirty

variable [DecidableEq S.Table]

theorem Holds.load {σ : Store S Sid} (h : Holds P σ) (s : Sid) (t : S.Table) (ws) :
    Holds P (σ.load s t ws) := ⟨h.db, h.log, h.dirty⟩

theorem Holds.write {σ : Store S Sid} (h : Holds P σ) {s : Sid} {t : S.Table}
    {ws : List (S.Row t)} (hws : ∀ w ∈ ws, P t w) : Holds P (σ.write s t ws) where
  db := h.db
  log s' t' r hm := by
    obtain hm | ⟨_, rfl, hm⟩ := mem_log_write.1 hm
    · exact h.log s' t' r hm
    · exact hws r hm
  dirty := h.dirty

theorem Holds.change {σ : Store S Sid} (h : Holds P σ) {s : Sid} {c : Change S}
    (hc : ∀ r, P c.table r → P c.table (c.apply r)) : Holds P (σ.change s c) where
  db := h.db
  log := h.log
  dirty s' c' hc' := by
    simp only [Store.change] at hc'
    by_cases hs : s' = s
    · subst hs
      rw [Function.update_self, List.mem_append, List.mem_singleton] at hc'
      obtain hc' | rfl := hc'
      · exact h.dirty s' c' hc'
      · exact hc
    · rw [Function.update_of_ne hs] at hc'
      exact h.dirty s' c' hc'

theorem Holds.send {σ : Store S Sid} (h : Holds P σ) {s : Sid} {c : Change S}
    (hc : ∀ r, P c.table r → P c.table (c.apply r)) : Holds P (send s σ c) := by
  unfold Store.send
  split
  · rename_i r hr
    refine h.write fun w hw => ?_
    rw [List.mem_singleton.1 hw]
    exact hc r (h.view hr)
  · exact h

theorem Holds.flush {σ : Store S Sid} (h : Holds P σ) (s : Sid) : Holds P (σ.flush s) := by
  refine flush_rule (P := Holds P) (fun τ c hc hτ => hτ.send (h.dirty s c hc)) (fun τ hτ => ?_) h
  exact ⟨hτ.db, hτ.log, fun s' c hc => hτ.dirty s' c (mem_dirty_of_update hc)⟩

/-- One statement keeps the predicate. -/
theorem Holds.exec {σ σ' : Store S Sid} (h : Holds P σ) {s : Sid} {c : Stmt S X}
    {r : Except DbError c.Ans} (hm : c.Makes P (σ.view s)) (he : Exec s σ c r σ') :
    Holds P σ' := by
  cases c with
  | select t p =>
    cases r with
    | ok rows => rw [he.2]; exact h.load ..
    | error e => cases e <;> cases he; exact h.abort s
  | get t k =>
    cases r with
    | ok row => rw [he.2]; exact h.load ..
    | error e => cases e <;> cases he; exact h.abort s
  | update site t p f =>
    cases r with
    | ok ks =>
      obtain ⟨_, _, rfl⟩ := he
      refine h.write fun w hw => ?_
      obtain ⟨v, hv, rfl⟩ := List.mem_map.1 hw
      obtain ⟨hv, hp⟩ := List.mem_filter.1 hv
      exact hm v hv hp (h.view_rows hv)
    | error e => cases e <;> cases he; exact h.abort s
  | insert t row =>
    cases r with
    | ok _ =>
      obtain ⟨_, _, rfl⟩ := he
      refine h.write fun w hw => ?_
      rw [List.mem_singleton.1 hw]
      exact hm
    | error e =>
      cases e with
      | integrity =>
        obtain ⟨_, rfl | rfl⟩ := he
        · exact h
        · exact h.discard s
      | operational => cases he; exact h.discard s
  | change t k f =>
    cases r with
    | ok _ => cases he; exact h.change hm
    | error e => cases he
  | flush =>
    cases r with
    | ok _ => rw [he.2]; exact h.flush s
    | error e => cases e <;> cases he; exact h.discard s
  | commit =>
    cases r with
    | ok _ => rw [he.2]; exact (h.flush s).commit s
    | error e => cases e <;> cases he; exact h.discard s
  | rollback =>
    cases r with
    | ok _ => cases he; exact h.discard s
    | error e => cases he
  | ext x =>
    cases r with
    | ok _ => cases he; exact h
    | error e => cases he

end Store

namespace Sys

variable [DecidableEq S.Table] [DecidableEq Sid] [DecidableEq Tid]
  {start : Tid → Sid → Prog (Sql S X) Unit → Prop}
  {cond : Sys S X Sid Tid → Tid → Stmt S X → Prop}

omit [DecidableEq S.Table] [DecidableEq Sid] [DecidableEq Tid] in
theorem Initial.holds {P : (t : S.Table) → S.Row t → Prop} {σ : Sys S X Sid Tid}
    (h : Initial start σ) (hdb : ∀ t k r, (σ.store.db t).get k = some r → P t r) :
    σ.store.Holds P where
  db := hdb
  log s t r hm := by simp [h.log] at hm
  dirty s c hc := by simp [h.dirty] at hc

/-- If every statement that satisfies `Q` and is issued under `cond` makes rows of `P`, then a run
whose tasks issue only such statements keeps `P` of all rows. -/
theorem Steps.rows_hold {P : (t : S.Table) → S.Row t → Prop} {Q : Tid → Sid → Stmt S X → Prop}
    (hstart : ∀ t s p, start t s p → p.All (Q t s))
    (hmake : ∀ (σ : Sys S X Sid Tid) t c, Q t (σ.task t).sid c → cond σ t c →
      c.Makes P (σ.store.view (σ.task t).sid))
    {σ σ' : Sys S X Sid Tid} (hall : AllTasks Q σ) (hP : σ.store.Holds P)
    (h : Steps start cond σ σ') : σ'.store.Holds P := by
  induction h with
  | refl => exact hP
  | @tail σ₁ σ₂ hrun hstep ih =>
    have hall₁ := hall.steps hstart hrun
    cases hstep with
    | @exec t s c k r store' ht hc he =>
      have hQ := hall₁ t
      rw [ht] at hQ
      have hm := hmake σ₁ t c (by rw [ht]; exact hQ.1) hc
      rw [ht] at hm
      exact ih.exec hm he
    | start s' ht hp => exact ih

end Sys
end Conc
