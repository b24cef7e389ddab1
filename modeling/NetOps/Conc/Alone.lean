import NetOps.Conc.System

/-!
# Conc.Alone

One session by itself.

* `Store.pending`: the rows a session has once its changes are sent, and how each statement
  changes them (`pending_change`, `pending_insert`, `Exec.pending_eq`).
* `Prog.drive`: the program run to its end in one session, by the executable `Store.answer`, and
  what a contract says of that run (`Prog.Sat.drive`).
-/

namespace Conc

variable {S : Schema} {X : Lang} {Sid : Type} [DecidableEq S.Table] [DecidableEq Sid]

/-! ## The rows a session has -/

/-- Apply a change to the rows of table `t`. -/
def Change.applyTo (t : S.Table) (T : Tbl (S.Row t) (S.key t)) (c : Change S) :
    Tbl (S.Row t) (S.key t) :=
  if h : c.table = t then
    match T.get c.key with
    | some r => T.set (h ▸ c.apply (h.symm ▸ r))
    | none => T
  else T

omit [DecidableEq Sid] in
theorem Change.applyTo_ne {t : S.Table} {T : Tbl (S.Row t) (S.key t)} {c : Change S}
    (h : c.table ≠ t) : c.applyTo t T = T := by
  rw [applyTo, dif_neg h]

theorem Change.applyTo_some {t : S.Table} {T : Tbl (S.Row t) (S.key t)} {k : Nat}
    {f : S.Row t → S.Row t} {r : S.Row t} (h : T.get k = some r) :
    Change.applyTo t T ⟨t, k, f⟩ = T.set (f r) := by
  rw [applyTo, dif_pos rfl]
  simp only [h]

namespace Store

/-- The rows of table `t` that session `s` has once its changes are sent. -/
def pending (σ : Store S Sid) (s : Sid) (t : S.Table) : Tbl (S.Row t) (S.key t) :=
  (σ.dirty s).foldl (Change.applyTo t) (σ.view s t)

omit [DecidableEq Sid] in
theorem pending_congr {σ σ' : Store S Sid} {s : Sid} {t : S.Table}
    (hdb : σ'.db t = σ.db t) (hlog : σ'.log s = σ.log s) (hdirty : σ'.dirty s = σ.dirty s) :
    σ'.pending s t = σ.pending s t := by
  rw [pending, pending, view, view, hdb, hlog, hdirty]

theorem view_write (σ : Store S Sid) (s : Sid) (t : S.Table) (ws : List (S.Row t)) :
    (σ.write s t ws).view s t = (σ.view s t).overlay ws := by
  simp [view, write, load, Tbl.overlay_append]

theorem view_write_ne {σ : Store S Sid} {s : Sid} {t t' : S.Table} {ws : List (S.Row t)}
    (h : t ≠ t') : (σ.write s t ws).view s t' = σ.view s t' := by
  simp [view, write, load, Function.update_of_ne (Ne.symm h)]

/-- Sending a change applies it. -/
theorem view_send (σ : Store S Sid) (s : Sid) (c : Change S) (t : S.Table) :
    (send s σ c).view s t = c.applyTo t (σ.view s t) := by
  unfold send
  by_cases h : c.table = t
  · obtain ⟨t', k, f⟩ := c
    cases h
    cases hget : (σ.view s t').get k with
    | none => simp [Change.applyTo, hget]
    | some r =>
      rw [Change.applyTo_some hget]
      exact view_write σ s t' [f r]
  · rw [Change.applyTo_ne h]
    split
    · exact view_write_ne h
    · rfl

/-- What is pending is what a flush makes visible. -/
theorem view_flush (σ : Store S Sid) (s : Sid) (t : S.Table) :
    (σ.flush s).view s t = σ.pending s t := by
  have hfold : ∀ (cs : List (Change S)) (τ : Store S Sid),
      (cs.foldl (send s) τ).view s t = cs.foldl (Change.applyTo t) (τ.view s t) := by
    intro cs
    induction cs with
    | nil => exact fun _ => rfl
    | cons c cs ih =>
      intro τ
      rw [List.foldl_cons, List.foldl_cons, ih, view_send]
  exact hfold (σ.dirty s) σ

theorem pending_flush (σ : Store S Sid) (s : Sid) (t : S.Table) :
    (σ.flush s).pending s t = σ.pending s t := by
  have hclean : (σ.flush s).dirty s = [] := by simp [flush, clean]
  rw [pending, hclean, List.foldl_nil, view_flush]

theorem pending_change (σ : Store S Sid) (s : Sid) (c : Change S) (t : S.Table) :
    (σ.change s c).pending s t = c.applyTo t (σ.pending s t) := by
  simp [pending, change, view, load, List.foldl_append]

/-- Session `s` has no unsent change to table `t`. -/
def Sent (σ : Store S Sid) (s : Sid) (t : S.Table) : Prop := ∀ c ∈ σ.dirty s, c.table ≠ t

omit [DecidableEq Sid] in
/-- A session that has sent its changes sees what it has. -/
theorem Sent.pending_eq {σ : Store S Sid} {s : Sid} {t : S.Table} (h : σ.Sent s t) :
    σ.pending s t = σ.view s t := by
  unfold Sent at h
  unfold pending
  generalize σ.dirty s = cs at h
  induction cs with
  | nil => rfl
  | cons c cs ih =>
    rw [List.foldl_cons, Change.applyTo_ne (h c List.mem_cons_self)]
    exact ih fun c' hc' => h c' (List.mem_cons_of_mem c hc')

theorem pending_write_ne {σ : Store S Sid} {s : Sid} {t t' : S.Table} {ws : List (S.Row t)}
    (h : t ≠ t') : (σ.write s t ws).pending s t' = σ.pending s t' := by
  rw [pending, pending, view_write_ne h]
  rfl

end Store

/-- The statement writes nothing to table `t`, and ends no transaction. -/
def Stmt.OffTable (t : S.Table) : Stmt S X → Prop
  | .update _ t' _ _ => t' ≠ t
  | .insert t' _ => t' ≠ t
  | .change t' _ _ => t' ≠ t
  | .commit => False
  | .rollback => False
  | _ => True

/-- A statement that succeeds and writes nothing to table `t` changes nothing the session has of
it. -/
theorem Store.Exec.pending_eq {σ σ' : Store S Sid} {s : Sid} {t : S.Table} {c : Stmt S X}
    {a : c.Ans} (hc : c.OffTable t) (h : Store.Exec s σ c (.ok a) σ') :
    σ'.pending s t = σ.pending s t := by
  cases c with
  | select t' p => rw [h.2]; exact Store.pending_congr rfl rfl rfl
  | get t' k => rw [h.2]; exact Store.pending_congr rfl rfl rfl
  | update site t' p f => rw [h.2.2]; exact Store.pending_write_ne hc
  | insert t' r => rw [h.2.2]; exact Store.pending_write_ne hc
  | change t' k f =>
    rw [show σ' = _ from h, Store.pending_change]
    exact Change.applyTo_ne hc
  | flush => rw [h.2, Store.pending_flush]
  | commit => exact absurd hc id
  | rollback => exact absurd hc id
  | ext x => rw [show σ' = σ from h]

/-- Nor does it leave changes to it unsent. -/
theorem Store.Exec.sent {σ σ' : Store S Sid} {s : Sid} {t : S.Table} {c : Stmt S X}
    {a : c.Ans} (hc : c.OffTable t) (h : Store.Exec s σ c (.ok a) σ') (hs : σ.Sent s t) :
    σ'.Sent s t := by
  cases c with
  | select t' p => rw [h.2]; exact hs
  | get t' k => rw [h.2]; exact hs
  | update site t' p f => rw [h.2.2]; exact hs
  | insert t' r => rw [h.2.2]; exact hs
  | change t' k f =>
    rw [show σ' = _ from h]
    intro c hmem
    simp only [Store.change, Function.update_self, List.mem_append, List.mem_singleton] at hmem
    rcases hmem with hold | rfl
    · exact hs c hold
    · exact hc
  | flush =>
    rw [h.2]
    intro c hmem
    simp [Store.flush, Store.clean] at hmem
  | commit => exact absurd hc id
  | rollback => exact absurd hc id
  | ext x => rw [show σ' = σ from h]; exact hs

/-- A row that is inserted is there. -/
theorem Store.Sent.pending_insert {σ : Store S Sid} {s : Sid} {t : S.Table} (h : σ.Sent s t)
    (r : S.Row t) : (σ.write s t [r]).pending s t = (σ.pending s t).set r := by
  have hsent : (σ.write s t [r]).Sent s t := h
  rw [hsent.pending_eq, Store.view_write, h.pending_eq]
  rfl

/-! ## Running a program in one session -/

/-- `Store.answer`, with the rows of a `select` in the opposite order. -/
def Store.answerBack [Fintype Sid] (ans : (x : X.Stmt) → X.Resp x) (s : Sid) (σ : Store S Sid) :
    (c : Stmt S X) → Option (Except DbError c.Ans × Store S Sid)
  | .select t p =>
    let rows := ((σ.view s t).rows.filter p).reverse
    some (.ok rows, σ.load s t rows)
  | c => σ.answer ans s c

theorem Store.answerBack_exec [Fintype Sid] {ans : (x : X.Stmt) → X.Resp x} {s : Sid}
    {σ σ' : Store S Sid} {c : Stmt S X} {r : Except DbError c.Ans}
    (h : σ.answerBack ans s c = some (r, σ')) :
    Store.Exec s σ c r σ' ∧ (σ.answer ans s c = some (r, σ') ∨ ∃ t p, c = .select t p) := by
  cases c with
  | select t p =>
    cases h
    exact ⟨⟨List.reverse_perm _, rfl⟩, .inr ⟨t, p, rfl⟩⟩
  | _ =>
    have hanswer : σ.answer ans s _ = some (r, σ') := h
    exact ⟨Store.answer_exec hanswer, .inl hanswer⟩

/-- Nobody else does anything. -/
def aloneContract (s : Sid) : Prog.Contract (Sql S X) (Store S Sid) where
  rely _ σ σ' := σ' = σ
  act σ c r σ' := Store.Exec s σ c r σ'
  guar _ _ := True

namespace Prog

variable [Fintype Sid] {α : Type}

/-- Run the program in session `s`; `none` when a statement waits for a lock. -/
def drive (ans : (x : X.Stmt) → X.Resp x) (s : Sid) :
    Prog (Sql S X) α → Store S Sid → Option (α × Store S Sid)
  | .pure a, σ => some (a, σ)
  | .stmt c k, σ => (σ.answer ans s c).bind fun r => (k r.1).drive ans s r.2

/-- Run the program, each statement answered by `answer`. -/
def driveBy (answer : Store S Sid → (c : Stmt S X) → Option (Except DbError c.Ans × Store S Sid)) :
    Prog (Sql S X) α → Store S Sid → Option (α × Store S Sid)
  | .pure a, σ => some (a, σ)
  | .stmt c k, σ => (answer σ c).bind fun r => (k r.1).driveBy answer r.2

omit [DecidableEq S.Table] [DecidableEq Sid] [Fintype Sid] in
/-- A program that keeps a contract does so in a run whose answers the contract allows. -/
theorem Sat.driveBy {C : Contract (Sql S X) (Store S Sid)}
    {answer : Store S Sid → (c : Stmt S X) → Option (Except DbError c.Ans × Store S Sid)}
    (hrely : ∀ c σ, C.rely c σ σ) (hact : ∀ c σ r σ', answer σ c = some (r, σ') → C.act σ c r σ')
    {Q : α → Store S Sid → Prop} {p : Prog (Sql S X) α} {σ : Store S Sid} (h : p.Sat C σ Q)
    {a : α} {σ' : Store S Sid} (hrun : p.driveBy answer σ = some (a, σ')) : Q a σ' := by
  induction p generalizing σ with
  | pure b =>
    cases hrun
    exact h
  | stmt c k ih =>
    obtain ⟨⟨r, σ₁⟩, hanswer, hrest⟩ := Option.bind_eq_some_iff.1 hrun
    exact ih r ((h σ (hrely c σ)).2 r σ₁ (hact c σ r σ₁ hanswer)) hrest

/-- A program that keeps a contract does so in this run. -/
theorem Sat.drive {C : Contract (Sql S X) (Store S Sid)} {ans : (x : X.Stmt) → X.Resp x} {s : Sid}
    (hrely : ∀ c σ, C.rely c σ σ)
    (hact : ∀ c σ r σ', Store.answer ans s σ c = some (r, σ') → C.act σ c r σ')
    {Q : α → Store S Sid → Prop} {p : Prog (Sql S X) α} {σ : Store S Sid} (h : p.Sat C σ Q)
    {a : α} {σ' : Store S Sid} (hrun : p.drive ans s σ = some (a, σ')) : Q a σ' := by
  induction p generalizing σ with
  | pure b =>
    cases hrun
    exact h
  | stmt c k ih =>
    obtain ⟨⟨r, σ₁⟩, hanswer, hrest⟩ := Option.bind_eq_some_iff.1 hrun
    exact ih r ((h σ (hrely c σ)).2 r σ₁ (hact c σ r σ₁ hanswer)) hrest

end Prog
end Conc
