import NetOps.Conc.Frame

/-!
# Conc.Shared

A session that several programs share, when what matters of the rows stays as it is.

* `Store.Shows`: every version of a row that the session has shows `W`, also those it loaded
  before, and its unsent changes leave it so. A statement that tends `W` (`Stmt.Tends`) keeps this,
  whichever program of the session issues it (`Shows.exec`), and is answered by rows that show `W`
  (`Shows.heard`).
* `Store.Clean`: a session that has loaded no row that is gone. Such a session can insert a row
  that matters (`Shows.insert`).
* `Prog.Pool`: programs side by side. What one statement of each keeps, a run of them keeps
  (`Pool.steps`).
-/

namespace Conc

open Relation

variable {S : Schema} {X : Lang} {Sid : Type}

/-! ## Statements that keep what matters -/

/-- What matters of every row, by table and key. -/
abbrev Focus.Map (F : Focus S) := (t : S.Table) → Nat → Option (F.What t)

namespace Change

variable (F : Focus S)

/-- The change leaves what matters of its row as `W` says, and every key. -/
def Tends (W : F.Map) (c : Change S) : Prop :=
  ∀ r, S.key c.table (c.apply r) = S.key c.table r ∧
    (S.key c.table r = c.key → F.of c.table r = W c.table c.key →
      F.of c.table (c.apply r) = W c.table c.key)

/-- The change leaves what matters of any row, and every key. -/
def Keeps (c : Change S) : Prop :=
  ∀ r, S.key c.table (c.apply r) = S.key c.table r ∧
    F.of c.table (c.apply r) = F.of c.table r

variable {F}

theorem Keeps.tends {c : Change S} (h : c.Keeps F) (W : F.Map) : c.Tends F W := fun r =>
  ⟨(h r).1, fun _ hr => (h r).2.trans hr⟩

end Change

namespace Stmt

variable (F : Focus S)

/-- The statement leaves what matters of every row as `W` says. -/
def Tends (W : F.Map) : Stmt S X → Prop
  | .update _ t p f => ∀ r, p r = true → F.of t r = W t (S.key t r) →
      S.key t (f r) = S.key t r ∧ F.of t (f r) = W t (S.key t r)
  | .insert t r => F.of t r = none
  | .change t k f => Change.Tends F W ⟨t, k, f⟩
  | _ => True

/-- The rows of the answer show `W`, and none that matters is left out. -/
def Heard (W : F.Map) : (c : Stmt S X) → Except DbError c.Ans → Prop
  | .select t p, .ok rows => (∀ r ∈ rows, p r = true ∧ F.of t r = W t (S.key t r)) ∧
      ∀ k x, W t k = some x → ∃ r, S.key t r = k ∧ F.of t r = some x ∧ (p r = true → r ∈ rows)
  | .get t k, .ok r => (∀ v, r = some v → S.key t v = k ∧ F.of t v = W t k) ∧
      ((W t k).isSome → r.isSome)
  | _, _ => True

end Stmt

namespace Focus

variable {F : Focus S} {t : S.Table}

/-- Rows that show `w`, written over rows that show it. -/
theorem shown_overlay {T : Tbl (S.Row t) (S.key t)} {w : Nat → Option (F.What t)}
    (hT : ∀ k, F.shown T k = w k) {ws : List (S.Row t)}
    (hws : ∀ v ∈ ws, F.of t v = w (S.key t v)) (k : Nat) : F.shown (T.overlay ws) k = w k := by
  induction ws generalizing T with
  | nil => exact hT k
  | cons v ws ih =>
    refine ih (T := T.set v) (fun k' => ?_) fun v' hv' => hws v' (List.mem_cons_of_mem v hv')
    rw [shown_set]
    split
    · rename_i hk
      rw [hk, hws v List.mem_cons_self]
    · exact hT k'

/-- `W` with a new row. -/
def Map.add [DecidableEq S.Table] (W : F.Map) (t : S.Table) (r : S.Row t) : F.Map :=
  Function.update W t (Function.update (W t) (S.key t r) (F.of t r))

theorem Map.add_self [DecidableEq S.Table] (W : F.Map) (r : S.Row t) (k : Nat) :
    W.add t r t k = if k = S.key t r then F.of t r else W t k := by
  rw [Map.add, Function.update_self, Function.update_apply]

theorem Map.add_key [DecidableEq S.Table] (W : F.Map) (r : S.Row t) :
    W.add t r t (S.key t r) = F.of t r := by
  rw [Map.add_self, if_pos rfl]

theorem Map.add_ne [DecidableEq S.Table] (W : F.Map) (r : S.Row t) {t' : S.Table} (h : t' ≠ t) :
    W.add t r t' = W t' := by
  rw [Map.add, Function.update_of_ne h]

/-- A new row that does not matter. -/
theorem Map.add_none [DecidableEq S.Table] {W : F.Map} {r : S.Row t} (hr : F.of t r = none)
    (hW : W t (S.key t r) = none) : W.add t r = W := by
  rw [Map.add, hr, ← hW, Function.update_eq_self, Function.update_eq_self]

end Focus

/-! ## What a session shows -/

namespace Store

variable {F : Focus S} {s : Sid} {W : F.Map} {σ σ' : Store S Sid} {t : S.Table}

/-- Every version of a row that session `s` has shows `W`, and its unsent changes tend it. -/
structure Shows (F : Focus S) (s : Sid) (W : F.Map) (σ : Store S Sid) : Prop where
  view : ∀ t k, F.shown (σ.view s t) k = W t k
  seen : ∀ t, ∀ v ∈ σ.seen s t, F.of t v = W t (S.key t v)
  dirty : ∀ c ∈ σ.dirty s, c.Tends F W

/-- The committed rows show `W`. -/
def Published (F : Focus S) (W : F.Map) (σ : Store S Sid) : Prop :=
  ∀ t k, F.shown (σ.db t) k = W t k

/-- Session `s` has loaded no row that is gone, and its unsent changes keep what matters. -/
structure Clean (F : Focus S) (s : Sid) (σ : Store S Sid) : Prop where
  real : ∀ t, ∀ v ∈ σ.seen s t, ((σ.view s t).get (S.key t v)).isSome
  keeps : ∀ c ∈ σ.dirty s, c.Keeps F

/-- What the other sessions leave: what matters of the committed rows, the rows that session `s`
has loaded, and what it has of its own. -/
structure Meanwhile (F : Focus S) (s : Sid) (σ σ' : Store S Sid) : Prop where
  shown : ∀ t, F.Agree (σ'.db t) (σ.db t)
  stay : ∀ t, ∀ v ∈ σ.seen s t, ((σ.db t).get (S.key t v)).isSome →
    ((σ'.db t).get (S.key t v)).isSome
  log : σ'.log s = σ.log s
  seen : σ'.seen s = σ.seen s
  dirty : σ'.dirty s = σ.dirty s

theorem Published.meanwhile (h : σ.Published F W) (hrely : Meanwhile F s σ σ') :
    σ'.Published F W := fun t k => (hrely.shown t k).trans (h t k)

namespace Shows

theorem row (h : σ.Shows F s W) {r : S.Row t} (hr : r ∈ (σ.view s t).rows) :
    F.of t r = W t (S.key t r) := by
  rw [← h.view, Focus.shown_some (Tbl.mem_rows.1 hr)]

theorem meanwhile (h : σ.Shows F s W) (hrely : Meanwhile F s σ σ') : σ'.Shows F s W where
  view t k := by
    rw [← h.view, Store.view, Store.view, hrely.log]
    exact (hrely.shown t).overlay _ k
  seen t v hv := h.seen t v (hrely.seen ▸ hv)
  dirty c hc := h.dirty c (hrely.dirty ▸ hc)

variable [DecidableEq S.Table] [DecidableEq Sid]

theorem load (h : σ.Shows F s W) {ws : List (S.Row t)}
    (hws : ∀ v ∈ ws, F.of t v = W t (S.key t v)) : (σ.load s t ws).Shows F s W where
  view := h.view
  seen t' v hv := by
    simp only [Store.load, Function.update_self] at hv
    by_cases ht : t' = t
    · subst ht
      rw [Function.update_self, List.mem_append] at hv
      exact hv.elim (h.seen t' v) (hws v)
    · rw [Function.update_of_ne ht] at hv
      exact h.seen t' v hv
  dirty := h.dirty

theorem write (h : σ.Shows F s W) {ws : List (S.Row t)}
    (hws : ∀ v ∈ ws, F.of t v = W t (S.key t v)) : (σ.write s t ws).Shows F s W where
  view t' k := by
    by_cases ht : t = t'
    · subst ht
      rw [view_write]
      exact Focus.shown_overlay (h.view t) hws k
    · rw [view_write_ne ht]
      exact h.view t' k
  seen := (h.load hws).seen
  dirty := h.dirty

theorem change (h : σ.Shows F s W) {c : Change S} (hc : c.Tends F W) :
    (σ.change s c).Shows F s W where
  view := h.view
  seen := by
    refine (h.load (t := c.table) fun v (hv : v ∈ ((σ.seen s c.table).filter fun r =>
      S.key _ r == c.key).map c.apply) => ?_).seen
    obtain ⟨r, hr, rfl⟩ := List.mem_map.1 hv
    obtain ⟨hseen, hkey⟩ := List.mem_filter.1 hr
    have hk : S.key c.table r = c.key := beq_iff_eq.1 hkey
    have hW := h.seen c.table r hseen
    rw [(hc r).1, hk]
    rw [hk] at hW
    exact (hc r).2 hk hW
  dirty c' hc' := by
    simp only [Store.change, Function.update_self, List.mem_append, List.mem_singleton] at hc'
    rcases hc' with hold | rfl
    · exact h.dirty c' hold
    · exact hc

theorem send (h : σ.Shows F s W) {c : Change S} (hc : c.Tends F W) :
    (Store.send s σ c).Shows F s W := by
  unfold Store.send
  split
  · rename_i r hr
    have hk : S.key c.table r = c.key := (σ.view s c.table).keyed _ _ hr
    have hW := h.row (Tbl.mem_rows_of_get hr)
    rw [hk] at hW
    refine h.write fun v hv => ?_
    rw [List.mem_singleton.1 hv, (hc r).1, hk]
    exact (hc r).2 hk hW
  · exact h

theorem flush (h : σ.Shows F s W) : (σ.flush s).Shows F s W := by
  refine flush_rule (P := fun τ => τ.Shows F s W) (fun τ c hc hτ => hτ.send (h.dirty c hc))
    (fun τ hτ => ⟨hτ.view, hτ.seen, fun c hc => ?_⟩) h
  simp [Store.clean] at hc

/-- A commit publishes what the session shows. -/
theorem commit (h : σ.Shows F s W) : ((σ.flush s).commit s).Shows F s W ∧
    ((σ.flush s).commit s).Published F W := by
  have hflush := h.flush
  have hview : ∀ t, ((σ.flush s).commit s).view s t = (σ.flush s).view s t := by
    intro t
    simp [Store.view, Store.commit]
  refine ⟨⟨fun t k => ?_, hflush.seen, hflush.dirty⟩, hflush.view⟩
  rw [hview]
  exact hflush.view t k

omit [DecidableEq S.Table] in
theorem abort (h : σ.Shows F s W) (hpub : σ.Published F W) : (σ.abort s).Shows F s W where
  view t k := by simpa [Store.view, Store.abort] using hpub t k
  seen := h.seen
  dirty := h.dirty

omit [DecidableEq S.Table] in
theorem discard (hpub : σ.Published F W) : (σ.discard s).Shows F s W where
  view t k := by simpa [Store.view, Store.discard] using hpub t k
  seen t v hv := by simp [Store.discard] at hv
  dirty c hc := by simp [Store.discard] at hc

/-! ### Statements -/

/-- What the session shows is what it hears. -/
theorem heard (h : σ.Shows F s W) {c : Stmt S X} {r : Except DbError c.Ans}
    (he : Exec s σ c r σ') : c.Heard F W r := by
  cases r with
  | error e => cases c <;> trivial
  | ok a =>
    cases c with
    | select t p =>
      obtain ⟨hperm, _⟩ := he
      refine ⟨fun r hr => ?_, fun k x hx => ?_⟩
      · obtain ⟨hrow, hp⟩ := List.mem_filter.1 (hperm.mem_iff.1 hr)
        exact ⟨hp, h.row hrow⟩
      · rw [← h.view] at hx
        obtain ⟨r, hget, hof⟩ := Option.bind_eq_some_iff.1 hx
        exact ⟨r, (σ.view s t).keyed _ _ hget, hof, fun hp =>
          hperm.mem_iff.2 (List.mem_filter.2 ⟨Tbl.mem_rows_of_get hget, hp⟩)⟩
    | get t k =>
      obtain ⟨hr, _⟩ := he
      refine ⟨fun v hv => ?_, fun hsome => ?_⟩
      · subst hv
        rcases hr with hview | ⟨v', hv', hseen, hkey⟩
        · have hk := (σ.view s t).keyed _ _ hview.symm
          exact ⟨hk, hk ▸ h.row (Tbl.mem_rows_of_get hview.symm)⟩
        · cases hv'
          exact ⟨hkey, hkey ▸ h.seen t v hseen⟩
      · rcases hr with hview | ⟨v, hv, _, _⟩
        · rw [← h.view] at hsome
          rw [hview]
          cases hget : (σ.view s t).get k with
          | none => simp [Focus.shown, hget] at hsome
          | some r => rfl
        · rw [hv]
          rfl
    | _ => trivial

/-- A statement that tends `W` and succeeds. -/
theorem exec_ok (h : σ.Shows F s W) {c : Stmt S X} {a : c.Ans} (hc : c.Tends F W)
    (hroll : c ≠ .rollback) (he : Exec s σ c (.ok a) σ') : σ'.Shows F s W := by
  have hheard := h.heard he
  cases c with
  | select t p =>
    rw [he.2]
    exact h.load fun v hv => (hheard.1 v hv).2
  | get t k =>
    rw [he.2]
    refine h.load fun v hv => ?_
    obtain ⟨hkey, hW⟩ := hheard.1 v (Option.mem_toList.1 hv)
    rw [hkey]
    exact hW
  | update site t p f =>
    rw [he.2.2]
    refine h.write fun v hv => ?_
    obtain ⟨r, hr, rfl⟩ := List.mem_map.1 hv
    obtain ⟨hrow, hp⟩ := List.mem_filter.1 hr
    obtain ⟨hkey, hW⟩ := hc r hp (h.row hrow)
    rw [hkey]
    exact hW
  | insert t r =>
    obtain ⟨hfree, _, rfl⟩ := he
    refine h.write fun v hv => ?_
    have hnone : (σ.view s t).get (S.key t r) = none := by
      cases hget : (σ.view s t).get (S.key t r) with
      | none => rfl
      | some r' => exact absurd (.inl (by rw [hget]; rfl)) hfree
    rw [List.mem_singleton.1 hv, ← h.view, Focus.shown, hnone]
    exact hc
  | change t k f =>
    rw [show σ' = _ from he]
    exact h.change hc
  | flush =>
    rw [he.2]
    exact h.flush
  | commit =>
    rw [he.2]
    exact h.commit.1
  | rollback => exact absurd rfl hroll
  | ext x =>
    rw [show σ' = σ from he]
    exact h

/-- A statement that tends `W`, when what is committed shows it too. -/
theorem exec (h : σ.Shows F s W) (hpub : σ.Published F W) {c : Stmt S X}
    {r : Except DbError c.Ans} (hc : c.Tends F W) (he : Exec s σ c r σ') :
    σ'.Shows F s W ∧ σ'.Published F W := by
  have hdb : c ≠ .commit → σ'.Published F W := by
    intro hne t k
    rw [he.db_eq hne]
    exact hpub t k
  cases r with
  | ok a =>
    by_cases hroll : c = .rollback
    · subst hroll
      exact ⟨by rw [show σ' = _ from he]; exact discard hpub, hdb (by simp)⟩
    · refine ⟨h.exec_ok hc hroll he, ?_⟩
      by_cases hcommit : c = .commit
      · subst hcommit
        rw [he.2]
        exact h.commit.2
      · exact hdb hcommit
  | error e =>
    have haborted : (σ.abort s).Shows F s W := h.abort hpub
    have hdiscarded : (σ.discard s).Shows F s W := discard hpub
    cases c with
    | insert t row =>
      refine ⟨?_, hdb (by simp)⟩
      cases e with
      | integrity =>
        obtain ⟨_, rfl | rfl⟩ := he
        · exact h
        · exact hdiscarded
      | operational => cases he; exact hdiscarded
    | flush =>
      cases e <;> cases he
      exact ⟨hdiscarded, hdb (by simp)⟩
    | commit =>
      cases e <;> cases he
      exact ⟨hdiscarded, hpub⟩
    | select t p => cases e <;> cases he; exact ⟨haborted, hpub⟩
    | get t k => cases e <;> cases he; exact ⟨haborted, hpub⟩
    | update site t p f => cases e <;> cases he; exact ⟨haborted, hpub⟩
    | change t k f => cases he
    | rollback => cases he
    | ext x => cases he

end Shows

/-! ## A session that has loaded nothing that is gone -/

namespace Clean

theorem meanwhile (h : σ.Clean F s) (hrely : Meanwhile F s σ σ') : σ'.Clean F s where
  real t v hv := by
    rw [hrely.seen] at hv
    obtain ⟨r, hr⟩ := Option.isSome_iff_exists.1 (h.real t v hv)
    rw [Store.view, hrely.log]
    rcases Tbl.overlay_get hr with hlog | ⟨hget, _⟩
    · have hkey : S.key t r = S.key t v := (σ.view s t).keyed _ _ hr
      obtain ⟨r', hr', _⟩ := Tbl.overlay_get_of_mem (T := σ'.db t) hlog
      rw [← hkey, hr']
      rfl
    · obtain ⟨r', hr'⟩ := Option.isSome_iff_exists.1 (hrely.stay t v hv (by rw [hget]; rfl))
      obtain ⟨r'', hr''⟩ := Tbl.overlay_get_isSome (σ.log s t) hr'
      rw [hr'']
      rfl
  keeps c hc := h.keeps c (hrely.dirty ▸ hc)

variable [DecidableEq S.Table] [DecidableEq Sid]

theorem load (h : σ.Clean F s) {ws : List (S.Row t)}
    (hws : ∀ v ∈ ws, ((σ.view s t).get (S.key t v)).isSome) : (σ.load s t ws).Clean F s where
  real t' v hv := by
    simp only [Store.load, Function.update_self] at hv
    by_cases ht : t' = t
    · subst ht
      rw [Function.update_self, List.mem_append] at hv
      exact hv.elim (h.real t' v) (hws v)
    · rw [Function.update_of_ne ht] at hv
      exact h.real t' v hv
  keeps := h.keeps

theorem write (h : σ.Clean F s) (ws : List (S.Row t)) : (σ.write s t ws).Clean F s where
  real t' v hv := by
    simp only [Store.write, Store.load, Function.update_self] at hv
    by_cases ht : t' = t
    · subst ht
      rw [Function.update_self, List.mem_append] at hv
      rw [view_write]
      rcases hv with hold | hnew
      · obtain ⟨r, hr⟩ := Option.isSome_iff_exists.1 (h.real t' v hold)
        obtain ⟨r', hr'⟩ := Tbl.overlay_get_isSome ws hr
        rw [hr']
        rfl
      · obtain ⟨r, hr, _⟩ := Tbl.overlay_get_of_mem (T := σ.view s t') hnew
        rw [hr]
        rfl
    · rw [Function.update_of_ne ht] at hv
      rw [view_write_ne (Ne.symm ht)]
      exact h.real t' v hv
  keeps := h.keeps

theorem change (h : σ.Clean F s) {c : Change S} (hc : c.Keeps F) : (σ.change s c).Clean F s where
  real := by
    refine (h.load (t := c.table) fun v (hv : v ∈ ((σ.seen s c.table).filter fun r =>
      S.key _ r == c.key).map c.apply) => ?_).real
    obtain ⟨r, hr, rfl⟩ := List.mem_map.1 hv
    rw [(hc r).1]
    exact h.real _ r (List.mem_filter.1 hr).1
  keeps c' hc' := by
    simp only [Store.change, Function.update_self, List.mem_append, List.mem_singleton] at hc'
    rcases hc' with hold | rfl
    · exact h.keeps c' hold
    · exact hc

theorem flush (h : σ.Clean F s) : (σ.flush s).Clean F s := by
  refine flush_rule (P := fun τ => τ.Clean F s) (fun τ c _ hτ => ?_)
    (fun τ hτ => ⟨hτ.real, fun c hc => ?_⟩) h
  · unfold Store.send
    split
    · exact hτ.write _
    · exact hτ
  · simp [Store.clean] at hc

/-- A statement that succeeds, whose changes in memory keep what matters. -/
theorem exec_ok (h : σ.Clean F s) {c : Stmt S X} {a : c.Ans}
    (hc : ∀ t k f, c = .change t k f → Change.Keeps F ⟨t, k, f⟩) (he : Exec s σ c (.ok a) σ') :
    σ'.Clean F s := by
  cases c with
  | select t p =>
    rw [he.2]
    refine h.load fun v hv => ?_
    rw [Tbl.mem_rows.1 (List.mem_filter.1 (he.1.mem_iff.1 hv)).1]
    rfl
  | get t k =>
    rw [he.2]
    refine h.load fun v hv => ?_
    rcases he.1 with hview | ⟨v', hv', hseen, _⟩
    · have hget : (σ.view s t).get k = some v := by
        rw [← hview]
        exact Option.mem_toList.1 hv
      rw [(σ.view s t).keyed _ _ hget, hget]
      rfl
    · have hv'' : some v' = some v := hv'.symm.trans (Option.mem_toList.1 hv)
      cases hv''
      exact h.real t v hseen
  | update site t p f =>
    rw [he.2.2]
    exact h.write _
  | insert t r =>
    rw [he.2.2]
    exact h.write _
  | change t k f =>
    rw [show σ' = _ from he]
    exact h.change (hc t k f rfl)
  | flush =>
    rw [he.2]
    exact h.flush
  | commit =>
    rw [he.2]
    have hflush := h.flush
    refine ⟨fun t v hv => ?_, hflush.keeps⟩
    have hview : ((σ.flush s).commit s).view s t = (σ.flush s).view s t := by
      simp [Store.view, Store.commit]
    rw [hview]
    exact hflush.real t v hv
  | rollback =>
    rw [show σ' = _ from he]
    exact ⟨fun t v hv => by simp [Store.discard] at hv, fun c hc => by simp [Store.discard] at hc⟩
  | ext x =>
    rw [show σ' = σ from he]
    exact h

/-- A new row, with what matters of it. -/
theorem insert_shows (h : σ.Clean F s) (hshows : σ.Shows F s W) {r : S.Row t}
    (hfree : ¬ Taken (σ.view s t) r) :
    W t (S.key t r) = none ∧ (σ.write s t [r]).Shows F s (W.add t r) := by
  have hnone : (σ.view s t).get (S.key t r) = none := by
    cases hget : (σ.view s t).get (S.key t r) with
    | none => rfl
    | some r' => exact absurd (.inl (by rw [hget]; rfl)) hfree
  refine ⟨by rw [← hshows.view, Focus.shown, hnone]; rfl, ⟨fun t' k => ?_, fun t' v hv => ?_,
    fun c hc => (h.keeps c hc).tends _⟩⟩
  · by_cases ht : t' = t
    · subst ht
      rw [view_write, Focus.Map.add_self, ← hshows.view t' k]
      exact Focus.shown_set _ r k
    · rw [view_write_ne (Ne.symm ht), Focus.Map.add_ne _ _ ht]
      exact hshows.view t' k
  · simp only [Store.write, Store.load, Function.update_self] at hv
    by_cases ht : t' = t
    · subst ht
      rw [Function.update_self, List.mem_append] at hv
      rw [Focus.Map.add_self]
      rcases hv with hold | hnew
      · have hne : S.key t' v ≠ S.key t' r := by
          intro heq
          have hreal := h.real t' v hold
          rw [heq, hnone] at hreal
          cases hreal
        rw [if_neg hne]
        exact hshows.seen t' v hold
      · rw [List.mem_singleton.1 hnew, if_pos rfl]
    · rw [Function.update_of_ne ht] at hv
      rw [Focus.Map.add_ne _ _ ht]
      exact hshows.seen t' v hv

end Clean
end Store

/-! ## Programs side by side -/

namespace Prog

variable {L : Lang} {G α : Type}

/-- One step of a pool of programs over a state: a program issues its next statement and goes on
with the answer, or something else moves the state. -/
inductive Pool (act : G → (s : L.Stmt) → L.Resp s → G → Prop) (env : G → G → Prop) :
    G × List (Prog L α) → G × List (Prog L α) → Prop
  | issue {g g' : G} {ps : List (Prog L α)} {i : Nat} {s : L.Stmt} {k : L.Resp s → Prog L α}
      {r : L.Resp s} (hi : ps[i]? = some (.stmt s k)) (hact : act g s r g') :
      Pool act env (g, ps) (g', ps.set i (k r))
  | env {g g' : G} {ps : List (Prog L α)} (henv : env g g') : Pool act env (g, ps) (g', ps)

/-- A contract about the statements and their answers alone. -/
def stateless (heard : (s : L.Stmt) → L.Resp s → Prop) (tends : L.Stmt → Prop) :
    Contract L Unit where
  rely _ _ _ := True
  act _ s r _ := heard s r
  guar _ s := tends s

/-- Programs side by side keep an invariant of the state that every statement they may issue
keeps, if it also makes the answers what the programs rely on. -/
theorem Pool.steps {act : G → (s : L.Stmt) → L.Resp s → G → Prop} {env : G → G → Prop}
    {heard : (s : L.Stmt) → L.Resp s → Prop} {tends : L.Stmt → Prop} {I : G → Prop}
    (hact : ∀ g s r g', I g → tends s → act g s r g' → heard s r ∧ I g')
    (henv : ∀ g g', I g → env g g' → I g') {x y : G × List (Prog L α)}
    (h : ReflTransGen (Pool act env) x y) (hx : I x.1)
    (hps : ∀ p ∈ x.2, p.Sat (stateless heard tends) () fun _ _ => True) :
    I y.1 ∧ ∀ p ∈ y.2, p.Sat (stateless heard tends) () fun _ _ => True := by
  induction h with
  | refl => exact ⟨hx, hps⟩
  | tail _ hstep ih =>
    obtain ⟨hI, hsat⟩ := ih
    cases hstep with
    | @issue g g' ps i s k r hi hanswer =>
      obtain ⟨htends, hrest⟩ := hsat _ (List.mem_of_getElem? hi) () trivial
      obtain ⟨hheard, hI'⟩ := hact g s r g' hI htends hanswer
      refine ⟨hI', fun p hp => ?_⟩
      rcases List.mem_or_eq_of_mem_set hp with hold | rfl
      · exact hsat p hold
      · exact hrest r () hheard
    | env hmove => exact ⟨henv _ _ hI hmove, hsat⟩

/-- A program by itself, as the only one of a pool. -/
theorem Pool.driveBy
    {act : Store S Sid → (c : Stmt S X) → Except DbError c.Ans → Store S Sid → Prop}
    {env : Store S Sid → Store S Sid → Prop}
    {answer : Store S Sid → (c : Stmt S X) → Option (Except DbError c.Ans × Store S Sid)}
    (hact : ∀ σ c r σ', answer σ c = some (r, σ') → act σ c r σ') {p : Prog (Sql S X) α}
    {σ σ' : Store S Sid} {a : α} (hrun : p.driveBy answer σ = some (a, σ')) :
    ReflTransGen (Pool (L := Sql S X) act env) (σ, [p]) (σ', [.pure a]) := by
  induction p generalizing σ with
  | pure b =>
    cases hrun
    exact .refl
  | stmt c k ih =>
    obtain ⟨⟨r, σ₁⟩, hanswer, hrest⟩ := Option.bind_eq_some_iff.1 hrun
    exact .head (.issue (i := 0) rfl (hact _ _ _ _ hanswer)) (ih r hrest)

end Prog
end Conc
