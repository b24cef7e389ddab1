import NetOps.Conc.Prog
import Mathlib.Data.List.Perm.Basic
import Mathlib.Data.List.Nodup
import Mathlib.Logic.Function.Basic

/-!
# Conc.Store

A relational store that many sessions use at once, at isolation level READ COMMITTED.

Every session works in a transaction, which is the log of the row versions it has written. A
statement sees the committed rows overlaid with the session's own log (`Store.view`). A row
version in a log locks its row: an `update` of another session that would match the row waits
until the log is committed or discarded. `commit` moves the log into the committed tables.

A session is also the unit of work of an object-relational mapper: a row that was loaded can be
changed in memory (`change`), and is written by the next `flush` or `commit`. Other statements do
not flush.

* `Tbl`, `Db`: tables of rows by key.
* `Stmt`: `select`, `get` (through the session's identity map, so possibly a version the session
  loaded before), `update ... where ... set`, `insert`, `change`, `flush`, `commit`, `rollback`,
  and the statements `ext` of an outside language (a clock, a network call).
* `Store.Exec`: the answers a statement can get. A statement to the database may also fail, which
  aborts the transaction; when the session was writing its changes, they are lost with it. An
  `insert` that breaks a constraint does so too, unless it ran under a savepoint.
-/

namespace Conc

/-! ## Tables -/

/-- A table: the keys of its rows in insertion order, and the row under each key. -/
structure Tbl (V : Type) (key : V → Nat) where
  keys : List Nat
  get : Nat → Option V
  nodup : keys.Nodup
  dom : ∀ k, k ∈ keys ↔ (get k).isSome
  keyed : ∀ k v, get k = some v → key v = k

namespace Tbl

variable {V : Type} {key : V → Nat}

def empty : Tbl V key where
  keys := []
  get _ := none
  nodup := .nil
  dom _ := by simp
  keyed _ _ h := by cases h

instance : Inhabited (Tbl V key) := ⟨empty⟩

/-- Write row `v` under its key, new or replacing. -/
def set (T : Tbl V key) (v : V) : Tbl V key where
  keys := if key v ∈ T.keys then T.keys else T.keys ++ [key v]
  get := Function.update T.get (key v) (some v)
  nodup := by
    split
    · exact T.nodup
    · exact List.nodup_append.2 ⟨T.nodup, List.nodup_singleton _, by
        rintro a ha b hb rfl
        exact ‹key v ∉ T.keys› (List.mem_singleton.1 hb ▸ ha)⟩
  dom k := by
    by_cases h : k = key v
    · subst h
      by_cases hm : key v ∈ T.keys <;> simp [hm]
    · by_cases hm : key v ∈ T.keys <;> simp [hm, h, T.dom k]
  keyed k u hu := by
    by_cases h : k = key v
    · subst h
      simp only [Function.update_self, Option.some.injEq] at hu
      rw [hu]
    · rw [Function.update_of_ne h] at hu
      exact T.keyed k u hu

/-- The rows that have a property. -/
def filter (T : Tbl V key) (p : V → Bool) : Tbl V key where
  keys := T.keys.filter fun k => ((T.get k).filter p).isSome
  get k := (T.get k).filter p
  nodup := T.nodup.filter _
  dom k := by
    rw [List.mem_filter, T.dom]
    cases T.get k <;> simp
  keyed k v h := T.keyed k v (Option.filter_eq_some_iff.1 h).1

@[simp] theorem get_filter (T : Tbl V key) (p : V → Bool) (k : Nat) :
    (T.filter p).get k = (T.get k).filter p := rfl

/-- The rows, in insertion order. -/
def rows (T : Tbl V key) : List V := T.keys.filterMap T.get

@[simp] theorem get_set (T : Tbl V key) (v : V) (k : Nat) :
    (T.set v).get k = if k = key v then some v else T.get k := by
  by_cases h : k = key v
  · subst h; simp [set]
  · simp [set, h]

theorem mem_rows {T : Tbl V key} {v : V} : v ∈ T.rows ↔ T.get (key v) = some v := by
  constructor
  · intro h
    obtain ⟨k, _, hk⟩ := List.mem_filterMap.1 h
    rw [T.keyed k v hk]
    exact hk
  · intro h
    exact List.mem_filterMap.2 ⟨key v, (T.dom _).2 (by simp [h]), h⟩

theorem mem_rows_of_get {T : Tbl V key} {k : Nat} {v : V} (h : T.get k = some v) : v ∈ T.rows :=
  mem_rows.2 (by rw [T.keyed k v h]; exact h)

/-- Every row changed, under its key. -/
def map (T : Tbl V key) (f : V → V) (hf : ∀ v, key (f v) = key v) : Tbl V key where
  keys := T.keys
  get k := (T.get k).map f
  nodup := T.nodup
  dom k := by rw [T.dom, Option.isSome_map]
  keyed k v h := by
    obtain ⟨u, hu, rfl⟩ := Option.map_eq_some_iff.1 h
    rw [hf, T.keyed k u hu]

theorem rows_map (T : Tbl V key) (f : V → V) (hf : ∀ v, key (f v) = key v) :
    (T.map f hf).rows = T.rows.map f := by
  unfold rows
  rw [List.map_filterMap]
  rfl

/-- The table after a list of row versions is written over it. -/
def overlay (T : Tbl V key) (ws : List V) : Tbl V key := ws.foldl set T

@[simp] theorem overlay_nil (T : Tbl V key) : T.overlay [] = T := rfl

@[simp] theorem overlay_cons (T : Tbl V key) (w : V) (ws : List V) :
    T.overlay (w :: ws) = (T.set w).overlay ws := rfl

theorem overlay_append (T : Tbl V key) (ws ws' : List V) :
    T.overlay (ws ++ ws') = (T.overlay ws).overlay ws' := List.foldl_append ..

/-- A row seen through the overlay is a written version or the row below. -/
theorem overlay_get {T : Tbl V key} {ws : List V} {k : Nat} {v : V}
    (h : (T.overlay ws).get k = some v) : v ∈ ws ∨ T.get k = some v ∧ ∀ w ∈ ws, key w ≠ k := by
  induction ws generalizing T with
  | nil => exact .inr ⟨h, by simp⟩
  | cons w ws ih =>
    obtain hm | ⟨hg, hn⟩ := ih h
    · exact .inl (List.mem_cons_of_mem w hm)
    · rw [get_set] at hg
      split at hg
      · cases hg
        exact .inl List.mem_cons_self
      · rename_i hk
        refine .inr ⟨hg, fun w' hw' => ?_⟩
        cases hw' with
        | head => exact fun e => hk e.symm
        | tail _ hw' => exact hn w' hw'

/-- A row that no version overwrites is seen as it is below. -/
theorem overlay_get_of_not_mem {T : Tbl V key} {ws : List V} {k : Nat}
    (h : ∀ w ∈ ws, key w ≠ k) : (T.overlay ws).get k = T.get k := by
  induction ws generalizing T with
  | nil => rfl
  | cons w ws ih =>
    rw [overlay_cons, ih fun w' hw' => h w' (List.mem_cons_of_mem w hw'), get_set,
      if_neg (h w List.mem_cons_self).symm]

/-- Rows do not disappear under an overlay. -/
theorem overlay_get_isSome {T : Tbl V key} (ws : List V) {k : Nat} {v : V}
    (h : T.get k = some v) : ∃ v', (T.overlay ws).get k = some v' := by
  induction ws generalizing T v with
  | nil => exact ⟨v, h⟩
  | cons w ws ih =>
    by_cases hk : k = key w
    · exact ih (by rw [get_set, if_pos hk])
    · exact ih (by rw [get_set, if_neg hk, h])

/-- A written row is seen through the overlay, in one of its versions. -/
theorem overlay_get_of_mem {T : Tbl V key} {ws : List V} {v : V} (h : v ∈ ws) :
    ∃ v', (T.overlay ws).get (key v) = some v' ∧ v' ∈ ws := by
  obtain ⟨v', hv'⟩ : ∃ v', (T.overlay ws).get (key v) = some v' := by
    induction ws generalizing T with
    | nil => cases h
    | cons w ws ih =>
      cases h with
      | head =>
        have hv : (T.set v).get (key v) = some v := by rw [get_set, if_pos rfl]
        exact overlay_get_isSome ws hv
      | tail _ h => exact ih h
  obtain hm | ⟨_, hn⟩ := overlay_get hv'
  · exact ⟨v', hv', hm⟩
  · exact absurd rfl (hn v h)

/-- The rows that have a property are changed, under their keys. -/
theorem get_overlay_map (T : Tbl V key) (p : V → Bool) {f : V → V} (hf : ∀ v, key (f v) = key v)
    (k : Nat) :
    (T.overlay ((T.rows.filter p).map f)).get k =
      (T.get k).map fun v => if p v then f v else v := by
  have hwritten : ∀ w ∈ (T.rows.filter p).map f, ∃ v, T.get (key w) = some v ∧ p v = true ∧
      w = f v := by
    intro w hw
    obtain ⟨v, hv, rfl⟩ := List.mem_map.1 hw
    obtain ⟨hrow, hp⟩ := List.mem_filter.1 hv
    exact ⟨v, by rw [hf]; exact mem_rows.1 hrow, hp, rfl⟩
  by_cases hk : ∃ v, T.get k = some v ∧ p v = true
  · obtain ⟨v, hv, hp⟩ := hk
    have hmem : f v ∈ (T.rows.filter p).map f :=
      List.mem_map_of_mem (List.mem_filter.2 ⟨mem_rows_of_get hv, hp⟩)
    obtain ⟨w, hw, hin⟩ := overlay_get_of_mem (T := T) hmem
    rw [hf, T.keyed k v hv] at hw
    obtain ⟨u, hu, _, rfl⟩ := hwritten w hin
    have hkey : key (f u) = k := Tbl.keyed _ k _ hw
    rw [hkey, hv, Option.some.injEq] at hu
    rw [hw, hv, Option.map_some, if_pos hp, hu]
  · have hnot : ∀ w ∈ (T.rows.filter p).map f, key w ≠ k := by
      rintro w hw rfl
      obtain ⟨v, hv, hp, _⟩ := hwritten w hw
      exact hk ⟨v, hv, hp⟩
    rw [overlay_get_of_not_mem hnot]
    cases hv : T.get k with
    | none => rfl
    | some v => rw [Option.map_some, if_neg fun hp => hk ⟨v, hv, hp⟩]

end Tbl

/-! ## Schemas and statements -/

/-- The tables of a store. `clash` holds of two rows that a unique constraint keeps apart;
`Site` names the places of a program that issue `update` statements. -/
structure Schema where
  Table : Type
  Row : Table → Type
  Site : Type
  key : (t : Table) → Row t → Nat
  clash : (t : Table) → Row t → Row t → Bool

/-- The committed tables. -/
abbrev Db (S : Schema) := (t : S.Table) → Tbl (S.Row t) (S.key t)

/-- Row versions by table, oldest first. -/
abbrev Log (S : Schema) := (t : S.Table) → List (S.Row t)

inductive DbError where
  | integrity
  | operational
  deriving DecidableEq

inductive Stmt (S : Schema) (X : Lang) where
  | select (t : S.Table) (p : S.Row t → Bool)
  | get (t : S.Table) (k : Nat)
  | update (site : S.Site) (t : S.Table) (p : S.Row t → Bool) (f : S.Row t → S.Row t)
  | insert (t : S.Table) (r : S.Row t)
  | change (t : S.Table) (k : Nat) (f : S.Row t → S.Row t)
  | flush
  | commit
  | rollback
  | ext (x : X.Stmt)

/-- What a statement answers when the database does not fail. An `update` returns the keys of
the rows it matched. -/
abbrev Stmt.Ans {S : Schema} {X : Lang} : Stmt S X → Type
  | .select t _ => List (S.Row t)
  | .get t _ => Option (S.Row t)
  | .update .. => List Nat
  | .insert .. => Unit
  | .change .. => Unit
  | .flush => Unit
  | .commit => Unit
  | .rollback => Unit
  | .ext x => X.Resp x

def Stmt.isCommit {S : Schema} {X : Lang} : Stmt S X → Bool
  | .commit => true
  | _ => false

/-- The statement language of a store with outside language `X`. -/
abbrev Sql (S : Schema) (X : Lang) : Lang where
  Stmt := Stmt S X
  Resp c := Except DbError c.Ans

/-- A change of a loaded row that has not been flushed. -/
structure Change (S : Schema) where
  table : S.Table
  key : Nat
  apply : S.Row table → S.Row table

/-- Committed tables, and for each session its log, the row versions it has held in memory, and
its changes that are not flushed. -/
structure Store (S : Schema) (Sid : Type) where
  db : Db S
  log : Sid → Log S
  seen : Sid → Log S
  dirty : Sid → List (Change S)

namespace Store

variable {S : Schema} {Sid : Type} {X : Lang} [DecidableEq S.Table] [DecidableEq Sid]

/-- What session `s` reads: the committed rows under its own writes. -/
def view (σ : Store S Sid) (s : Sid) : Db S := fun t => (σ.db t).overlay (σ.log s t)

/-- Session `s` loads row versions of table `t` into its identity map. -/
def load (σ : Store S Sid) (s : Sid) (t : S.Table) (ws : List (S.Row t)) : Store S Sid :=
  { σ with seen := Function.update σ.seen s (Function.update (σ.seen s) t (σ.seen s t ++ ws)) }

/-- Session `s` writes row versions of table `t`. -/
def write (σ : Store S Sid) (s : Sid) (t : S.Table) (ws : List (S.Row t)) : Store S Sid :=
  { σ.load s t ws with
    log := Function.update σ.log s (Function.update (σ.log s) t (σ.log s t ++ ws)) }

/-- Session `s` changes a row in memory. -/
def change (σ : Store S Sid) (s : Sid) (c : Change S) : Store S Sid :=
  { σ.load s c.table (((σ.seen s c.table).filter fun r => S.key _ r == c.key).map c.apply) with
    dirty := Function.update σ.dirty s (σ.dirty s ++ [c]) }

/-- Session `s` sends one change. -/
def send (s : Sid) (σ : Store S Sid) (c : Change S) : Store S Sid :=
  match (σ.view s c.table).get c.key with
  | some r => σ.write s c.table [c.apply r]
  | none => σ

/-- Session `s` has no changes to send. -/
def clean (σ : Store S Sid) (s : Sid) : Store S Sid :=
  { σ with dirty := Function.update σ.dirty s [] }

/-- Session `s` sends its changes, in order. -/
def flush (σ : Store S Sid) (s : Sid) : Store S Sid := ((σ.dirty s).foldl (send s) σ).clean s

/-- Session `s` drops its uncommitted writes, its changes and its identity map. -/
def discard (σ : Store S Sid) (s : Sid) : Store S Sid where
  db := σ.db
  log := Function.update σ.log s fun _ => []
  seen := Function.update σ.seen s fun _ => []
  dirty := Function.update σ.dirty s []

/-- The transaction of session `s` is aborted: its uncommitted writes are gone. -/
def abort (σ : Store S Sid) (s : Sid) : Store S Sid :=
  { σ with log := Function.update σ.log s fun _ => [] }

/-- Session `s` publishes its writes. -/
def commit (σ : Store S Sid) (s : Sid) : Store S Sid :=
  { σ with db := σ.view s, log := Function.update σ.log s fun _ => [] }

/-- Another session than `s` holds an uncommitted version of row `k` of table `t`. -/
def Locked (σ : Store S Sid) (s : Sid) (t : S.Table) (k : Nat) : Prop :=
  ∃ s', s' ≠ s ∧ ∃ w ∈ σ.log s' t, S.key t w = k

/-- No other session holds an uncommitted version of a row that session `s` has changed. -/
def Flushable (σ : Store S Sid) (s : Sid) : Prop :=
  ∀ c ∈ σ.dirty s, ¬ σ.Locked s c.table c.key

/-- Row `r` repeats a key or breaks a unique constraint among the rows `T`. -/
def Taken {t : S.Table} (T : Tbl (S.Row t) (S.key t)) (r : S.Row t) : Prop :=
  (T.get (S.key t r)).isSome ∨ ∃ r' ∈ T.rows, S.clash t r' r = true

/-- The answers of statement `c` issued by session `s`, and the store after each. -/
def Exec (s : Sid) (σ : Store S Sid) :
    (c : Stmt S X) → Except DbError c.Ans → Store S Sid → Prop
  | .select t p, .ok rows, σ' =>
    rows.Perm (((σ.view s) t).rows.filter p) ∧ σ' = σ.load s t rows
  | .get t k, .ok r, σ' =>
    (r = ((σ.view s) t).get k ∨ ∃ v, r = some v ∧ v ∈ σ.seen s t ∧ S.key t v = k) ∧
      σ' = σ.load s t r.toList
  | .update _ t p f, .ok ks, σ' =>
    (∀ r ∈ ((σ.view s) t).rows, p r = true → ¬ σ.Locked s t (S.key t r)) ∧
      ks = (((σ.view s) t).rows.filter p).map (S.key t) ∧
      σ' = σ.write s t ((((σ.view s) t).rows.filter p).map f)
  | .insert t r, .ok _, σ' =>
    ¬ Taken ((σ.view s) t) r ∧
      (∀ s', s' ≠ s → ∀ w ∈ σ.log s' t, S.key t w ≠ S.key t r ∧ S.clash t w r = false) ∧
      σ' = σ.write s t [r]
  | .insert t r, .error .integrity, σ' => Taken ((σ.view s) t) r ∧ (σ' = σ ∨ σ' = σ.discard s)
  | .insert .., .error .operational, σ' => σ' = σ.discard s
  | .change t k f, .ok _, σ' => σ' = σ.change s ⟨t, k, f⟩
  | .change .., .error _, _ => False
  | .flush, .ok _, σ' => σ.Flushable s ∧ σ' = σ.flush s
  | .flush, .error .operational, σ' => σ' = σ.discard s
  | .commit, .ok _, σ' => σ.Flushable s ∧ σ' = (σ.flush s).commit s
  | .commit, .error .operational, σ' => σ' = σ.discard s
  | .rollback, .ok _, σ' => σ' = σ.discard s
  | .rollback, .error _, _ => False
  | .ext _, .ok _, σ' => σ' = σ
  | .ext _, .error _, _ => False
  | _, .error .operational, σ' => σ' = σ.abort s
  | _, .error .integrity, _ => False

end Store
end Conc
