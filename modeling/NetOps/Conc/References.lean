import Mathlib.Data.Fintype.Basic
import NetOps.Conc.Store

/-!
# Conc.References

Tables whose rows refer to rows of other tables, and a database that does not let a row go while
another refers to it.

* `References`: the foreign keys of every row, as the tables and keys they name.
* `Db.deleteWhere`: delete the rows of a table that have a property. It fails when a row that stays
  refers to one of them.
* `Closed db db'`: no row of `db'` refers to a row of `db` that is gone. A deletion that succeeds is
  closed, and so are several in a row (`deleteWhere_shrunk`, `Shrunk.trans`).
-/

namespace Conc

variable {S : Schema}

/-- The foreign keys of every row: the tables and keys they name. -/
abbrev References (S : Schema) := (t : S.Table) → S.Row t → List (S.Table × Nat)

namespace Db

/-- Row `k` of table `t` is referred to. -/
def Referred (refs : References S) (db : Db S) (t : S.Table) (k : Nat) : Prop :=
  ∃ t', ∃ r ∈ (db t').rows, (t, k) ∈ refs t' r

/-- The rows of `db'` are rows of `db`. -/
def Sub (db' db : Db S) : Prop := ∀ t k r, (db' t).get k = some r → (db t).get k = some r

/-- No row of `db'` refers to a row of `db` that is gone. -/
def Closed (refs : References S) (db db' : Db S) : Prop :=
  ∀ t k, ((db t).get k).isSome → (db' t).get k = none → ¬Referred refs db' t k

/-! ## Rows that stay -/

variable {refs : References S} {db db' db'' : Db S} {t t' : S.Table} {k : Nat}

theorem Sub.refl (db : Db S) : Sub db db := fun _ _ _ h => h

theorem Sub.trans (h : Sub db' db) (h' : Sub db'' db') : Sub db'' db :=
  fun t k r hr => h t k r (h' t k r hr)

theorem Sub.rows (h : Sub db' db) {r : S.Row t} (hr : r ∈ (db' t).rows) : r ∈ (db t).rows :=
  Tbl.mem_rows.2 (h t _ r (Tbl.mem_rows.1 hr))

theorem Sub.referred (h : Sub db' db) (hr : Referred refs db' t k) : Referred refs db t k := by
  obtain ⟨t', r, hrow, href⟩ := hr
  exact ⟨t', r, h.rows hrow, href⟩

/-- Deletions one after the other are closed. -/
theorem Closed.trans (h : Closed refs db db') (hsub : Sub db'' db') (h' : Closed refs db' db'') :
    Closed refs db db'' := by
  intro t k hthere hgone hreferred
  cases hmid : (db' t).get k with
  | none => exact h t k hthere hmid (hsub.referred hreferred)
  | some r => exact h' t k (by rw [hmid]; rfl) hgone hreferred

/-- `db'` is what deletions leave of `db`. -/
structure Shrunk (refs : References S) (db db' : Db S) : Prop where
  sub : Sub db' db
  closed : Closed refs db db'

theorem Closed.refl (refs : References S) (db : Db S) : Closed refs db db := by
  intro t k hthere hgone
  rw [hgone] at hthere
  cases hthere

theorem Shrunk.refl (refs : References S) (db : Db S) : Shrunk refs db db :=
  ⟨Sub.refl db, Closed.refl refs db⟩

theorem Shrunk.trans (h : Shrunk refs db db') (h' : Shrunk refs db' db'') : Shrunk refs db db'' :=
  ⟨h.sub.trans h'.sub, h.closed.trans h'.sub h'.closed⟩

/-! ## Deleting -/

variable [DecidableEq S.Table]

/-- The rows of one table that have a property are gone. -/
def without (db : Db S) (t : S.Table) (p : S.Row t → Bool) : Db S :=
  Function.update db t ((db t).filter fun r => !p r)

section

variable [Fintype S.Table]

instance (refs : References S) (db : Db S) (t : S.Table) (k : Nat) :
    Decidable (Referred refs db t k) :=
  inferInstanceAs (Decidable (∃ t', ∃ r ∈ (db t').rows, (t, k) ∈ refs t' r))

/-- `DELETE FROM t WHERE p`, where the foreign keys are enforced. -/
def deleteWhere (refs : References S) (db : Db S) (t : S.Table) (p : S.Row t → Bool) :
    Except DbError (Db S) :=
  if ∃ r ∈ (db t).rows, p r = true ∧ Referred refs (db.without t p) t (S.key t r) then
    .error .integrity
  else .ok (db.without t p)

end

variable {p : S.Row t → Bool}

@[simp] theorem without_self (db : Db S) (t : S.Table) (p : S.Row t → Bool) :
    db.without t p t = (db t).filter fun r => !p r := Function.update_self ..

@[simp] theorem without_of_ne (h : t' ≠ t) (db : Db S) (p : S.Row t → Bool) :
    db.without t p t' = db t' := Function.update_of_ne h ..

theorem mem_rows_without {r : S.Row t} :
    r ∈ (db.without t p t).rows ↔ r ∈ (db t).rows ∧ p r = false := by
  rw [without_self, Tbl.mem_rows, Tbl.mem_rows, Tbl.get_filter, Option.filter_eq_some_iff]
  simp

theorem without_sub (db : Db S) (t : S.Table) (p : S.Row t → Bool) : Sub (db.without t p) db := by
  intro t' k r hr
  by_cases h : t' = t
  · subst h
    rw [without_self, Tbl.get_filter] at hr
    exact (Option.filter_eq_some_iff.1 hr).1
  · rw [without_of_ne h] at hr
    exact hr

variable [Fintype S.Table]

theorem deleteWhere_ok (h : db.deleteWhere refs t p = .ok db') : db' = db.without t p := by
  unfold deleteWhere at h
  split at h
  · cases h
  · cases h
    rfl

theorem deleteWhere_closed (h : db.deleteWhere refs t p = .ok db') : Closed refs db db' := by
  intro t' k hthere hgone hreferred
  unfold deleteWhere at h
  split at h
  · cases h
  · rename_i hfree
    cases h
    by_cases ht : t' = t
    · subst ht
      obtain ⟨r, hr⟩ := Option.isSome_iff_exists.1 hthere
      have hkey : S.key t' r = k := (db t').keyed k r hr
      rw [without_self, Tbl.get_filter, hr] at hgone
      have hp : p r = true := by
        by_contra hnot
        simp [hnot] at hgone
      exact hfree ⟨r, Tbl.mem_rows_of_get hr, hp, hkey.symm ▸ hreferred⟩
    · rw [without_of_ne ht] at hgone
      rw [hgone] at hthere
      cases hthere

theorem deleteWhere_shrunk (h : db.deleteWhere refs t p = .ok db') : Shrunk refs db db' := by
  refine ⟨?_, deleteWhere_closed h⟩
  rw [deleteWhere_ok h]
  exact without_sub db t p

/-- A deletion of rows that nobody refers to succeeds. -/
theorem deleteWhere_free
    (h : ∀ r ∈ (db t).rows, p r = true → ¬Referred refs (db.without t p) t (S.key t r)) :
    db.deleteWhere refs t p = .ok (db.without t p) := by
  unfold deleteWhere
  rw [if_neg]
  rintro ⟨r, hr, hp, hreferred⟩
  exact h r hr hp hreferred

/-- A deletion of a row that another refers to fails. -/
theorem deleteWhere_error
    (h : ∃ r ∈ (db t).rows, p r = true ∧ Referred refs (db.without t p) t (S.key t r)) :
    db.deleteWhere refs t p = .error .integrity := if_pos h

end Db
end Conc
