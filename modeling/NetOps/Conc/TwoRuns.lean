import NetOps.Conc.Alone
import Mathlib.Data.List.Forall2

/-!
# Conc.TwoRuns

Two runs of like programs, over stores that differ in what does not matter.

* `Likeness`: when two rows are alike. Stores are alike for a session when their rows are, and the
  rows they write (`Store.Alike`).
* `Prog.Mirror`: two programs issue the same statements one after the other, with like rows and
  changes, whatever they are answered.
* `Prog.play`: a program run alone in a session, over a database that may fail and an outside that
  answers as it likes. Like programs over like stores end in like stores (`Mirror.play`).
-/

namespace Conc

/-- When rows are alike. Like rows have the same key and clash with the same rows. -/
structure Likeness (S : Schema) where
  rel : (t : S.Table) → S.Row t → S.Row t → Prop
  refl : ∀ t r, rel t r r
  key : ∀ {t r r'}, rel t r r' → S.key t r = S.key t r'
  clash : ∀ {t r₁ r₁' r₂ r₂'}, rel t r₁ r₁' → rel t r₂ r₂' → S.clash t r₁ r₂ = S.clash t r₁' r₂'

variable {S : Schema} {X : Lang} {Sid : Type}

namespace Likeness

variable (R : Likeness S) {t : S.Table}

abbrev Rows (rs rs' : List (S.Row t)) : Prop := List.Forall₂ (R.rel t) rs rs'

/-- Tables with like rows under the same keys, in the same order. -/
structure Tables (T T' : Tbl (S.Row t) (S.key t)) : Prop where
  keys : T.keys = T'.keys
  get : ∀ k, Option.Rel (R.rel t) (T.get k) (T'.get k)

/-- Changes that make like rows of like rows. -/
def Changes (f f' : S.Row t → S.Row t) : Prop := ∀ r r', R.rel t r r' → R.rel t (f r) (f' r')

/-- Conditions that like rows meet alike. -/
def Tests (p p' : S.Row t → Bool) : Prop := ∀ r r', R.rel t r r' → p r = p' r'

inductive Unsent : Change S → Change S → Prop where
  | mk {t : S.Table} {k : Nat} {f f' : S.Row t → S.Row t} (h : R.Changes f f') :
    Unsent ⟨t, k, f⟩ ⟨t, k, f'⟩

variable {R} {T T' : Tbl (S.Row t) (S.key t)}

theorem rows_refl (rs : List (S.Row t)) : R.Rows rs rs := List.forall₂_same.2 fun r _ => R.refl t r

theorem tables_refl (T : Tbl (S.Row t) (S.key t)) : R.Tables T T where
  keys := rfl
  get k := by
    cases T.get k with
    | none => exact .none
    | some r => exact .some (R.refl t r)

theorem Tables.rows (h : R.Tables T T') : R.Rows T.rows T'.rows := by
  unfold Tbl.rows
  rw [h.keys]
  refine List.rel_filterMap ?_ (List.forall₂_same.2 fun _ _ => rfl)
  rintro k _ rfl
  exact h.get k

theorem Tables.set (h : R.Tables T T') {r r' : S.Row t} (hr : R.rel t r r') :
    R.Tables (T.set r) (T'.set r') where
  keys := by
    dsimp only [Tbl.set]
    rw [h.keys, R.key hr]
  get k := by
    rw [Tbl.get_set, Tbl.get_set, R.key hr]
    split
    · exact .some hr
    · exact h.get k

theorem Tables.overlay (h : R.Tables T T') {ws ws' : List (S.Row t)} (hws : R.Rows ws ws') :
    R.Tables (T.overlay ws) (T'.overlay ws') := by
  induction hws generalizing T T' with
  | nil => exact h
  | cons hr _ ih => exact ih (h.set hr)

theorem Rows.filter {p p' : S.Row t → Bool} (hp : R.Tests p p') {rs rs' : List (S.Row t)}
    (h : R.Rows rs rs') : R.Rows (rs.filter p) (rs'.filter p') :=
  List.rel_filter (fun r r' hr => by simp only [hp r r' hr]) h

theorem Rows.map {f f' : S.Row t → S.Row t} (hf : R.Changes f f') {rs rs' : List (S.Row t)}
    (h : R.Rows rs rs') : R.Rows (rs.map f) (rs'.map f') :=
  List.rel_map (fun r r' hr => hf r r' hr) h

theorem Rows.keys {rs rs' : List (S.Row t)} (h : R.Rows rs rs') :
    rs.map (S.key t) = rs'.map (S.key t) := by
  induction h with
  | nil => rfl
  | cons hr _ ih => rw [List.map_cons, List.map_cons, R.key hr, ih]

/-- What holds of all rows. -/
theorem Rows.forall_iff {P P' : S.Row t → Prop} (hP : ∀ r r', R.rel t r r' → (P r ↔ P' r'))
    {rs rs' : List (S.Row t)} (h : R.Rows rs rs') : (∀ r ∈ rs, P r) ↔ ∀ r ∈ rs', P' r := by
  induction h with
  | nil => simp
  | cons hr _ ih => rw [List.forall_mem_cons, List.forall_mem_cons, hP _ _ hr, ih]

theorem Rows.exists_iff {P P' : S.Row t → Prop} (hP : ∀ r r', R.rel t r r' → (P r ↔ P' r'))
    {rs rs' : List (S.Row t)} (h : R.Rows rs rs') : (∃ r ∈ rs, P r) ↔ ∃ r ∈ rs', P' r := by
  have hall := h.forall_iff fun r r' hr => not_congr (hP r r' hr)
  constructor
  · rintro ⟨r, hr, hp⟩
    by_contra hno
    exact hall.2 (fun r' hr' hp' => hno ⟨r', hr', hp'⟩) r hr hp
  · rintro ⟨r, hr, hp⟩
    by_contra hno
    exact hall.1 (fun r' hr' hp' => hno ⟨r', hr', hp'⟩) r hr hp

end Likeness

/-! ## Stores -/

namespace Store

variable [DecidableEq S.Table] [DecidableEq Sid]

/-- Stores with like rows, committed and written, and like unsent changes of session `s`. -/
structure Alike (R : Likeness S) (s : Sid) (σ σ' : Store S Sid) : Prop where
  db : ∀ t, R.Tables (σ.db t) (σ'.db t)
  log : ∀ s' t, R.Rows (σ.log s' t) (σ'.log s' t)
  unsent : List.Forall₂ R.Unsent (σ.dirty s) (σ'.dirty s)

namespace Alike

variable {R : Likeness S} {s : Sid} {σ σ' : Store S Sid} {t : S.Table}

omit [DecidableEq S.Table] [DecidableEq Sid] in
theorem refl (h : ∀ c ∈ σ.dirty s, R.Unsent c c) : σ.Alike R s σ where
  db _ := Likeness.tables_refl _
  log _ _ := Likeness.rows_refl _
  unsent := List.forall₂_same.2 h

omit [DecidableEq S.Table] [DecidableEq Sid] in
theorem view (h : σ.Alike R s σ') (t : S.Table) : R.Tables (σ.view s t) (σ'.view s t) :=
  (h.db t).overlay (h.log s t)

theorem load (h : σ.Alike R s σ') (ws ws' : List (S.Row t)) :
    (σ.load s t ws).Alike R s (σ'.load s t ws') := ⟨h.db, h.log, h.unsent⟩

theorem write (h : σ.Alike R s σ') {ws ws' : List (S.Row t)} (hws : R.Rows ws ws') :
    (σ.write s t ws).Alike R s (σ'.write s t ws') where
  db := h.db
  log s' t' := by
    dsimp only [Store.write]
    by_cases hs : s' = s
    · subst hs
      rw [Function.update_self, Function.update_self]
      by_cases ht : t' = t
      · subst ht
        rw [Function.update_self, Function.update_self]
        exact List.rel_append (h.log s' t') hws
      · rw [Function.update_of_ne ht, Function.update_of_ne ht]
        exact h.log s' t'
    · rw [Function.update_of_ne hs, Function.update_of_ne hs]
      exact h.log s' t'
  unsent := h.unsent

theorem change (h : σ.Alike R s σ') {k : Nat} {f f' : S.Row t → S.Row t} (hf : R.Changes f f') :
    (σ.change s ⟨t, k, f⟩).Alike R s (σ'.change s ⟨t, k, f'⟩) where
  db := h.db
  log := h.log
  unsent := by
    dsimp only [Store.change]
    rw [Function.update_self, Function.update_self]
    exact List.rel_append h.unsent (.cons (.mk hf) .nil)

theorem send (h : σ.Alike R s σ') {c c' : Change S} (hc : R.Unsent c c') :
    (Store.send s σ c).Alike R s (Store.send s σ' c') := by
  cases hc with
  | @mk t k f f' hf =>
    have hk := (h.view t).get k
    unfold Store.send
    dsimp only
    cases hget : (σ.view s t).get k with
    | none =>
      cases hget' : (σ'.view s t).get k with
      | none => exact h
      | some r' =>
        rw [hget, hget'] at hk
        cases hk
    | some r =>
      cases hget' : (σ'.view s t).get k with
      | none =>
        rw [hget, hget'] at hk
        cases hk
      | some r' =>
        rw [hget, hget'] at hk
        cases hk with
        | some hr => exact h.write (.cons (hf r r' hr) .nil)

/-- Session `s` has nothing to send, and its log is the same as before or empty. -/
theorem flush (h : σ.Alike R s σ') : (σ.flush s).Alike R s (σ'.flush s) := by
  have hfold : ∀ {cs cs' : List (Change S)} {τ τ' : Store S Sid}, τ.Alike R s τ' →
      List.Forall₂ R.Unsent cs cs' →
      (cs.foldl (Store.send s) τ).Alike R s (cs'.foldl (Store.send s) τ') := by
    intro cs cs' τ τ' hτ hcs
    induction hcs generalizing τ τ' with
    | nil => exact hτ
    | cons hc _ ih => exact ih (hτ.send hc)
  have hsent := hfold h h.unsent
  refine ⟨hsent.db, hsent.log, ?_⟩
  simp [Store.flush, Store.clean]

omit [DecidableEq S.Table] in
theorem discard (h : σ.Alike R s σ') : (σ.discard s).Alike R s (σ'.discard s) where
  db := h.db
  log s' t := by
    dsimp only [Store.discard]
    by_cases hs : s' = s
    · subst hs
      rw [Function.update_self, Function.update_self]
      exact .nil
    · rw [Function.update_of_ne hs, Function.update_of_ne hs]
      exact h.log s' t
  unsent := by simp [Store.discard]

omit [DecidableEq S.Table] in
theorem abort (h : σ.Alike R s σ') : (σ.abort s).Alike R s (σ'.abort s) :=
  ⟨h.db, h.discard.log, h.unsent⟩

omit [DecidableEq S.Table] in
theorem commit (h : σ.Alike R s σ') : (σ.commit s).Alike R s (σ'.commit s) :=
  ⟨h.view, h.discard.log, h.unsent⟩

end Alike

/-! ## Answers -/

/-- What answers the statements of a run, by their number: what the outside answers, and where the
database fails. -/
structure Weather (X : Lang) where
  answers : Nat → (x : X.Stmt) → X.Resp x
  fails : Nat → Bool

/-- The database may fail to answer the statement. -/
def canFail : Stmt S X → Bool
  | .change .. | .rollback | .ext _ => false
  | _ => true

/-- The store after the database failed to answer. -/
def fail (s : Sid) (σ : Store S Sid) : Stmt S X → Store S Sid
  | .insert .. | .flush | .commit => σ.discard s
  | _ => σ.abort s

variable [Fintype Sid]

/-- The answer to the `n`th statement. -/
def respond (weather : Weather X) (s : Sid) (n : Nat) (σ : Store S Sid) (c : Stmt S X) :
    Option (Except DbError c.Ans × Store S Sid) :=
  if weather.fails n && canFail c then some (.error .operational, σ.fail s c)
  else σ.answer (weather.answers n) s c

end Store

/-! ## Programs -/

namespace Prog

variable {α β : Type} [DecidableEq S.Table] [DecidableEq Sid]

/-- The program run alone in session `s`, from its `n`th statement on; `none` when a statement
waits for a lock. -/
def play [Fintype Sid] (weather : Store.Weather X) (s : Sid) :
    Nat → Prog (Sql S X) α → Store S Sid → Option (α × Store S Sid)
  | _, .pure a, σ => some (a, σ)
  | n, .stmt c k, σ =>
    (σ.respond weather s n c).bind fun r => (k r.1).play weather s (n + 1) r.2

/-- Two programs that issue like statements whatever they are answered, with results in `Q`. -/
inductive Mirror (R : Likeness S) (Q : α → β → Prop) :
    Prog (Sql S X) α → Prog (Sql S X) β → Prop where
  | pure {a : α} {b : β} (h : Q a b) : Mirror R Q (.pure a) (.pure b)
  | select {t : S.Table} {p p' : S.Row t → Bool} {k k'} (hp : R.Tests p p')
      (hok : ∀ rs rs', R.Rows rs rs' → Mirror R Q (k (.ok rs)) (k' (.ok rs')))
      (herror : ∀ e, Mirror R Q (k (.error e)) (k' (.error e))) :
      Mirror R Q (.stmt (.select t p) k) (.stmt (.select t p') k')
  | get {t : S.Table} {key : Nat} {k k'}
      (hok : ∀ r r', Option.Rel (R.rel t) r r' → Mirror R Q (k (.ok r)) (k' (.ok r')))
      (herror : ∀ e, Mirror R Q (k (.error e)) (k' (.error e))) :
      Mirror R Q (.stmt (.get t key) k) (.stmt (.get t key) k')
  | update {site : S.Site} {t : S.Table} {p p' : S.Row t → Bool} {f f' : S.Row t → S.Row t} {k k'}
      (hp : R.Tests p p') (hf : R.Changes f f') (h : ∀ r, Mirror R Q (k r) (k' r)) :
      Mirror R Q (.stmt (.update site t p f) k) (.stmt (.update site t p' f') k')
  | insert {t : S.Table} {r r' : S.Row t} {k k'} (hr : R.rel t r r')
      (h : ∀ a, Mirror R Q (k a) (k' a)) :
      Mirror R Q (.stmt (.insert t r) k) (.stmt (.insert t r') k')
  | change {t : S.Table} {key : Nat} {f f' : S.Row t → S.Row t} {k k'} (hf : R.Changes f f')
      (h : ∀ a, Mirror R Q (k a) (k' a)) :
      Mirror R Q (.stmt (.change t key f) k) (.stmt (.change t key f') k')
  | flush {k k'} (h : ∀ a, Mirror R Q (k a) (k' a)) :
      Mirror R Q (.stmt .flush k) (.stmt .flush k')
  | commit {k k'} (h : ∀ a, Mirror R Q (k a) (k' a)) :
      Mirror R Q (.stmt .commit k) (.stmt .commit k')
  | rollback {k k'} (h : ∀ a, Mirror R Q (k a) (k' a)) :
      Mirror R Q (.stmt .rollback k) (.stmt .rollback k')
  | ext {x : X.Stmt} {k k'} (h : ∀ a, Mirror R Q (k a) (k' a)) :
      Mirror R Q (.stmt (.ext x) k) (.stmt (.ext x) k')

namespace Mirror

variable {R : Likeness S} {Q : α → β → Prop}

omit [DecidableEq S.Table] in
theorem bind {α' β' : Type} {Q' : α' → β' → Prop} {p : Prog (Sql S X) α} {p' : Prog (Sql S X) β}
    {f : α → Prog (Sql S X) α'} {f' : β → Prog (Sql S X) β'} (hp : Mirror R Q p p')
    (hf : ∀ a b, Q a b → Mirror R Q' (f a) (f' b)) : Mirror R Q' (p.bind f) (p'.bind f') := by
  induction hp with
  | pure h => exact hf _ _ h
  | select htests _ _ ihok iherror => exact .select htests ihok iherror
  | get _ _ ihok iherror => exact .get ihok iherror
  | update htests hchanges _ ih => exact .update htests hchanges ih
  | insert hr _ ih => exact .insert hr ih
  | change hchanges _ ih => exact .change hchanges ih
  | flush _ ih => exact .flush ih
  | commit _ ih => exact .commit ih
  | rollback _ ih => exact .rollback ih
  | ext _ ih => exact .ext ih

/-! ### Runs -/

variable [Fintype Sid] {s : Sid} {σ σ' : Store S Sid} {weather : Store.Weather X}

/-- Both runs wait for a lock, or both end, alike. -/
abbrev Outcomes (R : Likeness S) (s : Sid) (Q : α → β → Prop) :
    Option (α × Store S Sid) → Option (β × Store S Sid) → Prop :=
  Option.Rel fun x y => Q x.1 y.1 ∧ x.2.Alike R s y.2

omit [DecidableEq S.Table] [DecidableEq Sid] [Fintype Sid] in
theorem locked_iff (hσ : σ.Alike R s σ') {t : S.Table} {P P' : S.Row t → Prop}
    (hP : ∀ r r', R.rel t r r' → (P r ↔ P' r')) :
    (∀ s', s' ≠ s → ∀ w ∈ σ.log s' t, P w) ↔ ∀ s', s' ≠ s → ∀ w ∈ σ'.log s' t, P' w :=
  forall_congr' fun s' => imp_congr Iff.rfl ((hσ.log s' t).forall_iff hP)

theorem answer_update (hσ : σ.Alike R s σ') {site : S.Site} {t : S.Table} {p p' : S.Row t → Bool}
    {f f' : S.Row t → S.Row t} (hp : R.Tests p p') (hf : R.Changes f f')
    (ans : (x : X.Stmt) → X.Resp x) :
    Outcomes R s (fun (r r' : Except DbError (List Nat)) => r = r')
      (σ.answer ans s (.update site t p f)) (σ'.answer ans s (.update site t p' f')) := by
  have hhits := Likeness.Rows.filter hp (hσ.view t).rows
  have hfree : (∀ r ∈ (σ.view s t).rows.filter p, ∀ s', s' ≠ s → ∀ w ∈ σ.log s' t,
      S.key t w ≠ S.key t r) ↔ ∀ r ∈ (σ'.view s t).rows.filter p', ∀ s', s' ≠ s →
      ∀ w ∈ σ'.log s' t, S.key t w ≠ S.key t r := by
    refine Likeness.Rows.forall_iff (fun r r' hr => locked_iff hσ fun w w' hw => ?_) hhits
    rw [R.key hw, R.key hr]
  dsimp only [Store.answer]
  by_cases h : ∀ r ∈ (σ.view s t).rows.filter p, ∀ s', s' ≠ s → ∀ w ∈ σ.log s' t,
      S.key t w ≠ S.key t r
  · rw [if_pos h, if_pos (hfree.1 h)]
    refine .some ⟨?_, hσ.write (hhits.map hf)⟩
    rw [hhits.keys]
  · rw [if_neg h, if_neg fun h' => h (hfree.2 h')]
    exact .none

theorem answer_insert (hσ : σ.Alike R s σ') {t : S.Table} {r r' : S.Row t} (hr : R.rel t r r')
    (ans : (x : X.Stmt) → X.Resp x) :
    Outcomes R s (fun (a a' : Except DbError Unit) => a = a')
      (σ.answer ans s (.insert t r)) (σ'.answer ans s (.insert t r')) := by
  have htaken : (((σ.view s t).get (S.key t r)).isSome ∨ ∃ w ∈ (σ.view s t).rows,
      S.clash t w r = true) ↔ (((σ'.view s t).get (S.key t r')).isSome ∨
        ∃ w ∈ (σ'.view s t).rows, S.clash t w r' = true) := by
    refine or_congr ?_ ((hσ.view t).rows.exists_iff fun w w' hw => ?_)
    · have hget := (hσ.view t).get (S.key t r)
      rw [R.key hr] at hget ⊢
      generalize (σ.view s t).get (S.key t r') = o at hget ⊢
      generalize (σ'.view s t).get (S.key t r') = o' at hget ⊢
      cases hget with
      | none => exact Iff.rfl
      | some _ => exact Iff.rfl
    · rw [R.clash hw hr]
  have hfree : (∀ s', s' ≠ s → ∀ w ∈ σ.log s' t, S.key t w ≠ S.key t r ∧ S.clash t w r = false) ↔
      ∀ s', s' ≠ s → ∀ w ∈ σ'.log s' t, S.key t w ≠ S.key t r' ∧ S.clash t w r' = false := by
    refine locked_iff hσ fun w w' hw => ?_
    rw [R.key hw, R.key hr, R.clash hw hr]
  dsimp only [Store.answer]
  by_cases h : ((σ.view s t).get (S.key t r)).isSome ∨ ∃ w ∈ (σ.view s t).rows,
      S.clash t w r = true
  · rw [if_pos h, if_pos (htaken.1 h)]
    exact .some ⟨rfl, hσ⟩
  · rw [if_neg h, if_neg fun h' => h (htaken.2 h')]
    by_cases h : ∀ s', s' ≠ s → ∀ w ∈ σ.log s' t, S.key t w ≠ S.key t r ∧ S.clash t w r = false
    · rw [if_pos h, if_pos (hfree.1 h)]
      exact .some ⟨rfl, hσ.write (.cons hr .nil)⟩
    · rw [if_neg h, if_neg fun h' => h (hfree.2 h')]
      exact .none

omit [DecidableEq S.Table] in
/-- The changes of like stores are sent alike. -/
theorem unlocked_eq (hσ : σ.Alike R s σ') : σ.unlocked s = σ'.unlocked s := by
  have hall : ∀ {cs cs' : List (Change S)}, List.Forall₂ R.Unsent cs cs' →
      ((∀ c ∈ cs, ∀ s', s' ≠ s → ∀ w ∈ σ.log s' c.table, S.key c.table w ≠ c.key) ↔
        ∀ c ∈ cs', ∀ s', s' ≠ s → ∀ w ∈ σ'.log s' c.table, S.key c.table w ≠ c.key) := by
    intro cs cs' hcs
    induction hcs with
    | nil => simp
    | cons hc _ ih =>
      rw [List.forall_mem_cons, List.forall_mem_cons, ih]
      cases hc with
      | @mk t k f f' _ =>
        refine and_congr_left' (locked_iff hσ fun w w' hw => ?_)
        rw [R.key hw]
  exact decide_eq_decide.2 (hall hσ.unsent)

omit [DecidableEq S.Table] [DecidableEq Sid] [Fintype Sid] in
theorem outcomes_bind {α' β' : Type} {Q' : α' → β' → Prop} {o : Option (α' × Store S Sid)}
    {o' : Option (β' × Store S Sid)} {g : α' × Store S Sid → Option (α × Store S Sid)}
    {g' : β' × Store S Sid → Option (β × Store S Sid)} (h : Outcomes R s Q' o o')
    (hg : ∀ a b τ τ', Q' a b → τ.Alike R s τ' → Outcomes R s Q (g (a, τ)) (g' (b, τ'))) :
    Outcomes R s Q (o.bind g) (o'.bind g') := by
  cases h with
  | none => exact .none
  | some h => exact hg _ _ _ _ h.1 h.2

/-- One statement, and the run after it. -/
theorem play_stmt {c c' : Stmt S X} {k : (Sql S X).Resp c → Prog (Sql S X) α}
    {k' : (Sql S X).Resp c' → Prog (Sql S X) β} {n : Nat}
    (hcan : Store.canFail c = Store.canFail c')
    (hfail : Store.canFail c = true → Outcomes R s Q
      ((k (.error .operational)).play weather s (n + 1) (σ.fail s c))
      ((k' (.error .operational)).play weather s (n + 1) (σ'.fail s c')))
    (hanswer : Outcomes R s Q
      ((σ.answer (weather.answers n) s c).bind fun r => (k r.1).play weather s (n + 1) r.2)
      ((σ'.answer (weather.answers n) s c').bind fun r => (k' r.1).play weather s (n + 1) r.2)) :
    Outcomes R s Q (Prog.play weather s n (.stmt c k) σ)
      (Prog.play weather s n (.stmt c' k') σ') := by
  unfold play Store.respond
  rw [← hcan]
  by_cases h : (weather.fails n && Store.canFail c) = true
  · rw [if_pos h, if_pos h]
    rw [Bool.and_eq_true] at h
    exact hfail h.2
  · rw [if_neg h, if_neg h]
    exact hanswer

/-- Like programs over like stores end alike. -/
theorem play {p : Prog (Sql S X) α} {p' : Prog (Sql S X) β} (h : Mirror R Q p p')
    (hσ : σ.Alike R s σ') (n : Nat) :
    Outcomes R s Q (p.play weather s n σ) (p'.play weather s n σ') := by
  induction h generalizing σ σ' n with
  | pure h => exact .some ⟨h, hσ⟩
  | @select t p p' k k' hp _ _ ihok iherror =>
    refine play_stmt rfl (fun _ => iherror _ hσ.abort _) ?_
    exact ihok _ _ (Likeness.Rows.filter hp (hσ.view t).rows) (hσ.load _ _) _
  | @get t key k k' _ _ ihok iherror =>
    refine play_stmt rfl (fun _ => iherror _ hσ.abort _) ?_
    exact ihok _ _ ((hσ.view t).get key) (hσ.load _ _) _
  | @update site t p p' f f' k k' hp hf _ ih =>
    refine play_stmt rfl (fun _ => ih _ hσ.abort _) ?_
    refine outcomes_bind (answer_update hσ hp hf (weather.answers n)) fun a b τ τ' hab hτ => ?_
    subst hab
    exact ih a hτ _
  | insert hr _ ih =>
    refine play_stmt rfl (fun _ => ih _ hσ.discard _) ?_
    refine outcomes_bind (answer_insert hσ hr (weather.answers n)) fun a b τ τ' hab hτ => ?_
    subst hab
    exact ih a hτ _
  | change hf _ ih =>
    refine play_stmt rfl (fun hcan => by cases hcan) ?_
    exact ih _ (hσ.change hf) _
  | flush _ ih =>
    refine play_stmt rfl (fun _ => ih _ hσ.discard _) ?_
    dsimp only [Store.answer]
    rw [unlocked_eq hσ]
    split
    · exact ih _ hσ.flush _
    · exact .none
  | commit _ ih =>
    refine play_stmt rfl (fun _ => ih _ hσ.discard _) ?_
    dsimp only [Store.answer]
    rw [unlocked_eq hσ]
    split
    · exact ih _ hσ.flush.commit _
    · exact .none
  | rollback _ ih =>
    refine play_stmt rfl (fun hcan => by cases hcan) ?_
    exact ih _ hσ.discard _
  | ext _ ih =>
    refine play_stmt rfl (fun hcan => by cases hcan) ?_
    exact ih _ hσ _

end Mirror

/-! ### Programs that end differently -/

/-- The same program but for its results, which are in `Q`. -/
inductive Leaves {L : Lang} (Q : α → β → Prop) : Prog L α → Prog L β → Prop where
  | pure {a : α} {b : β} (h : Q a b) : Leaves Q (.pure a) (.pure b)
  | stmt {c : L.Stmt} {k k'} (h : ∀ r, Leaves Q (k r) (k' r)) : Leaves Q (.stmt c k) (.stmt c k')

namespace Leaves

variable {L : Lang} {Q : α → β → Prop}

theorem refl {Q : α → α → Prop} (h : ∀ a, Q a a) (p : Prog L α) : Leaves Q p p := by
  induction p with
  | pure a => exact .pure (h a)
  | stmt c k ih => exact .stmt ih

theorem bind {α' β' : Type} {Q' : α' → β' → Prop} {p : Prog L α} {p' : Prog L β}
    {f : α → Prog L α'} {f' : β → Prog L β'} (hp : Leaves Q p p')
    (hf : ∀ a b, Q a b → Leaves Q' (f a) (f' b)) : Leaves Q' (p.bind f) (p'.bind f') := by
  induction hp with
  | pure h => exact hf _ _ h
  | stmt _ ih => exact .stmt ih

/-- What does not depend on the difference is the same program. -/
theorem bind_eq {γ : Type} {p : Prog L α} {p' : Prog L β} {f : α → Prog L γ} {f' : β → Prog L γ}
    (hp : Leaves Q p p') (hf : ∀ a b, Q a b → f a = f' b) : p.bind f = p'.bind f' := by
  induction hp with
  | pure h => exact hf _ _ h
  | @stmt c k k' _ ih => exact congrArg (Prog.stmt c) (funext ih)

end Leaves
end Prog

/-! ## Programs that raise -/

namespace Raises

variable {α β α' β' ε : Type}

/-- Like results, or the same exception. -/
inductive Results (Q : α → β → Prop) : Except ε α → Except ε β → Prop where
  | ok {a : α} {b : β} (h : Q a b) : Results Q (.ok a) (.ok b)
  | error (e : ε) : Results Q (.error e) (.error e)

theorem Results.refl (r : Except ε α) : Results Eq r r := by
  cases r with
  | ok a => exact .ok rfl
  | error e => exact .error e

/-- The same result, or like exceptions. -/
inductive Raised (E : ε → ε → Prop) : Except ε α → Except ε α → Prop where
  | ok (a : α) : Raised E (.ok a) (.ok a)
  | error {e e' : ε} (h : E e e') : Raised E (.error e) (.error e')

/-- `Prog.Mirror` for raising programs. -/
def Mirror (R : Likeness S) (Q : α → β → Prop) (m : Raises (Sql S X) ε α)
    (m' : Raises (Sql S X) ε β) : Prop :=
  Prog.Mirror R (Results Q) (ExceptT.run m) (ExceptT.run m')

section Mirror

variable {R : Likeness S} {Q : α → β → Prop} {Q' : α' → β' → Prop}

theorem mirror_pure {a : α} {b : β} (h : Q a b) :
    Mirror R Q (pure a : Raises (Sql S X) ε α) (pure b) := .pure (.ok h)

theorem mirror_throw (e : ε) : Mirror R Q (throw e : Raises (Sql S X) ε α) (throw e) :=
  .pure (.error e)

theorem mirror_bind {m : Raises (Sql S X) ε α} {m' : Raises (Sql S X) ε β}
    {f : α → Raises (Sql S X) ε α'} {f' : β → Raises (Sql S X) ε β'} (hm : Mirror R Q m m')
    (hf : ∀ a b, Q a b → Mirror R Q' (f a) (f' b)) : Mirror R Q' (m >>= f) (m' >>= f') := by
  refine Prog.Mirror.bind hm fun r r' hr => ?_
  cases hr with
  | ok h => exact hf _ _ h
  | error e => exact .pure (.error e)

theorem mirror_tryCatch {m : Raises (Sql S X) ε α} {m' : Raises (Sql S X) ε β}
    {f : ε → Raises (Sql S X) ε α} {f' : ε → Raises (Sql S X) ε β} (hm : Mirror R Q m m')
    (hf : ∀ e, Mirror R Q (f e) (f' e)) : Mirror R Q (tryCatch m f) (tryCatch m' f') := by
  refine Prog.Mirror.bind hm fun r r' hr => ?_
  cases hr with
  | ok h => exact .pure (.ok h)
  | error e => exact hf e

end Mirror

/-- `Prog.Leaves` for raising programs that raise like exceptions. -/
def Leaves {L : Lang} (E : ε → ε → Prop) (m m' : Raises L ε α) : Prop :=
  Prog.Leaves (Raised E) (ExceptT.run m) (ExceptT.run m')

section Leaves

variable {L : Lang} {E : ε → ε → Prop}

theorem leaves_refl (hE : ∀ e, E e e) (m : Raises L ε α) : Leaves E m m := by
  refine Prog.Leaves.refl (fun r => ?_) _
  cases r with
  | ok a => exact .ok a
  | error e => exact .error (hE e)

theorem leaves_bind {m m' : Raises L ε α} {f f' : α → Raises L ε β} (hm : Leaves E m m')
    (hf : ∀ a, Leaves E (f a) (f' a)) : Leaves E (m >>= f) (m' >>= f') := by
  refine Prog.Leaves.bind hm fun r r' hr => ?_
  cases hr with
  | ok a => exact hf a
  | error h => exact .pure (.error h)

end Leaves
end Raises
end Conc
