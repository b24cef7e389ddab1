import NetOps.Conc.Frame
import NetOps.Discovery.Inheritance

/-!
# Discovery.Undisturbed

One session at work on rows that no other session touches meanwhile. `Yields` says what a program
returns, when it returns: exceptions end it and are not followed. A rule for each statement, in
terms of what the session knows.
-/

namespace NetOps
namespace Discovery

open Conc
open DiscoveryFanoutService (Savepoint)

variable {Sid : Type} [DecidableEq Sid] {F : Focus schema} {s : Sid}
  {N U : List Table} {W : (t : Table) → Nat → Option (F.What t)} {σ : Store schema Sid} {α β : Type}

/-- What the session holds in memory of the tables in `N` is up to date. -/
def Current (N : List Table) (s : Sid) :
    (c : Statement) → Except DbError c.Ans → Store schema Sid → Prop
  | .get t k, .ok r, σ => t ∈ N → r = (σ.view s t).get k
  | _, _, _ => True

/-- Other sessions may do anything, but commit no change of what matters; and of the tables in `N`
the session holds no outdated row. -/
def undisturbed (F : Focus schema) (N : List Table) (s : Sid) :
    Prog.Contract lang (Store schema Sid) where
  rely _ σ σ' := (∀ t, F.Agree (σ'.db t) (σ.db t)) ∧ σ'.log s = σ.log s ∧
    σ'.seen s = σ.seen s ∧ σ'.dirty s = σ.dirty s
  act σ c r σ' := Store.Exec s σ c r σ' ∧ Savepoint c r σ σ' ∧ Current N s c r σ
  guar _ _ := True

theorem undisturbed_answer [Fintype Sid] {ans : (x : Ext) → Ext.Answer x} {σ σ' : Store schema Sid}
    {c : Statement} {r : Except DbError c.Ans} (h : σ.answer ans s c = some (r, σ')) :
    (undisturbed F N s).act σ c r σ' := by
  refine ⟨Store.answer_exec h, DiscoveryFanoutService.savepoint_answer h, ?_⟩
  unfold Current
  split
  · intro _
    simp only [Store.answer, Option.some.injEq, Prod.mk.injEq, Except.ok.injEq] at h
    exact h.1.symm
  · trivial

theorem undisturbed_answerBack [Fintype Sid] {ans : (x : Ext) → Ext.Answer x}
    {σ σ' : Store schema Sid} {c : Statement} {r : Except DbError c.Ans}
    (h : σ.answerBack ans s c = some (r, σ')) : (undisturbed F N s).act σ c r σ' := by
  obtain ⟨hexec, hanswer | ⟨t, p, rfl⟩⟩ := Store.answerBack_exec h
  · exact undisturbed_answer hanswer
  · exact ⟨hexec, trivial, trivial⟩

/-- If `m` returns, its result and the state it leaves satisfy `Q`. -/
abbrev Yields (F : Focus schema) (N : List Table) (s : Sid) (m : M α) (σ : Store schema Sid)
    (Q : α → Store schema Sid → Prop) : Prop :=
  Raises.Sat (undisturbed F N s) m σ Q fun _ _ => True

namespace Yields

theorem bind {m : M α} {f : α → M β} {R : α → Store schema Sid → Prop}
    {Q : β → Store schema Sid → Prop} (h : Yields F N s m σ R)
    (hf : ∀ a σ', R a σ' → Yields F N s (f a) σ' Q) : Yields F N s (m >>= f) σ Q :=
  Raises.sat_bind (h.mono hf fun _ _ _ => trivial)

theorem pure {a : α} {Q : α → Store schema Sid → Prop} (h : Q a σ) :
    Yields F N s (Pure.pure a) σ Q := h

theorem throw {e : Exn} {Q : α → Store schema Sid → Prop} : Yields F N s (throw e) σ Q := trivial

theorem imp {m : M α} {Q Q' : α → Store schema Sid → Prop} (h : Yields F N s m σ Q)
    (hQ : ∀ a σ', Q a σ' → Q' a σ') : Yields F N s m σ Q' :=
  h.mono hQ fun _ _ _ => trivial

/-- What is raised is raised again, or leaves the state as `Q` says. -/
theorem tryCatch {m : M α} {h : Exn → M α} {Q : α → Store schema Sid → Prop}
    {E : Exn → Store schema Sid → Prop} (hm : Raises.Sat (undisturbed F N s) m σ Q E)
    (hh : ∀ e σ', E e σ' → Yields F N s (h e) σ' Q) : Yields F N s (MonadExcept.tryCatch m h) σ Q :=
  Raises.sat_tryCatch (hm.mono (fun _ _ hq => hq) hh)

theorem raiseIf {c : Prop} [Decidable c] {e : Exn} {f : Unit → M β}
    {Q : β → Store schema Sid → Prop} (h : ¬ c → Yields F N s (f ()) σ Q) :
    Yields F N s (raiseIf c e >>= f) σ Q := by
  refine Raises.sat_bind ?_
  unfold Discovery.raiseIf
  split
  · exact Raises.sat_throw trivial
  · exact Raises.sat_pure (h ‹_›)

theorem doIf {c : Prop} [Decidable c] {m : M Unit} {Q : Unit → Store schema Sid → Prop}
    (h : c → Yields F N s m σ Q) (h' : ¬ c → Q () σ) : Yields F N s (doIf c m) σ Q := by
  unfold Discovery.doIf
  split
  · exact h ‹_›
  · exact pure (h' ‹_›)

theorem unwrap {r : Except Exn α} {Q : α → Store schema Sid → Prop} (h : ∀ a, r = .ok a → Q a σ) :
    Yields F N s (unwrap r) σ Q := by
  cases r with
  | ok a => exact pure (h a rfl)
  | error e => exact throw

/-! ## Statements -/

/-- A statement of a session that knows `W`. -/
theorem ask {c : Statement} {Q : c.Ans → Store schema Sid → Prop} (h : σ.Knows F s W U)
    (hc : ∀ σ₁ a σ₂, σ₁.Knows F s W U → σ₁.seen s = σ.seen s → Store.Exec s σ₁ c (.ok a) σ₂ →
      Current N s c (.ok a) σ₁ → Q a σ₂) : Yields F N s (ask c) σ Q := by
  refine sat_ask fun σ₁ hrely => ⟨trivial, ?_, fun _ _ _ => trivial⟩
  rintro a σ₂ ⟨hexec, _, hcurrent⟩
  exact hc σ₁ a σ₂ (h.rely hrely.1 hrely.2.1 hrely.2.2.2) hrely.2.2.1 hexec hcurrent

/-- A statement that writes nothing. -/
def Reading : Statement → Prop
  | .select .. => True
  | .get .. => True
  | .ext _ => True
  | _ => False

theorem reading {c : Statement} (hc : Reading c) (h : σ.Knows F s W U) :
    Yields F N s (Discovery.ask c) σ fun _ σ' => σ'.Knows F s W U := by
  refine ask h fun σ₁ a σ₂ h₁ _ hexec _ => ?_
  cases c with
  | select t p => rw [hexec.2]; exact h₁.load _
  | get t k => rw [hexec.2]; exact h₁.load _
  | ext x => rw [show σ₂ = σ₁ from hexec]; exact h₁
  | _ => exact hc.elim

theorem flush (h : σ.Knows F s W U) :
    Yields F N s flush σ fun _ σ' => σ'.Knows F s W [] := by
  refine ask h fun σ₁ a σ₂ h₁ _ hexec _ => ?_
  rw [hexec.2]
  exact h₁.flush

/-- A commit publishes what the session knows. -/
theorem commit (h : σ.Knows F s W U) :
    Yields F N s commit σ fun _ σ' =>
      σ'.Knows F s W [] ∧ ∀ t k, F.shown (σ'.db t) k = W t k := by
  refine ask h fun σ₁ a σ₂ h₁ _ hexec _ => ?_
  rw [hexec.2]
  exact ⟨h₁.commit, h₁.commit_db⟩

/-- A row that matters, as some version of it that the session has seen. -/
theorem get {t : Table} {k : UUID} {x : F.What t} {P : Row t → Prop} (h : σ.Knows F s W U)
    (ht : t ∉ U) (hW : W t k = some x) (hrow : ∀ r, F.of t r = some x → primaryKey t r = k → P r)
    (hseen : t ∉ N → ∀ r ∈ σ.seen s t, primaryKey t r = k → P r) :
    Yields F N s (sessionGet t k) σ fun r σ' =>
      σ'.Knows F s W U ∧ (∃ v, r = some v ∧ P v) ∧
        ∀ t', t' ≠ t → σ'.seen s t' = σ.seen s t' := by
  refine ask h fun σ₁ r σ₂ h₁ hsame hexec hcurrent => ?_
  obtain ⟨hr, rfl⟩ := hexec
  refine ⟨h₁.load _, ?_, fun t' ht' => ?_⟩
  · have hview := h₁.view ht k
    rw [hW] at hview
    obtain ⟨v, hv, hx⟩ := Option.bind_eq_some_iff.1 hview
    have hrowv := hrow v hx ((σ₁.view s t).keyed _ _ hv)
    by_cases hN : t ∈ N
    · exact ⟨v, (hcurrent hN).trans hv, hrowv⟩
    · rcases hr with hr | ⟨v', hr, hmem, hkey⟩
      · exact ⟨v, hr.trans hv, hrowv⟩
      · rw [hsame] at hmem
        exact ⟨v', hr, hseen hN v' hmem hkey⟩
  · rw [← hsame]
    simp [Store.load, Function.update_of_ne ht']

/-- The rows that satisfy `p`. -/
theorem select {t : Table} {p : Row t → Bool} (h : σ.Knows F s W U) (ht : t ∉ U) :
    Yields F N s (select t p) σ fun rows σ' => σ'.Knows F s W U ∧
      ∃ T : Tbl (Row t) (primaryKey t), rows.Perm (T.rows.filter p) ∧
        ∀ k, F.shown T k = W t k := by
  refine ask h fun σ₁ rows σ₂ h₁ _ hexec _ => ?_
  rw [hexec.2]
  exact ⟨h₁.load _, _, hexec.1, h₁.view ht⟩

theorem insert {t : Table} {r : Row t} (h : σ.Knows F s W U) (ht : t ∉ U) :
    Yields F N s (insert t r) σ fun _ σ' => W t (primaryKey t r) = none ∧
      σ'.Knows F s (Function.update W t
        (Function.update (W t) (primaryKey t r) (F.of t r))) U := by
  refine ask h fun σ₁ a σ₂ h₁ _ hexec _ => ?_
  obtain ⟨hfree, _, rfl⟩ := hexec
  exact ⟨h₁.fresh ht hfree, h₁.insert ht r⟩

/-- The committed rows show `W`. -/
def Committed (F : Focus schema) (W : (t : Table) → Nat → Option (F.What t))
    (σ : Store schema Sid) : Prop :=
  ∀ t k, F.shown (σ.db t) k = W t k

/-- Without a commit, the committed rows show what they did. -/
theorem keep {m : M α} {Q : α → Store schema Sid → Prop} (h : Yields F N s m σ Q)
    (hm : Issues (· ≠ .commit) m) (hdb : Committed F W σ) :
    Yields F N s m σ fun a σ' => Q a σ' ∧ Committed F W σ' := by
  refine Raises.Sat.keep (C := undisturbed F N s) ?_ ?_ h hm hdb
  · intro c σ₁ σ₂ hrely hdb t k
    rw [← hdb t k]
    exact hrely.1 t k
  · intro c σ₁ r σ₂ hc hdb hact t k
    rw [hact.1.db_eq (hc.1.ne_commit (by simp)), hdb]

/-- A rollback takes the session back to what is committed. -/
theorem rollback (hdb : Committed F W σ) :
    Yields F N s rollback σ fun _ σ' => σ'.Knows F s W [] ∧ Committed F W σ' := by
  refine sat_ask fun σ₁ hrely => ⟨trivial, ?_, fun _ _ _ => trivial⟩
  rintro a σ₂ ⟨hexec, _⟩
  have hdb₁ : Committed F W σ₁ := fun t k => (hrely.1 t k).trans (hdb t k)
  rw [show σ₂ = σ₁.discard s from hexec]
  refine ⟨⟨fun t k => ?_, fun c hc => ?_⟩, hdb₁⟩
  · have hdirty : (σ₁.discard s).dirty s = [] := Function.update_self ..
    have hlog : (σ₁.discard s).log s t = [] := by simp [Store.discard]
    rw [Store.pending, hdirty, List.foldl_nil, Store.view, hlog, Tbl.overlay_nil]
    exact hdb₁ t k
  · rw [show (σ₁.discard s).dirty s = [] from Function.update_self ..] at hc
    cases hc

/-- A rollback before an exception. -/
theorem giveUp {e : Exn} {Q : β → Store schema Sid → Prop} :
    Yields F N s (Discovery.rollback >>= fun _ => MonadExcept.throw e) σ Q :=
  Raises.sat_bind (sat_ask fun _ _ => ⟨trivial, fun _ _ _ => trivial, fun _ _ _ => trivial⟩)

/-- A row, as it is. -/
theorem getCurrent {t : Table} {k : UUID} (h : σ.Knows F s W U) (ht : t ∉ U) (hN : t ∈ N) :
    Yields F N s (sessionGet t k) σ fun r σ' => σ'.Knows F s W U ∧ r.bind (F.of t) = W t k ∧
      ∀ v, r = some v → primaryKey t v = k := by
  refine ask h fun σ₁ r σ₂ h₁ _ hexec hcurrent => ?_
  rw [hexec.2, hcurrent hN]
  refine ⟨h₁.load _, h₁.view ht k, fun v hv => ?_⟩
  exact (σ₁.view s t).keyed _ _ hv

/-- An update: the rows it matched, by their keys, and what has become of them. -/
theorem update {site : Site} {t : Table} {p : Row t → Bool} {f : Row t → Row t}
    {g : F.What t → F.What t} (h : σ.Knows F s W U) (ht : t ∉ U)
    (hf : ∀ r, F.of t (f r) = (F.of t r).map g) (hkey : ∀ r, primaryKey t (f r) = primaryKey t r) :
    Yields F N s (update site t p f) σ fun ids σ' =>
      σ'.Knows F s (Function.update W t fun k =>
        if k ∈ ids then (W t k).map g else W t k) U ∧
      ∃ T : Tbl (Row t) (primaryKey t), (∀ k, F.shown T k = W t k) ∧
        ids = (T.rows.filter p).map (primaryKey t) := by
  refine ask h fun σ₁ ids σ₂ h₁ _ hexec _ => ?_
  obtain ⟨_, hids, rfl⟩ := hexec
  rw [hids]
  exact ⟨h₁.update ht hf hkey, _, h₁.view ht, rfl⟩

/-- A change of a row in memory. -/
theorem change {t : Table} {k : UUID} {f : Row t → Row t} {x : F.What t} (h : σ.Knows F s W U)
    (hf : F.Respects f) (hW : W t k = some x) :
    Yields F N s (change t k f) σ fun _ σ' => ∃ r, F.of t r = some x ∧ primaryKey t r = k ∧
      σ'.Knows F s (Function.update W t (Function.update (W t) k (F.of t (f r)))) (t :: U) := by
  refine ask h fun σ₁ a σ₂ h₁ _ hexec _ => ?_
  have hrows := h₁.rows t k
  rw [hW] at hrows
  obtain ⟨r, hr, hx⟩ := Option.bind_eq_some_iff.1 hrows
  rw [show σ₂ = _ from hexec]
  exact ⟨r, hx, (σ₁.pending s t).keyed _ _ hr, h₁.change hf hr⟩

/-- A change that keeps what matters. -/
theorem change_keep {t : Table} {k : UUID} {f : Row t → Row t} (h : σ.Knows F s W U)
    (hf : F.Respects f) (hf' : ∀ r, F.of t (f r) = F.of t r) :
    Yields F N s (Discovery.change t k f) σ fun _ σ' => σ'.Knows F s W (t :: U) := by
  refine ask h fun σ₁ a σ₂ h₁ _ hexec _ => ?_
  rw [show σ₂ = _ from hexec]
  exact h₁.change_keep hf hf'

end Yields
end Discovery
end NetOps
