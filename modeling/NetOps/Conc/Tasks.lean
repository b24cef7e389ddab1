import NetOps.Conc.Prog
import NetOps.History
import Mathlib.Logic.Function.Basic

/-!
# Conc.Tasks

Programs over a shared state that answers one statement at a time: alone, and interleaved.

* `Prog.Runs`: a program run alone, its statements answered by a relation. What a program
  guarantees under the contract of being alone (`Prog.alone`) holds of its runs (`Sat.runs`).
* `Pool.Step`: tasks that take turns, one statement at a time, on the state they share; a task
  whose program has ended may start another, which the state may take note of. It labels a step
  with the task and what it did, so a history of the pool records the whole interleaving.
* `Pool.play`: the history that a list of moves makes; `Pool.run_play`: it is one of the pool.
* `Sound`, `Sound.step`: the rule of rely and guarantee. If every program keeps its contract when
  started, and every step of a task is one that the other tasks rely on, then in a history whose
  steps meet a condition each task always keeps its contract, and so does the invariant.
-/

namespace Conc

variable {L : Lang} {G α : Type}

/-! ## Alone -/

namespace Prog

/-- The program, run from `g`, can return `a` and leave `g'`. -/
def Runs (act : G → (s : L.Stmt) → L.Resp s → G → Prop) : Prog L α → G → α → G → Prop
  | .pure a, g, a', g' => a' = a ∧ g' = g
  | .stmt s k, g, a', g' => ∃ r g₁, act g s r g₁ ∧ (k r).Runs act g₁ a' g'

/-- The contract of a program that nothing interrupts. -/
def alone (act : G → (s : L.Stmt) → L.Resp s → G → Prop) : Contract L G where
  rely _ := Eq
  act := act
  guar _ _ := True

variable {act : G → (s : L.Stmt) → L.Resp s → G → Prop} {p : Prog L α} {g g' : G} {a : α}

theorem Sat.runs {Q : α → G → Prop} (h : p.Sat (alone act) g Q) (hrun : p.Runs act g a g') :
    Q a g' := by
  induction p generalizing g with
  | pure b =>
    obtain ⟨rfl, rfl⟩ := hrun
    exact h
  | stmt s k ih =>
    obtain ⟨r, g₁, hact, hrest⟩ := hrun
    exact ih r ((h g rfl).2 r g₁ hact) hrest

/-- A program that is run against a handler runs so, if the handler answers as it may. -/
theorem runs_eval {h : (s : L.Stmt) → G → L.Resp s × G}
    (hanswers : ∀ g s, act g s (h s g).1 (h s g).2) :
    p.Runs act g (p.eval h g).1 (p.eval h g).2 := by
  induction p generalizing g with
  | pure a => exact ⟨rfl, rfl⟩
  | stmt s k ih => exact ⟨_, _, hanswers g s, ih _⟩

/-- To be alone, a program has to answer for its statements only. -/
theorem sat_stmt {s : L.Stmt} {k : L.Resp s → Prog L α} {Q : α → G → Prop}
    (h : ∀ r g₁, act g s r g₁ → (k r).Sat (alone act) g₁ Q) :
    (Prog.stmt s k).Sat (alone act) g Q := by
  rintro _ rfl
  exact ⟨trivial, h⟩

end Prog

namespace Raises

variable {ε : Type} {act : G → (s : L.Stmt) → L.Resp s → G → Prop} {g g' : G}

/-- What a raising program leaves, however it ends. -/
theorem Sat.runs {m : Raises L ε α} {Q : G → Prop}
    (h : Sat (Prog.alone act) m g (fun _ => Q) fun _ => Q) {r : Except ε α}
    (hrun : (ExceptT.run m).Runs act g r g') : Q g' := by
  have hq := Prog.Sat.runs h hrun
  cases r <;> exact hq

end Raises

/-! ## Interleaved -/

variable {Tid : Type}

/-- A shared state, and what each task has still to do. -/
structure Pool (L : Lang) (Tid G : Type) where
  state : G
  task : Tid → Prog L Unit

/-- What a task does in a step. -/
inductive Turn (L : Lang) where
  | answered (s : L.Stmt) (r : L.Resp s)
  | started (p : Prog L Unit)

section Steps

variable (act : Tid → G → (s : L.Stmt) → L.Resp s → G → Prop)
  (starts : Tid → G → Prog L Unit → G → Prop)

inductive Pool.Step [DecidableEq Tid] : Pool L Tid G → Tid × Turn L → Pool L Tid G → Prop where
  | answered {c : Pool L Tid G} {i : Tid} {s : L.Stmt} {k : L.Resp s → Prog L Unit}
      {r : L.Resp s} {g' : G} (htask : c.task i = .stmt s k) (hact : act i c.state s r g') :
      Step c (i, .answered s r) ⟨g', Function.update c.task i (k r)⟩
  | started {c : Pool L Tid G} {i : Tid} {p : Prog L Unit} {g' : G} (htask : c.task i = .pure ())
      (hstart : starts i c.state p g') : Step c (i, .started p) ⟨g', Function.update c.task i p⟩

/-- The condition is asked of the statements that are answered. -/
def Pool.Meets (cond : Tid → G → (s : L.Stmt) → L.Resp s → Prop) (c : Pool L Tid G)
    (e : Tid × Turn L) (_ : Pool L Tid G) : Prop :=
  match e.2 with
  | .answered s r => cond e.1 c.state s r
  | .started _ => True

/-- The tasks rely on what the others guarantee, as far as statements meet the condition; `D` is
what a task leaves when its program ends. -/
structure Sound (cond : Tid → G → (s : L.Stmt) → L.Resp s → Prop) (C : Tid → Prog.Contract L G)
    (D : Tid → G → Prop) (I : G → Prop) : Prop where
  rely_refl : ∀ i s g, (C i).rely s g g
  rely_trans : ∀ i s g₁ g₂ g₃, (C i).rely s g₁ g₂ → (C i).rely s g₂ g₃ → (C i).rely s g₁ g₃
  rely_done : ∀ i g g', D i g → (∀ s, (C i).rely s g g') → D i g'
  started : ∀ i g p g', I g → D i g → starts i g p g' →
    p.Sat (C i) g' (fun _ => D i) ∧ I g' ∧ ∀ j, j ≠ i → ∀ s, (C j).rely s g g'
  answered : ∀ i g s r g', I g → (C i).guar g s → cond i g s r → act i g s r g' →
    (C i).act g s r g' ∧ I g' ∧ ∀ j, j ≠ i → ∀ s', (C j).rely s' g g'

end Steps

/-- The invariant holds, and every task keeps its contract from here on. -/
def Pool.Fine (C : Tid → Prog.Contract L G) (D : Tid → G → Prop) (I : G → Prop)
    (c : Pool L Tid G) : Prop :=
  I c.state ∧ ∀ i, (c.task i).Sat (C i) c.state fun _ => D i

variable {act : Tid → G → (s : L.Stmt) → L.Resp s → G → Prop}
  {starts : Tid → G → Prog L Unit → G → Prop} {cond : Tid → G → (s : L.Stmt) → L.Resp s → Prop}
  {C : Tid → Prog.Contract L G} {D : Tid → G → Prop} {I : G → Prop}
  {c c' : Pool L Tid G} {e : Tid × Turn L}

namespace Sound

variable (h : Sound act starts cond C D I)

include h

theorem sat_rely {i : Tid} {p : Prog L Unit} {g g' : G} (hp : p.Sat (C i) g fun _ => D i)
    (hrely : ∀ s, (C i).rely s g g') : p.Sat (C i) g' fun _ => D i := by
  cases p with
  | pure a => exact h.rely_done i g g' hp hrely
  | stmt s k => exact fun g'' hg'' => hp g'' (h.rely_trans i s g g' g'' (hrely s) hg'')

/-- The task that is about to be answered guarantees its statement. -/
theorem guar {i : Tid} {s : L.Stmt} {k : L.Resp s → Prog L Unit} (hc : c.Fine C D I)
    (htask : c.task i = .stmt s k) : (C i).guar c.state s := by
  have hsat := hc.2 i
  rw [htask] at hsat
  exact (hsat c.state (h.rely_refl i s c.state)).1

variable [DecidableEq Tid]

theorem step (hc : c.Fine C D I) (hstep : Pool.Step act starts c e c')
    (hcond : Pool.Meets cond c e c') : c'.Fine C D I := by
  cases hstep with
  | @answered i s k r g' htask hact =>
    obtain ⟨hown, hi, hothers⟩ := h.answered i c.state s r g' hc.1 (h.guar hc htask) hcond hact
    refine ⟨hi, fun j => ?_⟩
    by_cases hj : j = i
    · subst hj
      have hsat := hc.2 j
      rw [htask] at hsat
      dsimp only
      rw [Function.update_self]
      exact (hsat c.state (h.rely_refl j s c.state)).2 r g' hown
    · dsimp only
      rw [Function.update_of_ne hj]
      exact h.sat_rely (hc.2 j) (hothers j hj)
  | @started i p g' htask hstart =>
    have hdone : D i c.state := by
      have hsat := hc.2 i
      rwa [htask] at hsat
    obtain ⟨hown, hi, hothers⟩ := h.started i c.state p g' hc.1 hdone hstart
    refine ⟨hi, fun j => ?_⟩
    by_cases hj : j = i
    · subst hj
      dsimp only
      rw [Function.update_self]
      exact hown
    · dsimp only
      rw [Function.update_of_ne hj]
      exact h.sat_rely (hc.2 j) (hothers j hj)

/-- What a step shows of a pool that is fine, a history shows throughout. -/
theorem throughout {P : Pool L Tid G → Tid × Turn L → Pool L Tid G → Prop}
    {turns : List ((Tid × Turn L) × Pool L Tid G)}
    (hp : ∀ c e c', c.Fine C D I → Pool.Step act starts c e c' → Pool.Meets cond c e c' → P c e c')
    (hc : c.Fine C D I) (hrun : History.Run (Pool.Step act starts) c turns)
    (hcond : History.Throughout (Pool.Meets cond) c turns) : History.Throughout P c turns :=
  History.throughout_of_inv
    (fun c e c' hfine hstep hmeets => ⟨hp c e c' hfine hstep hmeets, h.step hfine hstep hmeets⟩) hc
    hrun hcond

end Sound

/-! ## Runs that are played -/

/-- A choice of the task that goes on, with the answer it is given, or of one that starts. -/
inductive Move (L : Lang) (Tid G : Type) where
  | answer (i : Tid) (respond : G → (s : L.Stmt) → L.Resp s × G)
  | start (i : Tid) (p : Prog L Unit) (note : G → G)

/-- The move is one of the pool in every state. -/
def Move.Valid (act : Tid → G → (s : L.Stmt) → L.Resp s → G → Prop)
    (starts : Tid → G → Prog L Unit → G → Prop) : Move L Tid G → Prop
  | .answer i respond => ∀ g s, act i g s (respond g s).1 (respond g s).2
  | .start i p note => ∀ g, starts i g p (note g)

variable [DecidableEq Tid]

/-- The step that a move makes, if the task can make it. -/
def Pool.move (c : Pool L Tid G) : Move L Tid G → Option ((Tid × Turn L) × Pool L Tid G)
  | .answer i respond =>
    match c.task i with
    | .pure _ => none
    | .stmt s k =>
      let answer := respond c.state s
      some ((i, .answered s answer.1), ⟨answer.2, Function.update c.task i (k answer.1)⟩)
  | .start i p note =>
    match c.task i with
    | .pure _ => some ((i, .started p), ⟨note c.state, Function.update c.task i p⟩)
    | .stmt _ _ => none

/-- The history of the moves, up to one that its task cannot make. -/
def Pool.play (c : Pool L Tid G) : List (Move L Tid G) → List ((Tid × Turn L) × Pool L Tid G)
  | [] => []
  | m :: moves =>
    match c.move m with
    | none => []
    | some e => e :: e.2.play moves

theorem Pool.step_move {m : Move L Tid G} (hm : m.Valid act starts) (h : c.move m = some (e, c')) :
    Pool.Step act starts c e c' := by
  cases m with
  | answer i respond =>
    dsimp only [Pool.move] at h
    split at h
    · cases h
    · rename_i s k htask
      cases h
      exact .answered htask (hm c.state s)
  | start i p note =>
    dsimp only [Pool.move] at h
    split at h
    · rename_i htask
      cases h
      exact .started htask (hm c.state)
    · cases h

/-- A run whose first move is a start. -/
theorem Pool.run_start {i : Tid} {p : Prog L Unit} {note : G → G} {moves : List (Move L Tid G)}
    (htask : c.task i = .pure ()) (hstart : starts i c.state p (note c.state))
    (hrest : History.Run (Pool.Step act starts) ⟨note c.state, Function.update c.task i p⟩
      (Pool.play ⟨note c.state, Function.update c.task i p⟩ moves)) :
    History.Run (Pool.Step act starts) c (c.play (.start i p note :: moves)) := by
  rw [Pool.play, Pool.move, htask]
  exact ⟨.started htask hstart, hrest⟩

/-- A run whose first move is an answer. -/
theorem Pool.run_answer {i : Tid} {respond : G → (s : L.Stmt) → L.Resp s × G}
    {moves : List (Move L Tid G)} {s : L.Stmt} {k : L.Resp s → Prog L Unit}
    (htask : c.task i = .stmt s k)
    (hact : act i c.state s (respond c.state s).1 (respond c.state s).2)
    (hrest : History.Run (Pool.Step act starts)
      ⟨(respond c.state s).2, Function.update c.task i (k (respond c.state s).1)⟩
      (Pool.play ⟨(respond c.state s).2, Function.update c.task i (k (respond c.state s).1)⟩
        moves)) :
    History.Run (Pool.Step act starts) c (c.play (.answer i respond :: moves)) := by
  rw [Pool.play, Pool.move, htask]
  exact ⟨.answered htask hact, hrest⟩

theorem Pool.run_play {moves : List (Move L Tid G)} (h : ∀ m ∈ moves, m.Valid act starts) :
    History.Run (Pool.Step act starts) c (c.play moves) := by
  induction moves generalizing c with
  | nil => trivial
  | cons m moves ih =>
    unfold Pool.play
    split
    · trivial
    · rename_i e hmove
      exact ⟨Pool.step_move (h m List.mem_cons_self) hmove,
        ih fun m hm => h m (List.mem_cons_of_mem _ hm)⟩

end Conc
