import Mathlib.Tactic.Common

/-!
# Conc.Prog

Programs as resumptions. A program over a statement language issues one statement at a time and
continues with the answer it is given; it says nothing about how statements are answered, so one
program text can be run alone, or interleaved with others between any two statements.

* `Prog`, its monad, and `Prog.issue`.
* `Prog.All P`: every statement the program can issue, whatever the answers, satisfies `P`.
* `Prog.Sat C`: the rely/guarantee condition of a program against a contract `C`. The contract
  says what may happen while the program waits (`rely`), how a statement may be answered (`act`)
  and what every statement must satisfy when it is issued (`guar`).
* `Prog.Returns`: what a program returns when its statements are answered as in a trace.
* `Prog.eval`: the program run alone against a deterministic handler.
-/

namespace Conc

/-- A statement language: the statements, and the type of the answers to each. -/
structure Lang where
  Stmt : Type
  Resp : Stmt → Type

/-- A statement with the answer it got. -/
structure Exchange (L : Lang) where
  stmt : L.Stmt
  resp : L.Resp stmt

inductive Prog (L : Lang) (α : Type) : Type where
  | pure (a : α) : Prog L α
  | stmt (s : L.Stmt) (k : L.Resp s → Prog L α) : Prog L α

namespace Prog

variable {L : Lang} {α β γ : Type}

def bind : Prog L α → (α → Prog L β) → Prog L β
  | .pure a, f => f a
  | .stmt s k, f => .stmt s fun r => (k r).bind f

instance : Monad (Prog L) where
  pure := Prog.pure
  bind := Prog.bind

/-- Issue one statement and return its answer. -/
def issue (s : L.Stmt) : Prog L (L.Resp s) := .stmt s .pure

theorem bind_pure' (p : Prog L α) : p.bind .pure = p := by
  induction p with
  | pure a => rfl
  | stmt s k ih => simp only [bind, ih]

theorem bind_assoc' (p : Prog L α) (f : α → Prog L β) (g : β → Prog L γ) :
    (p.bind f).bind g = p.bind fun a => (f a).bind g := by
  induction p with
  | pure a => rfl
  | stmt s k ih => simp only [bind, ih]

@[simp] theorem pure_eq (a : α) : (Pure.pure a : Prog L α) = .pure a := rfl

@[simp] theorem bind_eq (p : Prog L α) (f : α → Prog L β) : p >>= f = p.bind f := rfl

instance : LawfulMonad (Prog L) :=
  LawfulMonad.mk' _ (fun p => bind_pure' p) (fun _ _ => rfl) (fun p f g => bind_assoc' p f g)

/-! ## Every statement of a program -/

/-- Every statement the program can issue, whatever answers it gets, satisfies `P`. -/
def All (P : L.Stmt → Prop) : Prog L α → Prop
  | .pure _ => True
  | .stmt s k => P s ∧ ∀ r, (k r).All P

theorem All.bind {P : L.Stmt → Prop} {p : Prog L α} {f : α → Prog L β} (hp : p.All P)
    (hf : ∀ a, (f a).All P) : (p.bind f).All P := by
  induction p with
  | pure a => exact hf a
  | stmt s k ih => exact ⟨hp.1, fun r => ih r (hp.2 r)⟩

theorem All.mono {P P' : L.Stmt → Prop} {p : Prog L α} (h : ∀ s, P s → P' s) (hp : p.All P) :
    p.All P' := by
  induction p with
  | pure a => trivial
  | stmt s k ih => exact ⟨h s hp.1, fun r => ih r (hp.2 r)⟩

theorem All.of_forall {P : L.Stmt → Prop} {p : Prog L α} (h : ∀ s, P s) : p.All P := by
  induction p with
  | pure a => trivial
  | stmt s k ih => exact ⟨h s, ih⟩

/-! ## Rely and guarantee -/

/-- What a program may assume and must keep, over an abstract state `G`: between two statements
the state moves by `rely` (which may depend on the statement the program waits to issue), an
issued statement is answered by `act`, and it must satisfy `guar` in the state it is issued in. -/
structure Contract (L : Lang) (G : Type) where
  rely : L.Stmt → G → G → Prop
  act : G → (s : L.Stmt) → L.Resp s → G → Prop
  guar : G → L.Stmt → Prop

variable {G : Type}

/-- The program keeps the contract from state `g`, and its results satisfy `Q`. -/
def Sat (C : Contract L G) : Prog L α → G → (α → G → Prop) → Prop
  | .pure a, g, Q => Q a g
  | .stmt s k, g, Q => ∀ g', C.rely s g g' →
      C.guar g' s ∧ ∀ r g'', C.act g' s r g'' → (k r).Sat C g'' Q

theorem Sat.mono {C : Contract L G} {p : Prog L α} {g : G} {Q Q' : α → G → Prop}
    (h : ∀ a g, Q a g → Q' a g) (hp : p.Sat C g Q) : p.Sat C g Q' := by
  induction p generalizing g with
  | pure a => exact h a g hp
  | stmt s k ih =>
    intro g' hr
    exact ⟨(hp g' hr).1, fun r g'' ha => ih r ((hp g' hr).2 r g'' ha)⟩

theorem sat_bind {C : Contract L G} {p : Prog L α} {f : α → Prog L β} {g : G}
    {Q : β → G → Prop} : (p.bind f).Sat C g Q ↔ p.Sat C g fun a g' => (f a).Sat C g' Q := by
  induction p generalizing g with
  | pure a => rfl
  | stmt s k ih =>
    constructor
    · intro h g' hr
      exact ⟨(h g' hr).1, fun r g'' ha => (ih r).1 ((h g' hr).2 r g'' ha)⟩
    · intro h g' hr
      exact ⟨(h g' hr).1, fun r g'' ha => (ih r).2 ((h g' hr).2 r g'' ha)⟩

/-- An invariant that everything keeps, for a program all of whose statements satisfy `P`. -/
theorem All.sat {C : Contract L G} {P : L.Stmt → Prop} {I : G → Prop}
    (hrely : ∀ s g g', C.rely s g g' → I g → I g')
    (hact : ∀ s g r g', P s → I g → C.act g s r g' → I g')
    (hguar : ∀ s g, P s → I g → C.guar g s) {p : Prog L α} (hp : p.All P) {g : G} (hg : I g) :
    p.Sat C g fun _ g' => I g' := by
  induction p generalizing g with
  | pure a => exact hg
  | stmt s k ih =>
    intro g' hr
    have hg' : I g' := hrely s g g' hr hg
    exact ⟨hguar s g' hp.1 hg', fun r g'' ha => ih r (hp.2 r) (hact s g' r g'' hp.1 hg' ha)⟩

/-- An invariant that the statements of `P` keep holds too where a program ends. -/
theorem Sat.keep {C : Contract L G} {P : L.Stmt → Prop} {I : G → Prop}
    (hrely : ∀ s g g', C.rely s g g' → I g → I g')
    (hact : ∀ s g r g', P s → I g → C.act g s r g' → I g') {p : Prog L α} {g : G}
    {Q : α → G → Prop} (h : p.Sat C g Q) (hp : p.All P) (hg : I g) :
    p.Sat C g fun a g' => Q a g' ∧ I g' := by
  induction p generalizing g with
  | pure a => exact ⟨h, hg⟩
  | stmt s k ih =>
    intro g' hr
    refine ⟨(h g' hr).1, fun r g'' ha => ?_⟩
    have hg' : I g' := hrely s g g' hr hg
    exact ih r ((h g' hr).2 r g'' ha) (hp.2 r) (hact s g' r g'' hp.1 hg' ha)

/-! ## Traces -/

/-- The program returns `a` when its statements are answered as in the trace. -/
inductive Returns : Prog L α → List (Exchange L) → α → Prop
  | pure (a : α) : Returns (.pure a) [] a
  | stmt {s : L.Stmt} {k : L.Resp s → Prog L α} {r : L.Resp s} {tr : List (Exchange L)} {a : α}
      (h : Returns (k r) tr a) : Returns (.stmt s k) (⟨s, r⟩ :: tr) a

theorem returns_bind {p : Prog L α} {f : α → Prog L β} {tr : List (Exchange L)} {b : β} :
    (p.bind f).Returns tr b ↔
      ∃ a tr₁ tr₂, tr = tr₁ ++ tr₂ ∧ p.Returns tr₁ a ∧ (f a).Returns tr₂ b := by
  induction p generalizing tr with
  | pure a =>
    constructor
    · exact fun h => ⟨a, [], tr, rfl, .pure a, h⟩
    · rintro ⟨_, _, _, rfl, ⟨⟩, h⟩
      exact h
  | stmt s k ih =>
    constructor
    · intro h
      cases h with
      | stmt h =>
        obtain ⟨a, tr₁, tr₂, rfl, h₁, h₂⟩ := (ih _).1 h
        exact ⟨a, _, tr₂, rfl, .stmt h₁, h₂⟩
    · rintro ⟨a, _, tr₂, rfl, h₁, h₂⟩
      cases h₁ with
      | stmt h₁ => exact .stmt ((ih _).2 ⟨a, _, tr₂, rfl, h₁, h₂⟩)

/-- The contract, over the state and the statements issued so far. -/
def Contract.traced (C : Contract L G) : Contract L (G × List (Exchange L)) where
  rely s g g' := C.rely s g.1 g'.1 ∧ g'.2 = g.2
  act g s r g' := C.act g.1 s r g'.1 ∧ g'.2 = g.2 ++ [⟨s, r⟩]
  guar g s := C.guar g.1 s

/-- A program that keeps a contract returns its results on the trace of its statements. -/
theorem Sat.traced {C : Contract L G} {p : Prog L α} {g : G} {Q : α → G → Prop}
    (h : p.Sat C g Q) (tr : List (Exchange L)) :
    p.Sat C.traced (g, tr) fun a g' =>
      Q a g'.1 ∧ ∃ tr', g'.2 = tr ++ tr' ∧ p.Returns tr' a := by
  induction p generalizing g tr with
  | pure a => exact ⟨h, [], by simp, .pure a⟩
  | stmt s k ih =>
    rintro ⟨g', tr₁⟩ ⟨hrely, htr⟩
    change tr₁ = tr at htr
    subst htr
    refine ⟨(h g' hrely).1, ?_⟩
    rintro r ⟨g'', _⟩ ⟨hact, rfl⟩
    refine (ih r ((h g' hrely).2 r g'' hact) (tr₁ ++ [⟨s, r⟩])).mono ?_
    rintro a ⟨g₃, _⟩ ⟨hq, tr', rfl, hreturns⟩
    exact ⟨hq, ⟨s, r⟩ :: tr', by simp, .stmt hreturns⟩

/-! ## Running a program alone -/

/-- Run the program against a handler that answers every statement at once. -/
def eval (h : (s : L.Stmt) → G → L.Resp s × G) : Prog L α → G → α × G
  | .pure a, g => (a, g)
  | .stmt s k, g => (k (h s g).1).eval h (h s g).2

theorem eval_bind (h : (s : L.Stmt) → G → L.Resp s × G) (p : Prog L α) (f : α → Prog L β) (g : G) :
    (p.bind f).eval h g = (f (p.eval h g).1).eval h (p.eval h g).2 := by
  induction p generalizing g with
  | pure a => rfl
  | stmt s k ih => exact ih _ _

/-- The trace of the program run alone. -/
def trace (h : (s : L.Stmt) → G → L.Resp s × G) : Prog L α → G → List (Exchange L)
  | .pure _, _ => []
  | .stmt s k, g => ⟨s, (h s g).1⟩ :: (k (h s g).1).trace h (h s g).2

theorem returns_eval (h : (s : L.Stmt) → G → L.Resp s × G) (p : Prog L α) (g : G) :
    p.Returns (p.trace h g) (p.eval h g).1 := by
  induction p generalizing g with
  | pure a => exact .pure a
  | stmt s k ih => exact .stmt (ih _ _)

/-- Every answer of a trace is one of the handler. -/
theorem mem_trace {h : (s : L.Stmt) → G → L.Resp s × G} {p : Prog L α} {g : G} {x : Exchange L}
    (hx : x ∈ p.trace h g) : ∃ g', x.resp = (h x.stmt g').1 := by
  induction p generalizing g with
  | pure a => cases hx
  | stmt s k ih =>
    obtain rfl | hx := List.mem_cons.1 hx
    · exact ⟨g, rfl⟩
    · exact ih _ hx

end Prog

/-! ## Programs that raise -/

/-- A program that may raise an exception of type `ε`. -/
abbrev Raises (L : Lang) (ε α : Type) := ExceptT ε (Prog L) α

namespace Raises

variable {L : Lang} {ε α β : Type} {P : L.Stmt → Prop}

/-- Every statement of a raising program. -/
def All (P : L.Stmt → Prop) (m : Raises L ε α) : Prop := Prog.All P (ExceptT.run m)

theorem all_pure (a : α) : All P (pure a : Raises L ε α) := trivial

theorem all_throw (e : ε) : All P (throw e : Raises L ε α) := trivial

theorem all_bind {m : Raises L ε α} {f : α → Raises L ε β} (hm : All P m) (hf : ∀ a, All P (f a)) :
    All P (m >>= f) := by
  refine Prog.All.bind hm fun r => ?_
  cases r with
  | ok a => exact hf a
  | error e => trivial

theorem all_tryCatch {m : Raises L ε α} {h : ε → Raises L ε α} (hm : All P m)
    (hh : ∀ e, All P (h e)) : All P (tryCatch m h) := by
  refine Prog.All.bind hm fun r => ?_
  cases r with
  | ok a => trivial
  | error e => exact hh e

theorem all_ite {c : Prop} [Decidable c] {m m' : Raises L ε α} (h : c → All P m)
    (h' : ¬ c → All P m') : All P (if c then m else m') := by
  split
  · exact h ‹_›
  · exact h' ‹_›

theorem all_forM {xs : List α} {f : α → Raises L ε PUnit} (h : ∀ a ∈ xs, All P (f a)) :
    All P (forM xs f) := by
  induction xs with
  | nil => exact all_pure _
  | cons x xs ih =>
    rw [List.forM_cons]
    exact all_bind (h x (by simp)) fun _ => ih fun a ha => h a (by simp [ha])

theorem all_foldlM {xs : List α} {f : β → α → Raises L ε β} (h : ∀ b, ∀ a ∈ xs, All P (f b a)) :
    ∀ b, All P (xs.foldlM f b) := by
  induction xs with
  | nil => exact fun b => all_pure b
  | cons x xs ih =>
    intro b
    rw [List.foldlM_cons]
    exact all_bind (h b x (by simp)) fun b' => ih (fun b a ha => h b a (by simp [ha])) b'

/-! ### The contract of a raising program -/

variable {G : Type} {C : Prog.Contract L G}

/-- `Prog.Sat` with one postcondition for results and one for exceptions. -/
def Sat (C : Prog.Contract L G) (m : Raises L ε α) (g : G) (Q : α → G → Prop)
    (E : ε → G → Prop) : Prop :=
  Prog.Sat C (ExceptT.run m) g fun r g' => match r with
    | .ok a => Q a g'
    | .error e => E e g'

theorem sat_pure {a : α} {g : G} {Q : α → G → Prop} {E : ε → G → Prop} (h : Q a g) :
    Sat C (pure a : Raises L ε α) g Q E := h

theorem sat_throw {e : ε} {g : G} {Q : α → G → Prop} {E : ε → G → Prop} (h : E e g) :
    Sat C (throw e : Raises L ε α) g Q E := h

theorem sat_bind {m : Raises L ε α} {f : α → Raises L ε β} {g : G} {Q : β → G → Prop}
    {E : ε → G → Prop} (h : Sat C m g (fun a g' => Sat C (f a) g' Q E) E) :
    Sat C (m >>= f) g Q E := by
  refine Prog.sat_bind.2 (Prog.Sat.mono (fun r g' hr => ?_) h)
  cases r with
  | ok a => exact hr
  | error e => exact hr

theorem sat_tryCatch {m : Raises L ε α} {h : ε → Raises L ε α} {g : G} {Q : α → G → Prop}
    {E : ε → G → Prop} (hm : Sat C m g Q fun e g' => Sat C (h e) g' Q E) :
    Sat C (tryCatch m h) g Q E := by
  refine Prog.sat_bind.2 (Prog.Sat.mono (fun r g' hr => ?_) hm)
  cases r with
  | ok a => exact hr
  | error e => exact hr

theorem Sat.mono {m : Raises L ε α} {g : G} {Q Q' : α → G → Prop} {E E' : ε → G → Prop}
    (hq : ∀ a g, Q a g → Q' a g) (he : ∀ e g, E e g → E' e g) (hm : Sat C m g Q E) :
    Sat C m g Q' E' := by
  refine Prog.Sat.mono (fun r g' hr => ?_) hm
  cases r with
  | ok a => exact hq a g' hr
  | error e => exact he e g' hr

/-- A fold: what holds of the first items is carried over each item. -/
theorem sat_foldlM {l : List α} {f : β → α → Raises L ε β} {E : ε → G → Prop}
    {I : List α → β → G → Prop}
    (hstep : ∀ done x b g, I done b g → Sat C (f b x) g (I (done ++ [x])) E) :
    ∀ done b g, I done b g → Sat C (l.foldlM f b) g (I (done ++ l)) E := by
  induction l with
  | nil =>
    intro done b g h
    rw [List.append_nil]
    exact sat_pure h
  | cons x l ih =>
    intro done b g h
    rw [List.foldlM_cons]
    refine sat_bind ((hstep done x b g h).mono (fun b' g' h' => ?_) fun _ _ he => he)
    have hrest := ih (done ++ [x]) b' g' h'
    rw [List.append_assoc] at hrest
    exact hrest

/-- A fold over a list: what holds before an item of it is carried over the item. -/
theorem sat_foldlM_list {l : List α} {f : β → α → Raises L ε β} {E : ε → G → Prop}
    {I : List α → β → G → Prop}
    (hstep : ∀ done x rest b g, l = done ++ x :: rest → I done b g →
      Sat C (f b x) g (I (done ++ [x])) E) {b : β} {g : G} (hg : I [] b g) :
    Sat C (l.foldlM f b) g (I l) E := by
  suffices hrest : ∀ rest done b g, l = done ++ rest → I done b g →
      Sat C (rest.foldlM f b) g (I l) E from hrest l [] b g rfl hg
  intro rest
  induction rest with
  | nil =>
    intro done b g hl hi
    rw [List.append_nil] at hl
    exact sat_pure (hl ▸ hi)
  | cons x rest ih =>
    intro done b g hl hi
    rw [List.foldlM_cons]
    refine sat_bind ((hstep done x rest b g hl hi).mono (fun b' g' hi' => ?_) fun _ _ he => he)
    exact ih (done ++ [x]) b' g' (by rw [hl, List.append_assoc]; rfl) hi'

/-- A loop: what holds of the state is carried over each item. -/
theorem sat_forM {xs : List α} {f : α → Raises L ε PUnit} {E : ε → G → Prop} {I : G → Prop}
    (hstep : ∀ x ∈ xs, ∀ g, I g → Sat C (f x) g (fun _ => I) E) {g : G} (hg : I g) :
    Sat C (forM xs f) g (fun _ => I) E := by
  induction xs generalizing g with
  | nil => exact sat_pure hg
  | cons x xs ih =>
    rw [List.forM_cons]
    refine sat_bind ((hstep x List.mem_cons_self g hg).mono (fun _ g' hg' => ?_) fun _ _ he => he)
    exact ih (fun y hy => hstep y (List.mem_cons_of_mem x hy)) hg'

/-- `Prog.Sat.keep` for raising programs. -/
theorem Sat.keep {I : G → Prop} (hrely : ∀ s g g', C.rely s g g' → I g → I g')
    (hact : ∀ s g r g', P s → I g → C.act g s r g' → I g') {m : Raises L ε α} {g : G}
    {Q : α → G → Prop} {E : ε → G → Prop} (h : Sat C m g Q E) (hm : All P m) (hg : I g) :
    Sat C m g (fun a g' => Q a g' ∧ I g') E := by
  refine Prog.Sat.mono (fun r g' hr => ?_) (Prog.Sat.keep hrely hact h hm hg)
  cases r with
  | ok a => exact hr
  | error e => exact hr.1

/-- `Prog.All.sat` for raising programs. -/
theorem All.sat {I : G → Prop} (hrely : ∀ s g g', C.rely s g g' → I g → I g')
    (hact : ∀ s g r g', P s → I g → C.act g s r g' → I g')
    (hguar : ∀ s g, P s → I g → C.guar g s) {m : Raises L ε α} (hm : All P m) {g : G}
    (hg : I g) : Sat C m g (fun _ => I) (fun _ => I) := by
  refine Prog.Sat.mono (fun r g' hr => ?_) (Prog.All.sat hrely hact hguar hm hg)
  cases r with
  | ok a => exact hr
  | error e => exact hr

/-- A contract that asks for nothing is kept by every program. -/
theorem sat_true (hguar : ∀ s g, C.guar g s) (m : Raises L ε α) (g : G) :
    Sat C m g (fun _ _ => True) fun _ _ => True :=
  All.sat (P := fun _ => True) (I := fun _ => True) (fun _ _ _ _ _ => trivial)
    (fun _ _ _ _ _ _ _ => trivial) (fun s g _ _ => hguar s g)
    (Prog.All.of_forall fun _ => trivial) trivial

/-! ### The traces of a raising program -/

/-- The program ends so when its statements are answered as in the trace. -/
def Ends (m : Raises L ε α) (tr : List (Exchange L)) (r : Except ε α) : Prop :=
  Prog.Returns (ExceptT.run m) tr r

theorem ends_pure {a : α} {tr : List (Exchange L)} {r : Except ε α} :
    Ends (pure a : Raises L ε α) tr r ↔ tr = [] ∧ r = .ok a := by
  constructor
  · rintro ⟨⟩
    exact ⟨rfl, rfl⟩
  · rintro ⟨rfl, rfl⟩
    exact .pure _

/-- A sequence raises what its first part raises, or ends as its second part does. -/
theorem ends_bind {m : Raises L ε α} {f : α → Raises L ε β} {tr : List (Exchange L)}
    {r : Except ε β} : Ends (m >>= f) tr r ↔
      (∃ e, r = .error e ∧ Ends m tr (.error e)) ∨
        ∃ a tr₁ tr₂, tr = tr₁ ++ tr₂ ∧ Ends m tr₁ (.ok a) ∧ Ends (f a) tr₂ r := by
  refine Prog.returns_bind.trans ⟨?_, ?_⟩
  · rintro ⟨e | a, tr₁, tr₂, rfl, h₁, h₂⟩
    · cases h₂
      exact .inl ⟨e, rfl, by rwa [List.append_nil]⟩
    · exact .inr ⟨a, tr₁, tr₂, rfl, h₁, h₂⟩
  · rintro (⟨e, rfl, h⟩ | ⟨a, tr₁, tr₂, rfl, h₁, h₂⟩)
    · exact ⟨.error e, tr, [], (List.append_nil tr).symm, h, .pure _⟩
    · exact ⟨.ok a, tr₁, tr₂, rfl, h₁, h₂⟩

theorem ends_tryCatch {m : Raises L ε α} {h : ε → Raises L ε α} {tr : List (Exchange L)}
    {r : Except ε α} : Ends (tryCatch m h) tr r ↔
      (∃ a, r = .ok a ∧ Ends m tr (.ok a)) ∨
        ∃ e tr₁ tr₂, tr = tr₁ ++ tr₂ ∧ Ends m tr₁ (.error e) ∧ Ends (h e) tr₂ r := by
  refine Prog.returns_bind.trans ⟨?_, ?_⟩
  · rintro ⟨e | a, tr₁, tr₂, rfl, h₁, h₂⟩
    · exact .inr ⟨e, tr₁, tr₂, rfl, h₁, h₂⟩
    · cases h₂
      exact .inl ⟨a, rfl, by rwa [List.append_nil]⟩
  · rintro (⟨a, rfl, h⟩ | ⟨e, tr₁, tr₂, rfl, h₁, h₂⟩)
    · exact ⟨.ok a, tr, [], (List.append_nil tr).symm, h, .pure _⟩
    · exact ⟨.error e, tr₁, tr₂, rfl, h₁, h₂⟩

/-- `Prog.Sat.traced` for raising programs. -/
theorem Sat.traced {m : Raises L ε α} {g : G} {Q : α → G → Prop} {E : ε → G → Prop}
    (h : Sat C m g Q E) :
    Sat C.traced m (g, []) (fun a g' => Q a g'.1 ∧ Ends m g'.2 (.ok a))
      (fun e g' => E e g'.1 ∧ Ends m g'.2 (.error e)) := by
  refine Prog.Sat.mono ?_ (Prog.Sat.traced h [])
  rintro (e | a) g' ⟨hr, tr, htr, hreturns⟩
  · exact ⟨hr, by rw [htr]; exact hreturns⟩
  · exact ⟨hr, by rw [htr]; exact hreturns⟩

/-! ### Running a raising program alone -/

/-- `Prog.eval` for raising programs. -/
def eval (h : (s : L.Stmt) → G → L.Resp s × G) (m : Raises L ε α) (g : G) : Except ε α × G :=
  Prog.eval h (ExceptT.run m) g

variable {h : (s : L.Stmt) → G → L.Resp s × G}

@[simp] theorem eval_pure (a : α) (g : G) : eval h (pure a : Raises L ε α) g = (.ok a, g) := rfl

@[simp] theorem eval_throw (e : ε) (g : G) : eval h (throw e : Raises L ε α) g = (.error e, g) :=
  rfl

theorem eval_bind_ok {m : Raises L ε α} {f : α → Raises L ε β} {g g' : G} {a : α}
    (hm : eval h m g = (.ok a, g')) : eval h (m >>= f) g = eval h (f a) g' := by
  have hbind := Prog.eval_bind h (ExceptT.run m) (ExceptT.bindCont f) g
  unfold eval at hm
  rw [hm] at hbind
  exact hbind

theorem eval_bind_error {m : Raises L ε α} {f : α → Raises L ε β} {g g' : G} {e : ε}
    (hm : eval h m g = (.error e, g')) : eval h (m >>= f) g = (.error e, g') := by
  have hbind := Prog.eval_bind h (ExceptT.run m) (ExceptT.bindCont f) g
  unfold eval at hm
  rw [hm] at hbind
  exact hbind

theorem eval_tryCatch_ok {m : Raises L ε α} {f : ε → Raises L ε α} {g g' : G} {a : α}
    (hm : eval h m g = (.ok a, g')) : eval h (tryCatch m f) g = (.ok a, g') := by
  unfold eval at hm
  refine (Prog.eval_bind h (ExceptT.run m) _ g).trans ?_
  rw [hm]
  rfl

theorem eval_tryCatch_error {m : Raises L ε α} {f : ε → Raises L ε α} {g g' : G} {e : ε}
    (hm : eval h m g = (.error e, g')) : eval h (tryCatch m f) g = eval h (f e) g' := by
  unfold eval at hm
  refine (Prog.eval_bind h (ExceptT.run m) _ g).trans ?_
  rw [hm]
  rfl

end Raises

end Conc
