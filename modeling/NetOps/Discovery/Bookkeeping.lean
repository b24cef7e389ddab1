import NetOps.Discovery.Books

/-!
# Discovery.Bookkeeping

The books of a fan-out while the scope job's program works on them.

* `fanOutContract`: what the program meets. While it waits for its children they run in its
  session, interleaved at every statement (`Prog.Pool`); the wait may end with an exception at any
  point of that.
* `Open`: what the session of the scope job has of the books; `Books`: a program after which they
  agree. One lemma per function: it creates the children one by one (`createChildren_books`) and
  waits for them (`gather_books`).
-/

namespace NetOps
namespace Discovery
namespace DiscoveryFanoutService

open Conc Text DiscoveryJobRepository Relation

variable {Sid : Type} [DecidableEq Sid] {b : FanOut} {W W₀ : Entries b} {s : Sid}
  {σ : Store schema Sid} {rt : Runtime} {a : ScopeArgs}

/-! ## The run of a scope job -/

/-- The committed rows agree with the books. -/
def InBooks (b : FanOut) (σ : Store schema Sid) : Prop :=
  ∃ W, Book b W ∧ σ.Published (bookFocus b) W

/-- No device reports a management address other than that of its job's target. -/
def ownAddress (s : Sid) (σ : Store schema Sid) :
    (c : Statement) → Except DbError c.Ans → Prop
  | .ext (.processPayload jobId), .ok (.ok snapshot) =>
    ∀ (job : DiscoveryJobRecord) (target : DiscoveryTargetRecord) (ip : String),
      (σ.view s .jobs).get jobId = some job → (σ.view s .targets).get job.targetId = some target →
      snapshot.managementIp = some ip → ip = "" ∨ ip = target.address
  | _, _ => True

/-- The coroutine of a child, by the ids of its job and its result. -/
def IsCoroutine (rt : Runtime) (a : ScopeArgs) (owner : UUID) (ids : UUID × UUID)
    (p : Prog lang Unit) : Prop :=
  ∃ child result, child.id = ids.1 ∧ result.id = ids.2 ∧
    p = script (runChild rt a owner child result)

/-- One statement of a child, and what others do meanwhile. -/
abbrev ChildStep (b : FanOut) (s : Sid)
    (reports : Store schema Sid → (c : Statement) → Except DbError c.Ans → Prop) :
    Store schema Sid × List (Prog lang Unit) → Store schema Sid × List (Prog lang Unit) → Prop :=
  Prog.Pool (L := lang) (fun σ c r σ' => Store.Exec s σ c r σ' ∧ reports σ c r)
    (Store.Meanwhile (bookFocus b) s)

/-- How a statement of the scope job is answered. `gather` starts a coroutine for every child;
it returns when they have all ended, and raises at any point of their work. -/
def Answered (b : FanOut) (s : Sid) (rt : Runtime) (a : ScopeArgs)
    (reports : Store schema Sid → (c : Statement) → Except DbError c.Ans → Prop)
    (σ : Store schema Sid) :
    (c : Statement) → Except DbError c.Ans → Store schema Sid → Prop
  | .ext (.gather _ children), r, σ' =>
    ∃ owner ps ps', List.Forall₂ (IsCoroutine rt a owner) children ps ∧
      ReflTransGen (ChildStep b s reports) (σ, ps) (σ', ps') ∧
      (r = .ok (.ok ()) → ∀ p ∈ ps', p = .pure ())
  | c, r, σ' => Store.Exec s σ c r σ' ∧ Savepoint c r σ σ'

/-- The scope job's program in session `s`: other sessions commit no change of what is in the
books, and the committed rows agree with the books whenever it issues a statement. -/
def fanOutContract (b : FanOut) (s : Sid) (rt : Runtime) (a : ScopeArgs)
    (reports : Store schema Sid → (c : Statement) → Except DbError c.Ans → Prop) :
    Prog.Contract lang (Store schema Sid) where
  rely _ σ σ' := σ.Meanwhile (bookFocus b) s σ'
  act σ c r σ' := Answered b s rt a reports σ c r σ'
  guar σ _ := InBooks b σ

/-! ## What the session has of the books -/

/-- The committed rows show the books `W₀`, and session `s` the books `W`; if `N`, it can enter new
rows in them. -/
structure Open (b : FanOut) (s : Sid) (N : Prop) (W₀ W : Entries b) (σ : Store schema Sid) :
    Prop where
  book : Book b W₀
  published : σ.Published (bookFocus b) W₀
  shows : σ.Shows (bookFocus b) s W
  clean : N → σ.Clean (bookFocus b) s

variable {N : Prop}

omit [DecidableEq Sid] in
theorem Open.inBooks (h : Open b s N W₀ W σ) : InBooks b σ := ⟨W₀, h.book, h.published⟩

omit [DecidableEq Sid] in
theorem Open.meanwhile {σ' : Store schema Sid} (h : Open b s N W₀ W σ)
    (hrely : σ.Meanwhile (bookFocus b) s σ') : Open b s N W₀ W σ' where
  book := h.book
  published := h.published.meanwhile hrely
  shows := h.shows.meanwhile hrely
  clean hN := (h.clean hN).meanwhile hrely

/-- A statement of the scope job that enters nothing: its changes of loaded rows keep what matters,
and it is none of those that have a rule of their own. -/
def Plain (b : FanOut) (W : Entries b) : Statement → Prop
  | .commit | .rollback => False
  | .ext (.gather ..) => False
  | .change t k f => Change.Keeps (bookFocus b) ⟨t, k, f⟩
  | c => c.Tends (bookFocus b) W

theorem Plain.tends {c : Statement} (hc : Plain b W c) : c.Tends (bookFocus b) W := by
  cases c with
  | change t k f => exact Change.Keeps.tends hc W
  | ext x => trivial
  | select | get | flush => trivial
  | update | insert => exact hc
  | commit | rollback => exact hc.elim

variable {reports : Store schema Sid → (c : Statement) → Except DbError c.Ans → Prop}

theorem Plain.exec {c : Statement} (hc : Plain b W c) {r : Except DbError c.Ans}
    {σ' : Store schema Sid} (h : Answered b s rt a reports σ c r σ') :
    Store.Exec s σ c r σ' ∧ Savepoint c r σ σ' := by
  cases c with
  | ext x =>
    cases x with
    | gather => exact hc.elim
    | _ => exact h
  | _ => exact h

theorem Open.exec {c : Statement} {x : c.Ans} {σ' : Store schema Sid} (hc : Plain b W c)
    (h : Open b s N W₀ W σ) (he : Store.Exec s σ c (.ok x) σ') : Open b s N W₀ W σ' where
  book := h.book
  published t k := by
    rw [he.db_eq (by rintro rfl; exact hc)]
    exact h.published t k
  shows := h.shows.exec_ok hc.tends (by rintro rfl; exact hc) he
  clean hN := (h.clean hN).exec_ok (by rintro t k f rfl; exact hc) he

/-- What the scope job's program does, in state `σ`: when it returns, `Q` holds, and when it raises,
the committed rows agree with the books. -/
abbrev Books (b : FanOut) (s : Sid) (rt : Runtime) (a : ScopeArgs)
    (reports : Store schema Sid → (c : Statement) → Except DbError c.Ans → Prop) {α : Type}
    (m : M α) (σ : Store schema Sid) (Q : α → Store schema Sid → Prop) : Prop :=
  Raises.Sat (fanOutContract b s rt a reports) m σ Q fun _ σ' => InBooks b σ'

namespace Books

variable {α β : Type}

theorem bind {m : M α} {f : α → M β} {R : α → Store schema Sid → Prop}
    {Q : β → Store schema Sid → Prop} (h : Books b s rt a reports m σ R)
    (hf : ∀ x σ', R x σ' → Books b s rt a reports (f x) σ' Q) :
    Books b s rt a reports (m >>= f) σ Q :=
  Raises.sat_bind (h.mono hf fun _ _ he => he)

theorem pure {x : α} {Q : α → Store schema Sid → Prop} (h : Q x σ) :
    Books b s rt a reports (Pure.pure x) σ Q := h

theorem throw {e : Exn} {Q : α → Store schema Sid → Prop} (h : InBooks b σ) :
    Books b s rt a reports (throw e) σ Q := h

theorem raiseIf {c : Prop} [Decidable c] {e : Exn} {f : Unit → M β}
    {Q : β → Store schema Sid → Prop} (hbooks : InBooks b σ)
    (h : ¬ c → Books b s rt a reports (f ()) σ Q) :
    Books b s rt a reports (raiseIf c e >>= f) σ Q := by
  refine Raises.sat_bind ?_
  unfold Discovery.raiseIf
  split
  · exact Raises.sat_throw hbooks
  · exact Raises.sat_pure (h ‹_›)

theorem unwrap {r : Except Exn α} {Q : α → Store schema Sid → Prop} (hbooks : InBooks b σ)
    (h : ∀ x, r = .ok x → Q x σ) : Books b s rt a reports (unwrap r) σ Q := by
  cases r with
  | ok x => exact pure (h x rfl)
  | error e => exact throw hbooks

/-- A statement that enters nothing. -/
theorem ask {c : Statement} {Q : c.Ans → Store schema Sid → Prop} (hc : Plain b W c)
    (h : Open b s N W₀ W σ)
    (hQ : ∀ σ₁ x σ₂, σ.Meanwhile (bookFocus b) s σ₁ → Open b s N W₀ W σ₁ →
      Store.Exec s σ₁ c (.ok x) σ₂ → Open b s N W₀ W σ₂ → Q x σ₂) :
    Books b s rt a reports (ask c) σ Q := by
  refine sat_ask fun σ₁ hrely => ?_
  have h₁ := h.meanwhile hrely
  refine ⟨h₁.inBooks, fun x σ₂ hact => ?_, fun e σ₂ hact => ⟨W₀, h.book, fun t k => ?_⟩⟩
  · obtain ⟨he, _⟩ := hc.exec hact
    exact hQ σ₁ x σ₂ hrely h₁ he (h₁.exec hc he)
  · obtain ⟨he, _⟩ := hc.exec hact
    rw [he.db_eq (by rintro rfl; exact hc)]
    exact h₁.published t k

/-- A statement that enters nothing, and what it hears. -/
theorem plain {c : Statement} (hc : Plain b W c) (h : Open b s N W₀ W σ) :
    Books b s rt a reports (Discovery.ask c) σ fun x σ' =>
      Stmt.Heard (bookFocus b) W c (.ok x) ∧ Open b s N W₀ W σ' :=
  ask hc h fun _ _ _ _ h₁ he h₂ => ⟨h₁.shows.heard he, h₂⟩

theorem get {t : Table} {k : UUID} (h : Open b s N W₀ W σ) :
    Books b s rt a reports (sessionGet t k) σ fun x σ' =>
      Stmt.Heard (bookFocus b) W (.get t k : Statement) (.ok x) ∧ Open b s N W₀ W σ' :=
  plain (c := .get t k) trivial h

/-- A row that matters is there, as the books have it. -/
theorem getEntry {t : Table} {k : UUID} {x : (bookFocus b).What t} (hW : W t k = some x)
    (h : Open b s N W₀ W σ) :
    Books b s rt a reports (sessionGet t k) σ fun found σ' =>
      (∃ r, found = some r ∧ primaryKey t r = k ∧ (bookFocus b).of t r = some x) ∧
        Open b s N W₀ W σ' := by
  refine (get h).mono ?_ fun _ _ he => he
  rintro found σ₁ ⟨⟨hfound, hsome⟩, h₁⟩
  obtain ⟨r, rfl⟩ := Option.isSome_iff_exists.1 (hsome (by rw [hW]; rfl))
  obtain ⟨hkey, hof⟩ := hfound r rfl
  exact ⟨⟨r, rfl, hkey, hof.trans hW⟩, h₁⟩

theorem select {t : Table} {p : Row t → Bool} (h : Open b s N W₀ W σ) :
    Books b s rt a reports (select t p) σ fun x σ' =>
      Stmt.Heard (bookFocus b) W (.select t p : Statement) (.ok x) ∧ Open b s N W₀ W σ' :=
  plain (c := .select t p) trivial h

theorem utcNow (h : Open b s N W₀ W σ) :
    Books b s rt a reports utcNow σ fun _ σ' => Open b s N W₀ W σ' :=
  ask (c := .ext .utcNow) trivial h fun _ _ _ _ _ _ h₂ => h₂

theorem uuid4 (h : Open b s N W₀ W σ) :
    Books b s rt a reports uuid4 σ fun _ σ' => Open b s N W₀ W σ' :=
  ask (c := .ext .uuid4) trivial h fun _ _ _ _ _ _ h₂ => h₂

/-- A flush leaves nothing unsent. -/
theorem flush (h : Open b s N W₀ W σ) :
    Books b s rt a reports flush σ fun _ σ' => Open b s N W₀ W σ' ∧ σ'.dirty s = [] := by
  refine ask (c := .flush) trivial h fun σ₁ x σ₂ _ _ he h₂ => ⟨h₂, ?_⟩
  rw [he.2]
  simp [Store.flush, Store.clean]

/-- A commit publishes books that agree. -/
theorem commit {Q : Unit → Store schema Sid → Prop} (hbook : Book b W) (h : Open b s N W₀ W σ)
    (hQ : ∀ σ₁ σ₂, σ.Meanwhile (bookFocus b) s σ₁ →
      Store.Exec s σ₁ (.commit : Statement) (.ok ()) σ₂ → Open b s N W W σ₂ → Q () σ₂) :
    Books b s rt a reports commit σ Q := by
  refine sat_ask fun σ₁ hrely => ?_
  have h₁ := h.meanwhile hrely
  refine ⟨h₁.inBooks, fun x σ₂ hact => ?_, fun e σ₂ hact => ⟨W₀, h.book, ?_⟩⟩
  · have he : Store.Exec s σ₁ (.commit : Statement) (.ok x) σ₂ := hact.1
    have hshows := h₁.shows.exec_ok (c := .commit) trivial (by simp) he
    refine hQ σ₁ σ₂ hrely he ⟨hbook, ?_, hshows, fun hN => (h₁.clean hN).exec_ok (by simp) he⟩
    rw [he.2]
    exact h₁.shows.commit.2
  · have he : Store.Exec s σ₁ (.commit : Statement) (.error e) σ₂ := hact.1
    cases e with
    | integrity => exact he.elim
    | operational =>
      rw [show σ₂ = _ from he]
      exact h₁.published

/-- A rollback before an exception. -/
theorem giveUp {e : Exn} {Q : β → Store schema Sid → Prop} (h : InBooks b σ) :
    Books b s rt a reports (rollback >>= fun _ => MonadExcept.throw e) σ Q := by
  obtain ⟨W₀, hbook, hpub⟩ := h
  refine Raises.sat_bind (sat_ask fun σ₁ hrely => ?_)
  have hpub₁ := hpub.meanwhile hrely
  refine ⟨⟨W₀, hbook, hpub₁⟩, fun x σ₂ hact => ?_, fun e σ₂ hact => hact.1.elim⟩
  refine Raises.sat_throw ⟨W₀, hbook, ?_⟩
  have he : Store.Exec s σ₁ (.rollback : Statement) (.ok x) σ₂ := hact.1
  rw [show σ₂ = _ from he]
  exact hpub₁

/-- A new row. -/
theorem insert {t : Table} {r : Row t} (h : Open b s N W₀ W σ) (hN : N) :
    Raises.Sat (fanOutContract b s rt a reports) (insert t r) σ
      (fun _ σ' => W t (primaryKey t r) = none ∧ Open b s N W₀ (W.add t r) σ')
      fun e σ' => InBooks b σ' ∧ (e = .db .integrity → t = .targets → Open b s N W₀ W σ') := by
  refine sat_ask fun σ₁ hrely => ?_
  have h₁ := h.meanwhile hrely
  refine ⟨h₁.inBooks, fun x σ₂ hact => ?_, fun e σ₂ hact => ⟨⟨W₀, h.book, ?_⟩, ?_⟩⟩
  · have he : Store.Exec s σ₁ (.insert t r : Statement) (.ok x) σ₂ := hact.1
    have hclean := (h₁.clean hN).exec_ok (by simp) he
    obtain ⟨hfree, _, rfl⟩ := he
    obtain ⟨hnone, hshows⟩ := (h₁.clean hN).insert_shows h₁.shows hfree
    exact ⟨hnone, h.book, h₁.published, hshows, fun _ => hclean⟩
  · have he : Store.Exec s σ₁ (.insert t r : Statement) (.error e) σ₂ := hact.1
    intro t k
    rw [he.db_eq (by simp)]
    exact h₁.published t k
  · rintro ⟨⟩ rfl
    rw [show σ₂ = σ₁ from hact.2]
    exact h₁

end Books

/-! ## New entries -/

theorem childName_inj {x y : String} (h : b.childName x = b.childName y) : x = y :=
  (String.append_right_inj _).1 h

/-- The books with the target of an address. -/
theorem Book.addTarget (hbook : Book b W) {r : DiscoveryTargetRecord} {x : String}
    (hnone : W .targets r.id = none) (hname : r.identifier = b.childName x)
    (haddress : r.address = x) : Book b (W.add (t := .targets) r) := by
  have hothers : ∀ t, t ≠ .targets → W.add (t := .targets) r t = W t := fun t ht =>
    Focus.Map.add_ne W r ht
  have htargets : ∀ k, W.add (t := .targets) r .targets k =
      if k = r.id then (bookFocus b).of .targets r else W .targets k :=
    Focus.Map.add_self (S := schema) (t := .targets) W r
  have hold : ∀ k y, W .targets k = some y → W.add (t := .targets) r .targets k = some y := by
    intro k y hy
    rw [htargets, if_neg, hy]
    rintro rfl
    rw [hnone] at hy
    cases hy
  have hchild : ∀ k x, ChildAt b W k x → ChildAt b (W.add (t := .targets) r) k x := by
    rintro k x ⟨j, hj, hparent, hrun, y, hy, hx⟩
    exact ⟨j, by rw [hothers _ (by simp)]; exact hj, hparent, hrun, y, hold _ _ hy, hx⟩
  refine ⟨?_, hold _ _ hbook.target, ?_, fun k y hy x' hx' hname' => ?_, ?_, ?_, ?_, ?_⟩
  · rw [hothers _ (by simp)]
    exact hbook.root
  · rw [hothers _ (by simp)]
    exact hbook.run
  · rw [htargets] at hy
    split at hy
    · obtain ⟨_, rfl⟩ := book_target.1 hy
      have hx : x = x' := childName_inj (hname.symm.trans hname')
      change some r.address = some x'
      rw [haddress, hx]
    · exact hbook.named k y hy x' hx' hname'
  · rw [hothers _ (by simp)]
    intro i k x' hi
    exact ⟨(hbook.result i k x' hi).1, hchild k x' (hbook.result i k x' hi).2⟩
  · rw [hothers _ (by simp)]
    exact hbook.address
  · rw [hothers _ (by simp)]
    exact hbook.child
  · rw [hothers _ (by simp), hothers _ (by simp)]
    exact hbook.children

/-- The books with a child and the result of its address. -/
def entered (W : Entries b) (child : DiscoveryJobRecord) (result : DiscoveryDeviceResultRecord) :
    Entries b :=
  (W.add (t := .jobs) child).add (t := .results) result

/-- A new child of the scope job and its result, for an address that has none. -/
structure Enters (b : FanOut) (W : Entries b) (address : String) (child : DiscoveryJobRecord)
    (result : DiscoveryDeviceResultRecord) : Prop where
  newJob : W .jobs child.id = none
  parent : child.parentJobId = some b.job.id
  run : child.runId ≠ b.job.runId
  target : TargetAt b W child.targetId address
  newResult : W .results result.id = none
  root : result.tenantId = b.job.tenantId ∧ result.discoveryJobId = b.job.id
  child : result.childJobId = child.id
  address : result.address = address

variable {address : String} {child : DiscoveryJobRecord} {result : DiscoveryDeviceResultRecord}

theorem Enters.jobs (h : Enters b W address child result) (k : UUID) :
    entered W child result .jobs k = if k = child.id then some child.identity else W .jobs k := by
  have hof : (bookFocus b).of .jobs child = some child.identity := book_job.2 ⟨.inr h.parent, rfl⟩
  rw [entered, Focus.Map.add_ne (S := schema) _ _ (by simp),
    Focus.Map.add_self (S := schema), hof]
  rfl

theorem Enters.results (h : Enters b W address child result) (i : UUID) :
    entered W child result .results i =
      if i = result.id then some (child.id, address) else W .results i := by
  have hof : (bookFocus b).of .results result = some (child.id, address) :=
    book_result.2 ⟨h.root, h.child, h.address⟩
  rw [entered, Focus.Map.add_self (S := schema), Focus.Map.add_ne (S := schema) _ _ (by simp), hof]
  rfl

theorem entered_other {t : Table} (hjobs : t ≠ .jobs) (hresults : t ≠ .results) :
    entered W child result t = W t := by
  rw [entered, Focus.Map.add_ne (S := schema) _ _ hresults,
    Focus.Map.add_ne (S := schema) _ _ hjobs]

theorem Book.enter (hbook : Book b W) (h : Enters b W address child result)
    (hexpected : address ∈ b.expected) (hfree : ∀ i k, W .results i ≠ some (k, address)) :
    Book b (entered W child result) := by
  have hjob : ∀ k x, W .jobs k = some x → entered W child result .jobs k = some x := by
    intro k x hx
    rw [h.jobs, if_neg, hx]
    rintro rfl
    rw [h.newJob] at hx
    cases hx
  have hchild : ∀ k x, ChildAt b W k x → ChildAt b (entered W child result) k x := by
    rintro k x ⟨j, hj, hparent, hrun, y, hy, hx⟩
    exact ⟨j, hjob _ _ hj, hparent, hrun, y,
      by rw [entered_other (by simp) (by simp)]; exact hy, hx⟩
  have hold : ∀ i k x, W .results i = some (k, x) → k ≠ child.id ∧ x ≠ address := by
    rintro i k x hi
    refine ⟨?_, ?_⟩
    · rintro rfl
      obtain ⟨_, j, hj, _⟩ := hbook.result i _ x hi
      rw [h.newJob] at hj
      cases hj
    · rintro rfl
      exact hfree i k hi
  refine ⟨hjob _ _ hbook.root, ?_, ?_, ?_, fun i k x hi => ?_, fun i i' k k' x hi hi' => ?_,
    fun i i' k x x' hi hi' => ?_, fun k j hj hparent => ?_⟩
  · rw [entered_other (by simp) (by simp)]
    exact hbook.target
  · rw [entered_other (by simp) (by simp)]
    exact hbook.run
  · rw [entered_other (by simp) (by simp)]
    exact hbook.named
  · rw [h.results] at hi
    split at hi
    · cases hi
      obtain ⟨y, hy, hx⟩ := h.target
      refine ⟨hexpected, child.identity, ?_, h.parent, h.run, y, ?_, hx⟩
      · rw [h.jobs, if_pos rfl]
      · rw [entered_other (by simp) (by simp)]
        exact hy
    · exact ⟨(hbook.result i k x hi).1, hchild k x (hbook.result i k x hi).2⟩
  · rw [h.results] at hi hi'
    split at hi <;> split at hi'
    · rename_i hnew hnew'
      rw [hnew, hnew']
    · cases hi
      exact absurd rfl (hold i' k' _ hi').2
    · cases hi'
      exact absurd rfl (hold i k _ hi).2
    · exact hbook.address i i' k k' x hi hi'
  · rw [h.results] at hi hi'
    split at hi <;> split at hi'
    · rename_i hnew hnew'
      rw [hnew, hnew']
    · cases hi
      exact absurd rfl (hold i' _ x' hi').1
    · cases hi'
      exact absurd rfl (hold i _ x hi).1
    · exact hbook.child i i' k x x' hi hi'
  · rw [h.jobs] at hj
    split at hj
    · rename_i hk
      subst hk
      exact ⟨result.id, address, by rw [h.results, if_pos rfl]⟩
    · obtain ⟨i, x, hi⟩ := hbook.children k j hj hparent
      refine ⟨i, x, ?_⟩
      rw [h.results, if_neg, hi]
      rintro rfl
      rw [h.newResult] at hi
      cases hi

/-! ## Creating the children -/

/-- A target with the name of a child has its address. -/
theorem findTarget_books (hbook : Book b W) (hexpected : address ∈ b.expected)
    (h : Open b s N W₀ W σ) :
    Books b s rt a reports (findTarget b.job.tenantId (b.childName address)) σ fun found σ' =>
      (∀ target, found = some target → TargetAt b W target.id address) ∧ Open b s N W₀ W σ' := by
  refine (Books.select h).bind ?_
  rintro rows σ₁ ⟨⟨hrows, _⟩, h₁⟩
  refine Books.pure ⟨fun target htarget => ?_, h₁⟩
  obtain ⟨hp, hof⟩ := hrows target (List.mem_of_mem_head? htarget)
  simp only [Bool.and_eq_true, beq_iff_eq] at hp
  have hentry : (bookFocus b).of .targets target = some ⟨target.identifier, target.scope⟩ :=
    book_target.2 ⟨⟨hp.1, .inr (by rw [hp.2]; exact List.mem_map_of_mem hexpected)⟩, rfl⟩
  rw [hof] at hentry
  exact ⟨_, hentry, hbook.named _ _ hentry address hexpected hp.2⟩

theorem newChildTarget_entry (hexpected : address ∈ b.expected) (scope : DiscoveryTargetRecord)
    (id : UUID) : (bookFocus b).of .targets
      (newChildTarget b.job.tenantId scope (b.childName address) address id) =
        some ⟨b.childName address, ⟨.singleDevice, some address, none, none⟩⟩ :=
  if_pos ⟨rfl, .inr (List.mem_map_of_mem hexpected)⟩

theorem childTarget_books (hbook : Book b W) (hexpected : address ∈ b.expected) (hN : N)
    (h : Open b s N W₀ W σ) {scope : DiscoveryTargetRecord}
    (hscope : scope.identifier = b.target.identifier) :
    Books b s rt a reports (childTarget b.job.tenantId scope address) σ fun target σ' =>
      ∃ W', Book b W' ∧ (∀ t, t ≠ .targets → W' t = W t) ∧ TargetAt b W' target.id address ∧
        Open b s N W₀ W' σ' := by
  have hname : s!"{scope.identifier}:{address}" = b.childName address := by
    rw [hscope]
    rfl
  unfold childTarget
  simp only [hname]
  refine (findTarget_books hbook hexpected h).bind ?_
  rintro found σ₁ ⟨hfound, h₁⟩
  cases found with
  | some target =>
    refine (Books.plain (c := .change .targets target.id (inheritScope scope))
      (fun _ => ⟨rfl, rfl⟩) h₁).bind ?_
    rintro _ σ₂ ⟨_, h₂⟩
    exact Books.pure ⟨W, hbook, fun _ _ => rfl, hfound target rfl, h₂⟩
  | none =>
    refine (Books.uuid4 h₁).bind fun id σ₂ h₂ => ?_
    refine (Books.flush h₂).bind ?_
    rintro _ σ₃ ⟨h₃, _⟩
    refine Raises.sat_tryCatch (Raises.sat_bind ((Books.insert h₃ hN).mono ?_ ?_))
    · rintro _ σ₄ ⟨hnone, h₄⟩
      have hentry := (Focus.Map.add_key (S := schema) (t := .targets) W _).trans
        (newChildTarget_entry hexpected scope id)
      exact Raises.sat_pure ⟨_, hbook.addTarget hnone rfl rfl, fun t ht =>
        Focus.Map.add_ne (S := schema) _ _ ht, ⟨_, hentry, rfl⟩, h₄⟩
    · rintro e σ₄ ⟨hbooks, hsavepoint⟩
      split
      · refine (findTarget_books hbook hexpected (hsavepoint rfl rfl)).bind ?_
        rintro found σ₅ ⟨hfound, h₅⟩
        cases found with
        | some target => exact Books.pure ⟨W, hbook, fun _ _ => rfl, hfound target rfl, h₅⟩
        | none => exact Books.throw h₅.inBooks
      · exact Books.throw hbooks

theorem create_books {request : JobRequest} (hN : N) (h : Open b s N W₀ W σ) :
    Books b s rt a reports (create request) σ fun child σ' =>
      (∃ id now, child = request.record id now) ∧ W .jobs child.id = none ∧
        Open b s N W₀ (W.add (t := .jobs) child) σ' := by
  unfold create
  refine (Books.get h).bind ?_
  rintro target σ₁ ⟨_, h₁⟩
  refine (Books.get h₁).bind ?_
  rintro run σ₂ ⟨_, h₂⟩
  refine Books.raiseIf h₂.inBooks fun _ => Books.raiseIf h₂.inBooks fun _ => ?_
  refine (Books.select h₂).bind ?_
  rintro active σ₃ ⟨_, h₃⟩
  refine Books.raiseIf h₃.inBooks fun _ => ?_
  refine (Books.uuid4 h₃).bind fun id σ₄ h₄ => (Books.utcNow h₄).bind fun now σ₅ h₅ => ?_
  refine Raises.sat_bind (Raises.sat_tryCatch ((Books.insert h₅ hN).mono ?_ ?_))
  · rintro _ σ₆ ⟨hnone, h₆⟩
    exact Raises.sat_pure ⟨⟨id, now, rfl⟩, hnone, h₆⟩
  · rintro e σ₆ ⟨hbooks, _⟩
    split
    · exact Books.giveUp hbooks
    · exact Books.throw hbooks

/-- The entry of a result, for the address it has. -/
def EntryOf (b : FanOut) (W : Entries b) (address : String)
    (child : DiscoveryJobRecord × DiscoveryDeviceResultRecord) : Prop :=
  W .results child.2.id = some (child.1.id, address)

theorem createChild_books (hbook : Book b W) (hexpected : address ∈ b.expected)
    (hfree : ∀ i k, W .results i ≠ some (k, address)) (hN : N) (h : Open b s N W₀ W σ)
    {parent : DiscoveryJobRecord} (hparent : parent.id = b.job.id)
    {scope : DiscoveryTargetRecord} (hscope : scope.identifier = b.target.identifier) :
    Books b s rt a reports (createChild b.job.tenantId parent scope address) σ fun child σ' =>
      child.2.address = address ∧ child.2.resultState = none ∧
        ∃ W', Book b W' ∧ W .results child.2.id = none ∧
          (∀ i, W' .results i =
            if i = child.2.id then some (child.2.childJobId, address) else W .results i) ∧
          Open b s N W₀ W' σ' ∧ child.2.childJobId = child.1.id := by
  unfold createChild
  refine (childTarget_books hbook hexpected hN h hscope).bind ?_
  rintro target σ₁ ⟨W₁, hbook₁, hsame, htarget, h₁⟩
  refine (Books.uuid4 h₁).bind fun runId σ₂ h₂ => ?_
  refine Raises.sat_bind ((Books.insert h₂ hN).mono ?_ fun _ _ he => he.1)
  rintro _ σ₃ ⟨hrun, h₃⟩
  have hother : runId ≠ b.job.runId := by
    rintro rfl
    have hroot := hbook₁.run
    rw [show W₁ .runs b.job.runId = none from hrun] at hroot
    cases hroot
  have hnone : (bookFocus b).of .runs (newChildRun b.job.tenantId parent target address runId) =
      none := if_neg hother
  rw [Focus.Map.add_none (S := schema) hnone hrun] at h₃
  refine (Books.flush h₃).bind ?_
  rintro _ σ₄ ⟨h₄, _⟩
  refine (Books.uuid4 h₄).bind fun correlationId σ₅ h₅ => ?_
  refine (create_books hN h₅).bind ?_
  rintro child σ₆ ⟨⟨id, now, rfl⟩, hjob, h₆⟩
  refine (Books.uuid4 h₆).bind fun resultId σ₇ h₇ => ?_
  refine Raises.sat_bind ((Books.insert h₇ hN).mono ?_ fun _ _ he => he.1)
  rintro _ σ₈ ⟨hresult, h₈⟩
  rw [Focus.Map.add_ne (S := schema) _ _ (by simp)] at hresult
  have hresults : W₁ .results = W .results := hsame _ (by simp)
  have henters : Enters b W₁ address _ _ :=
    ⟨hjob, congrArg some hparent, hother, htarget, hresult, ⟨rfl, hparent⟩, rfl, rfl⟩
  refine Books.pure ⟨rfl, rfl, _, hbook₁.enter henters hexpected ?_, ?_, fun i => ?_, h₈, rfl⟩
  · rw [hresults]
    exact hfree
  · rw [← hresults]
    exact hresult
  · rw [henters.results, hresults]
    rfl

/-- A child for every address, in order. -/
theorem createChildren_books (hN : N) {parent : DiscoveryJobRecord} (hparent : parent.id = b.job.id)
    {scope : DiscoveryTargetRecord} (hscope : scope.identifier = b.target.identifier)
    {addresses : List String} (hnodup : addresses.Nodup)
    (hexpected : ∀ x ∈ addresses, x ∈ b.expected) :
    ∀ {W : Entries b} {σ : Store schema Sid}, Book b W → Open b s N W₀ W σ →
      (∀ x ∈ addresses, ∀ i k, W .results i ≠ some (k, x)) →
      Books b s rt a reports (createChildren b.job.tenantId parent scope addresses) σ
        fun children σ' => ∃ W', Book b W' ∧
          (∀ i e, W .results i = some e → W' .results i = some e) ∧
          List.Forall₂ (EntryOf b W') addresses children ∧ Open b s N W₀ W' σ' := by
  induction addresses with
  | nil => exact fun hbook h _ => Books.pure ⟨_, hbook, fun _ _ he => he, .nil, h⟩
  | cons address addresses ih =>
    intro W σ hbook h hfree
    obtain ⟨hnot, hrest⟩ := List.nodup_cons.1 hnodup
    refine (createChild_books hbook (hexpected _ List.mem_cons_self)
      (hfree _ List.mem_cons_self) hN h hparent hscope).bind ?_
    rintro child σ₁ ⟨_, _, W₁, hbook₁, hnew, hresults, h₁, hjob⟩
    have hkeep : ∀ i e, W .results i = some e → W₁ .results i = some e := by
      intro i e he
      rw [hresults, if_neg, he]
      rintro rfl
      rw [hnew] at he
      cases he
    have hfree₁ : ∀ x ∈ addresses, ∀ i k, W₁ .results i ≠ some (k, x) := by
      intro x hx i k hi
      rw [hresults] at hi
      split at hi
      · cases hi
        exact hnot hx
      · exact hfree x (List.mem_cons_of_mem _ hx) i k hi
    refine (ih hrest (fun x hx => hexpected x (List.mem_cons_of_mem _ hx)) hbook₁ h₁
      hfree₁).bind ?_
    rintro children σ₂ ⟨W₂, hbook₂, hkeep₂, hentries, h₂⟩
    refine Books.pure ⟨W₂, hbook₂, fun i e he => hkeep₂ i e (hkeep i e he), ?_, h₂⟩
    exact .cons (hkeep₂ _ _ (by rw [hresults, if_pos rfl, hjob])) hentries

/-! ## Waiting for the children -/

omit [DecidableEq Sid] in
/-- A device that reports the address of its target reports the address of its result. -/
theorem ownAddress_reported (hbook : Book b W) (h : σ.Shows (bookFocus b) s W) {c : Statement}
    {r : Except DbError c.Ans} (hr : ownAddress s σ c r) : Reported b W c r := by
  unfold Reported
  split
  · rename_i jobId snapshot
    intro i x hi
    obtain ⟨_, j, hj, _, _, y, hy, haddress⟩ := hbook.result i jobId x hi
    rw [← h.view] at hj hy
    obtain ⟨job, hjob, hof⟩ := Option.bind_eq_some_iff.1 hj
    obtain ⟨target, htarget, hof'⟩ := Option.bind_eq_some_iff.1 hy
    obtain ⟨_, rfl⟩ := book_job.1 hof
    obtain ⟨_, rfl⟩ := book_target.1 hof'
    cases haddress
    cases hip : snapshot.managementIp with
    | none => rfl
    | some ip =>
      rcases hr job target ip hjob htarget hip with rfl | rfl
      · rfl
      · exact ite_self _
  · trivial

/-- Whatever the children do, and wherever they are when the wait ends, the books are as they
were. -/
theorem gather_books (hbook : Book b W) (h : Open b s N W W σ)
    (htenant : a.tenantId = b.job.tenantId) (hreports : ∀ σ c r, reports σ c r → ownAddress s σ c r)
    {children : List (DiscoveryJobRecord × DiscoveryDeviceResultRecord)} {addresses : List String}
    (hentries : List.Forall₂ (EntryOf b W) addresses children) (parentJobId : UUID) :
    Books b s rt a reports
      (ask (.ext (.gather parentJobId (children.map fun c => (c.1.id, c.2.id))))) σ
      fun _ σ' => Open b s False W W σ' := by
  -- the children may leave rows loaded that are gone, and a change that gives a result the address
  -- it has: from here on nothing is entered
  have hgathered : ∀ σ₁ r σ₂, Open b s N W W σ₁ → Answered b s rt a reports σ₁
      (.ext (.gather parentJobId (children.map fun c => (c.1.id, c.2.id)))) r σ₂ →
      Open b s False W W σ₂ := by
    rintro σ₁ r σ₂ h₁ ⟨owner, ps, ps', hps, hsteps, _⟩
    have hall : ∀ p ∈ ps, p.Sat (Prog.stateless (L := lang)
        (fun c r => Stmt.Heard (bookFocus b) W c r ∧ Reported b W c r)
        (Stmt.Tends (bookFocus b) W)) () fun _ _ => True := by
      intro p hp
      obtain ⟨i, hi, rfl⟩ := List.getElem_of_mem hp
      have hlength := hps.length_eq
      have hlength' := hentries.length_eq
      rw [List.length_map] at hlength
      have hchild := hps.get (i := i) (by rw [List.length_map]; omega) hi
      have hentry := hentries.get (i := i) (by omega) (by omega)
      simp only [List.get_eq_getElem, List.getElem_map] at hchild hentry
      obtain ⟨child, result, hid, _, hp⟩ := hchild
      have hfiled : W .results children[i].2.id = some (child.id, addresses[i]) := by
        rw [hid]
        exact hentry
      rw [hp]
      exact script_sat (runChild_tending hbook rt htenant owner ⟨_, hfiled⟩ result)
    have hbooks := Prog.Pool.steps (I := fun σ => σ.Shows (bookFocus b) s W ∧
        σ.Published (bookFocus b) W) (fun τ c r τ' hτ hc hact => ?_)
      (fun τ τ' hτ hrely => ⟨hτ.1.meanwhile hrely, hτ.2.meanwhile hrely⟩) hsteps
      ⟨h₁.shows, h₁.published⟩ hall
    · exact ⟨hbook, hbooks.1.2, hbooks.1.1, False.elim⟩
    · exact ⟨⟨hτ.1.heard hact.1, ownAddress_reported hbook hτ.1 (hreports _ _ _ hact.2)⟩,
        hτ.1.exec hτ.2 hc hact.1⟩
  refine sat_ask fun σ₁ hrely => ?_
  have h₁ := h.meanwhile hrely
  exact ⟨h₁.inBooks, fun x σ₂ hact => hgathered _ _ _ h₁ hact,
    fun e σ₂ hact => (hgathered _ _ _ h₁ hact).inBooks⟩

end DiscoveryFanoutService
end Discovery
end NetOps
