import Mathlib.Data.List.AList

/-!
# Transports.Pool

The connection pool under many calls at once (`transports/connection_pool.py`). A call runs from
one `await` to the next without interruption; between two of its steps any other call may run.

* `State`, `step`: the pool, the locks that are held, and what every call has still to do. A call
  waits for the lock of its key, for its session to open, or for a session to close; who waits for a
  lock may get it in any order.
* `Kept`, `Ends`, `AllClosed`: what the pool is for.
* `Guarded`: a creation ends while the pool has room, and while no `close_all` is running that has
  passed its key by.
-/

namespace NetOps
namespace Transports
namespace Pool

/-- Sessions, in the order in which factories make them. -/
abbrev SessionId := Nat

/-- What a call has still to do. `get` and `release` wait for the lock of their key; `opening` and
`closing` hold it. `close_all` releases `rest` after its key. -/
inductive Call where
  | get (key : String)
  | opening (key : String) (session : SessionId)
  | release (key : String) (rest : List String) (all : Bool)
  | closing (key : String) (session : SessionId) (rest : List String) (all : Bool)

/-- The pool, with the sessions that were opened, by key, and those whose `close` has returned. -/
structure State where
  maxSize : Nat
  sessions : AList fun _ : String => SessionId := ∅
  locked : List String := []
  made : Nat := 0
  opened : List (String × SessionId) := []
  closed : List SessionId := []
  call : Nat → Option Call := fun _ => none

/-- A call begins, gets the lock it waits for, or goes on after `open` or `close`. -/
inductive Action where
  | getOrCreate (c : Nat) (key : String)
  | release (c : Nat) (key : String)
  | closeAll (c : Nat)
  | acquire (c : Nat)
  | openReturns (c : Nat)
  | openFails (c : Nat)
  | closeReturns (c : Nat)

/-- The next key that `close_all` releases; without one the call ends. -/
def nextRelease (all : Bool) : List String → Option Call
  | [] => none
  | key :: rest => some (.release key rest all)

namespace State

def setCall (σ : State) (c : Nat) (call : Option Call) : State :=
  { σ with call := Function.update σ.call c call }

/-- `get_or_create` with the lock of its key. -/
def enterGet (σ : State) (c : Nat) (key : String) : State :=
  match σ.sessions.lookup key with
  | some _ => σ.setCall c none
  | none =>
    if σ.maxSize ≤ σ.sessions.keys.length then σ.setCall c none
    else { σ.setCall c (some (.opening key σ.made)) with
      made := σ.made + 1
      locked := key :: σ.locked }

/-- `release` with the lock of its key. -/
def enterRelease (σ : State) (c : Nat) (key : String) (rest : List String) (all : Bool) : State :=
  match σ.sessions.lookup key with
  | none => σ.setCall c (nextRelease all rest)
  | some session => { σ.setCall c (some (.closing key session rest all)) with
      sessions := σ.sessions.erase key
      locked := key :: σ.locked }

end State

/-- One step of a run, if the action can happen. -/
def step (σ : State) : Action → Option State
  | .getOrCreate c key =>
    if (σ.call c).isSome then none else some (σ.setCall c (some (.get key)))
  | .release c key =>
    if (σ.call c).isSome then none else some (σ.setCall c (some (.release key [] false)))
  | .closeAll c =>
    if (σ.call c).isSome then none
    else some (σ.setCall c (nextRelease true σ.sessions.keys.reverse))
  | .acquire c =>
    match σ.call c with
    | some (.get key) => if key ∈ σ.locked then none else some (σ.enterGet c key)
    | some (.release key rest all) =>
      if key ∈ σ.locked then none else some (σ.enterRelease c key rest all)
    | _ => none
  | .openReturns c =>
    match σ.call c with
    | some (.opening key session) => some { σ.setCall c none with
        sessions := σ.sessions.insert key session
        opened := (key, session) :: σ.opened
        locked := σ.locked.erase key }
    | _ => none
  | .openFails c =>
    match σ.call c with
    | some (.opening key _) => some { σ.setCall c none with locked := σ.locked.erase key }
    | _ => none
  | .closeReturns c =>
    match σ.call c with
    | some (.closing key session rest all) => some { σ.setCall c (nextRelease all rest) with
        closed := session :: σ.closed
        locked := σ.locked.erase key }
    | _ => none

/-- The states that runs reach whose steps all meet a condition. -/
inductive Reachable (cond : State → Action → Prop) (maxSize : Nat) : State → Prop
  | initial : Reachable cond maxSize { maxSize := maxSize }
  | step {σ σ' : State} {a : Action} (h : Reachable cond maxSize σ) (hcond : cond σ a)
      (hstep : step σ a = some σ') : Reachable cond maxSize σ'

/-! ## What the pool is for -/

/-- A call that has taken the session out of the pool is closing it. -/
def State.Closing (σ : State) (key : String) (session : SessionId) : Prop :=
  ∃ c rest all, σ.call c = some (.closing key session rest all)

/-- The pool keeps to its size, a key has at most one session that is open, and a session that was
opened is in the pool, or closed, or being closed. -/
structure Kept (σ : State) : Prop where
  size : σ.sessions.keys.length ≤ σ.maxSize
  single : ∀ key s s', (key, s) ∈ σ.opened → (key, s') ∈ σ.opened → s ∉ σ.closed →
    s' ∉ σ.closed → s = s'
  accounted : ∀ key s, (key, s) ∈ σ.opened →
    σ.sessions.lookup key = some s ∨ s ∈ σ.closed ∨ σ.Closing key s

/-- What a `close_all` has still to release. -/
def Call.pending : Call → Option (List String)
  | .release key rest true => some (key :: rest)
  | .closing _ _ rest true => some rest
  | _ => none

/-- The step ends a `close_all`. -/
def Ends (σ σ' : State) : Action → Prop
  | .closeAll c => σ'.call c = none
  | .acquire c | .closeReturns c =>
    (∃ call keys, σ.call c = some call ∧ call.pending = some keys) ∧ σ'.call c = none
  | _ => False

/-- Every session that was opened is closed. -/
def AllClosed (σ : State) : Prop := ∀ key s, (key, s) ∈ σ.opened → s ∈ σ.closed

/-- A creation ends while the pool has room, and its key is one that every `close_all` in progress
has still to release. -/
def Guarded (σ : State) : Action → Prop
  | .openReturns c => ∀ key session, σ.call c = some (.opening key session) →
      σ.sessions.keys.length < σ.maxSize ∧
      ∀ c' call keys, σ.call c' = some call → call.pending = some keys → key ∈ keys
  | _ => True

end Pool
end Transports
end NetOps
