import NetOps.Cache.Redis

/-!
# Cache.Resilient

`ResilientCache` (`cache/redis.py`), over any primary cache. Once a call of the primary raises, the
fallback serves every further call, and it starts out empty; so it does not matter whether the call
that raised had reached the primary.

* `run_coherent`: what the two stores hold, in every run and for every behaviour of the primary.
* `get_latest`: what a read returns is of the last call that set or removed the key.
-/

namespace NetOps
namespace Cache

namespace Operation

/-- The operation decides what is under the key. -/
def touches (key : String) : Operation → Bool
  | .get _ => false
  | .set k _ _ => k = key
  | .delete k => k = key
  | .clear => true

end Operation

/-- What a call comes to. -/
inductive Answer where
  | returned (result : Option String)
  | raised

/-! ## The fallback -/

structure InMemoryCache where
  items : String → Option Entry := fun _ => none

namespace InMemoryCache

def put (cache : InMemoryCache) (key : String) (item : Option Entry) : InMemoryCache where
  items := fun k => if k = key then item else cache.items k

def get (cache : InMemoryCache) (now : Int) (key : String) : Option String × InMemoryCache :=
  match cache.items key with
  | none => (none, cache)
  | some item =>
    match item.expiresAt with
    | some expiresAt =>
      if expiresAt ≤ now then (none, cache.put key none) else (some item.value, cache)
    | none => (some item.value, cache)

def set (cache : InMemoryCache) (now : Int) (key value : String) (ttlSeconds : Option Int) :
    InMemoryCache :=
  cache.put key (some { value := value, expiresAt := ttlSeconds.map fun ttl => now + ttl })

def delete (cache : InMemoryCache) (key : String) : InMemoryCache := cache.put key none

def clear (_ : InMemoryCache) : InMemoryCache where

def run (cache : InMemoryCache) (now : Int) : Operation → Option String × InMemoryCache
  | .get key => cache.get now key
  | .set key value ttlSeconds => (none, cache.set now key value ttlSeconds)
  | .delete key => (none, cache.delete key)
  | .clear => (none, cache.clear)

theorem items_put (cache : InMemoryCache) (key k : String) (item : Option Entry) :
    (cache.put key item).items k = if k = key then item else cache.items k := rfl

/-- A read finds an item that has not expired. -/
theorem get_eq_some {cache : InMemoryCache} {now : Int} {key value : String}
    (h : (cache.get now key).1 = some value) : ∃ item, cache.items key = some item ∧
      item.value = value ∧ ∀ expiresAt ∈ item.expiresAt, now < expiresAt := by
  unfold get at h
  cases hitem : cache.items key with
  | none => simp [hitem] at h
  | some item =>
    cases hexpires : item.expiresAt with
    | none =>
      simp only [hitem, hexpires, Option.some.injEq] at h
      exact ⟨item, rfl, h, by simp [hexpires]⟩
    | some expiresAt =>
      by_cases hpast : expiresAt ≤ now
      · simp [hitem, hexpires, hpast] at h
      · simp only [hitem, hexpires, if_neg hpast, Option.some.injEq] at h
        refine ⟨item, rfl, h, ?_⟩
        intro e he
        rw [hexpires, Option.mem_some_iff] at he
        omega

/-- An item was there before, or the operation sets it. -/
theorem run_items {cache : InMemoryCache} {now : Int} {op : Operation} {k : String} {item : Entry}
    (h : (cache.run now op).2.items k = some item) :
    (op.touches k = false ∧ cache.items k = some item) ∨
      ∃ ttlSeconds, op = .set k item.value ttlSeconds ∧
        item.expiresAt = ttlSeconds.map fun ttl => now + ttl := by
  cases op with
  | get key =>
    refine .inl ⟨rfl, ?_⟩
    simp only [run, get] at h
    split at h
    · exact h
    · split at h
      · split at h
        · rw [items_put] at h
          split at h
          · cases h
          · exact h
        · exact h
      · exact h
  | set key value ttlSeconds =>
    simp only [run, set, items_put] at h
    split at h
    · rename_i hkey
      cases h
      exact .inr ⟨ttlSeconds, by rw [hkey], rfl⟩
    · rename_i hkey
      exact .inl ⟨by simp [Operation.touches, Ne.symm hkey], h⟩
  | delete key =>
    simp only [run, delete, items_put] at h
    split at h
    · cases h
    · rename_i hkey
      exact .inl ⟨by simp [Operation.touches, Ne.symm hkey], h⟩
  | clear =>
    simp only [run, clear] at h
    cases h

end InMemoryCache

/-! ## The primary -/

/-- A cache and what its calls can come to. A call that raises may leave anything behind. -/
structure Backend where
  State : Type
  Call : State → Int → Operation → Answer → State → Prop
  /-- What may be read under a key, now or later. -/
  held : State → String → Option String
  call_get : ∀ {s now key value s'}, Call s now (.get key) (.returned (some value)) s' →
    held s key = some value
  call_held : ∀ {s now op result s' k value}, Call s now op (.returned result) s' →
    held s' k = some value →
    (op.touches k = false ∧ held s k = some value) ∨ ∃ ttlSeconds, op = .set k value ttlSeconds

namespace RedisCache

def result (cache : RedisCache) (now : Int) (db : Database) : Operation → Option String
  | .get key => cache.get now db key
  | _ => none

/-- The server raises. -/
def Refused : Operation → Prop
  | .set _ _ (some ttlSeconds) => ttlSeconds ≤ 0
  | _ => False

/-- A call finds what the server has not evicted; one that raises has reached it or has not. -/
inductive Call (cache : RedisCache) (now : Int) (op : Operation) :
    Database → Answer → Database → Prop where
  | returned {db left : Database} (hleft : ∀ k, left k = none ∨ left k = db k)
      (haccepted : ¬Refused op) :
      Call cache now op db (.returned (cache.result now left op)) (cache.run now left op)
  | lost {db left : Database} (hleft : ∀ k, left k = none ∨ left k = db k) :
      Call cache now op db .raised left
  | unanswered {db left : Database} (hleft : ∀ k, left k = none ∨ left k = db k)
      (haccepted : ¬Refused op) : Call cache now op db .raised (cache.run now left op)

def held (cache : RedisCache) (db : Database) (key : String) : Option String :=
  (db (cache.key key)).map Entry.value

theorem key_injective (cache : RedisCache) {key k : String}
    (h : cache.key key = cache.key k) : key = k := by
  have hlist := congrArg String.toList h
  rw [toList_key, toList_key] at hlist
  have hkeys := List.append_cancel_left hlist
  rw [List.cons.injEq] at hkeys
  exact String.toList_inj.1 hkeys.2

theorem held_write {cache : RedisCache} {db : Database} {key k value : String}
    {entry : Option Entry}
    (h : cache.held (db.write (cache.key key) entry) k = some value) :
    (key ≠ k ∧ cache.held db k = some value) ∨ (key = k ∧ entry.map Entry.value = some value) := by
  unfold held Database.write at h
  split at h
  · rename_i hkey
    exact .inr ⟨(cache.key_injective hkey).symm, h⟩
  · rename_i hkey
    exact .inl ⟨fun hsame => hkey (by rw [hsame]), h⟩

theorem held_of_get {cache : RedisCache} {now : Int} {db : Database} {key value : String}
    (h : cache.get now db key = some value) : cache.held db key = some value := by
  unfold get Database.get at h
  unfold held
  cases hentry : db (cache.key key) with
  | none => simp [hentry] at h
  | some entry =>
    cases hexpires : entry.expiresAt with
    | none => simpa [hentry, hexpires] using h
    | some expiresAt =>
      simp only [hentry, hexpires] at h
      split at h
      · simpa using h
      · cases h

theorem held_left {cache : RedisCache} {db left : Database}
    (hleft : ∀ k, left k = none ∨ left k = db k) {k value : String}
    (h : cache.held left k = some value) : cache.held db k = some value := by
  unfold held at h ⊢
  rcases hleft (cache.key k) with hnone | hsame
  · rw [hnone] at h
    cases h
  · rwa [hsame] at h

theorem held_run {cache : RedisCache} {now : Int} {db : Database} {op : Operation}
    {k value : String} (haccepted : ¬Refused op)
    (h : cache.held (cache.run now db op) k = some value) :
    (op.touches k = false ∧ cache.held db k = some value) ∨
      ∃ ttlSeconds, op = .set k value ttlSeconds := by
  cases op with
  | get key => exact .inl ⟨rfl, h⟩
  | set key v ttlSeconds =>
    obtain ⟨entry, hentry, hrun⟩ : ∃ entry : Entry, entry.value = v ∧
        cache.run now db (.set key v ttlSeconds) =
          db.write (cache.key key) (some entry) := by
      cases ttlSeconds with
      | none => exact ⟨_, rfl, rfl⟩
      | some ttl =>
        have hpositive : ¬ttl ≤ 0 := haccepted
        exact ⟨{ value := v, expiresAt := some (now + ttl) }, rfl, by simp [run, set, hpositive]⟩
    rw [hrun] at h
    rcases held_write h with ⟨hkey, hheld⟩ | ⟨rfl, hvalue⟩
    · exact .inl ⟨by simp [Operation.touches, hkey], hheld⟩
    · simp only [Option.map_some, hentry, Option.some.injEq] at hvalue
      exact .inr ⟨ttlSeconds, by rw [hvalue]⟩
  | delete key =>
    rcases held_write h with ⟨hkey, hheld⟩ | ⟨-, hvalue⟩
    · exact .inl ⟨by simp [Operation.touches, hkey], hheld⟩
    · cases hvalue
  | clear => cases h

/-- The Redis cache as a primary. -/
def backend (cache : RedisCache) : Backend where
  State := Database
  Call := fun db now op answer db' => cache.Call now op db answer db'
  held := cache.held
  call_get := by
    intro db now key value db' h
    generalize hanswer : Answer.returned (some value) = answer at h
    cases h with
    | returned hleft haccepted =>
      injection hanswer with hresult
      exact held_left hleft (held_of_get hresult.symm)
    | lost hleft => cases hanswer
    | unanswered hleft haccepted => cases hanswer
  call_held := by
    intro db now op result db' k value h hheld
    cases h with
    | returned hleft haccepted =>
      rcases held_run haccepted hheld with ⟨htouches, hbefore⟩ | hset
      · exact .inl ⟨htouches, held_left hleft hbefore⟩
      · exact .inr hset

end RedisCache

/-! ## The resilient cache -/

structure ResilientCache (B : Backend) where
  primary : B.State
  fallback : InMemoryCache := {}
  degraded : Bool := false

namespace ResilientCache

variable {B : Backend}

/-- What all operations do with the answer of the primary and with the fallback. -/
def guarded (cache : ResilientCache B) (primary : Answer × B.State)
    (fallback : InMemoryCache → Option String × InMemoryCache) :
    Option String × ResilientCache B :=
  if cache.degraded = true then
    ((fallback cache.fallback).1, { cache with fallback := (fallback cache.fallback).2 })
  else
    match primary with
    | (.returned result, s) => (result, { cache with primary := s })
    | (.raised, s) =>
      ((fallback cache.fallback).1,
        { primary := s, fallback := (fallback cache.fallback).2, degraded := true })

def get (cache : ResilientCache B) (now : Int) (primary : Answer × B.State) (key : String) :
    Option String × ResilientCache B := cache.guarded primary fun fallback => fallback.get now key

def set (cache : ResilientCache B) (now : Int) (primary : Answer × B.State) (key value : String)
    (ttlSeconds : Option Int) : Option String × ResilientCache B :=
  cache.guarded primary fun fallback => (none, fallback.set now key value ttlSeconds)

def delete (cache : ResilientCache B) (primary : Answer × B.State) (key : String) :
    Option String × ResilientCache B :=
  cache.guarded primary fun fallback => (none, fallback.delete key)

def clear (cache : ResilientCache B) (primary : Answer × B.State) :
    Option String × ResilientCache B :=
  cache.guarded primary fun fallback => (none, fallback.clear)

def run (cache : ResilientCache B) (now : Int) (primary : Answer × B.State) :
    Operation → Option String × ResilientCache B
  | .get key => cache.get now primary key
  | .set key value ttlSeconds => cache.set now primary key value ttlSeconds
  | .delete key => cache.delete primary key
  | .clear => cache.clear primary

theorem run_eq (cache : ResilientCache B) (now : Int) (primary : Answer × B.State)
    (op : Operation) :
    cache.run now primary op = cache.guarded primary fun fallback => fallback.run now op := by
  cases op <;> rfl

/-- A call that was made of the cache. -/
structure Event where
  now : Int
  op : Operation
  result : Option String
  /-- It was the fallback that served it. -/
  inFallback : Bool

/-- A call, with any answer that the primary can give. -/
def Step (cache : ResilientCache B) (e : Event) (cache' : ResilientCache B) : Prop :=
  ∃ primary : Answer × B.State,
    (cache.degraded = false → B.Call cache.primary e.now e.op primary.1 primary.2) ∧
      cache.run e.now primary e.op = (e.result, cache') ∧ e.inFallback = cache'.degraded

/-- The calls one after another. -/
inductive Runs (start : ResilientCache B) : List Event → ResilientCache B → Prop where
  | nil : Runs start [] start
  | snoc {events : List Event} {e : Event} {cache cache' : ResilientCache B} :
      Runs start events cache → cache.Step e cache' → Runs start (events ++ [e]) cache'

/-- What a call does: the primary serves it, or it has raised and the fallback does. -/
theorem step_cases {cache cache' : ResilientCache B} {e : Event} (h : cache.Step e cache') :
    (cache.degraded = false ∧ e.inFallback = false ∧ ∃ s,
      B.Call cache.primary e.now e.op (.returned e.result) s ∧
        cache' = { cache with primary := s }) ∨
    (e.inFallback = true ∧ cache'.degraded = true ∧
      e.result = (cache.fallback.run e.now e.op).1 ∧
        cache'.fallback = (cache.fallback.run e.now e.op).2) := by
  obtain ⟨⟨answer, s⟩, hcall, hrun, hserved⟩ := h
  rw [run_eq] at hrun
  unfold guarded at hrun
  by_cases hdegraded : cache.degraded = true
  · rw [if_pos hdegraded, Prod.mk.injEq] at hrun
    obtain ⟨hresult, rfl⟩ := hrun
    exact .inr ⟨hserved.trans hdegraded, hdegraded, hresult.symm, rfl⟩
  · rw [if_neg hdegraded] at hrun
    rw [Bool.not_eq_true] at hdegraded
    cases answer with
    | returned result =>
      rw [Prod.mk.injEq] at hrun
      obtain ⟨rfl, rfl⟩ := hrun
      exact .inl ⟨hdegraded, hserved.trans hdegraded, s, hcall hdegraded, rfl⟩
    | raised =>
      rw [Prod.mk.injEq] at hrun
      obtain ⟨hresult, rfl⟩ := hrun
      exact .inr ⟨hserved, rfl, hresult.symm, rfl⟩

/-- The last call that decided what is under the key. -/
def latest (events : List Event) (key : String) : Option Event :=
  (events.filter fun e => e.op.touches key).getLast?

theorem latest_snoc (events : List Event) (e : Event) (key : String) :
    latest (events ++ [e]) key = if e.op.touches key = true then some e else latest events key := by
  unfold latest
  rw [List.filter_append]
  by_cases h : e.op.touches key = true
  · simp [h]
  · simp [h]

/-- What both stores hold is of the last call that touched the key, as far as they can be read. -/
structure Coherent (start : B.State) (events : List Event) (cache : ResilientCache B) : Prop where
  primary : cache.degraded = false → ∀ k value, B.held cache.primary k = some value →
    (∃ e ttlSeconds, latest events k = some e ∧ e.op = .set k value ttlSeconds ∧
      e.inFallback = false) ∨ (latest events k = none ∧ B.held start k = some value)
  unused : cache.degraded = false → ∀ k, cache.fallback.items k = none
  fallback : ∀ k item, cache.fallback.items k = some item →
    ∃ e ttlSeconds, latest events k = some e ∧ e.op = .set k item.value ttlSeconds ∧
      item.expiresAt = ttlSeconds.map fun ttl => e.now + ttl

theorem start_coherent (start : B.State) :
    Coherent start [] ({ primary := start } : ResilientCache B) where
  primary := by
    intro _ k value hheld
    exact .inr ⟨rfl, hheld⟩
  unused := by
    intro _ k
    rfl
  fallback := by
    intro k item hitem
    cases hitem

theorem step_coherent {start : B.State} {events : List Event} {e : Event}
    {cache cache' : ResilientCache B} (hinv : Coherent start events cache)
    (hstep : cache.Step e cache') : Coherent start (events ++ [e]) cache' := by
  rcases step_cases hstep with ⟨hprimary, hserved, s, hcall, rfl⟩ | ⟨-, hdegraded, -, hfallback⟩
  · have hunused := hinv.unused hprimary
    refine ⟨?_, ?_, ?_⟩
    · intro _ k value hheld
      rw [latest_snoc]
      rcases B.call_held hcall hheld with ⟨htouches, hbefore⟩ | ⟨ttlSeconds, hset⟩
      · simp only [htouches, Bool.false_eq_true, if_false]
        exact hinv.primary hprimary k value hbefore
      · have htouches : e.op.touches k = true := by simp [hset, Operation.touches]
        rw [if_pos htouches]
        exact .inl ⟨e, ttlSeconds, rfl, hset, hserved⟩
    · intro _ k
      exact hunused k
    · intro k item hitem
      rw [hunused k] at hitem
      cases hitem
  · refine ⟨?_, ?_, ?_⟩
    · intro hprimary
      rw [hdegraded] at hprimary
      cases hprimary
    · intro hprimary
      rw [hdegraded] at hprimary
      cases hprimary
    · intro k item hitem
      rw [hfallback] at hitem
      rw [latest_snoc]
      rcases InMemoryCache.run_items hitem with ⟨htouches, hbefore⟩ | ⟨ttlSeconds, hset, hexpires⟩
      · simp only [htouches, Bool.false_eq_true, if_false]
        exact hinv.fallback k item hbefore
      · have htouches : e.op.touches k = true := by simp [hset, Operation.touches]
        rw [if_pos htouches]
        exact ⟨e, ttlSeconds, rfl, hset, hexpires⟩

theorem run_coherent {start : B.State} {events : List Event} {cache : ResilientCache B}
    (hrun : Runs ({ primary := start } : ResilientCache B) events cache) :
    Coherent start events cache := by
  induction hrun with
  | nil => exact start_coherent start
  | snoc _ hstep ih => exact step_coherent ih hstep

/-- Where a value that is read comes from. -/
theorem get_source {start : B.State} {events : List Event} {cache cache' : ResilientCache B}
    (hinv : Coherent start events cache) {now : Int} {key value : String} {inFallback : Bool}
    (hget : cache.Step ⟨now, .get key, some value, inFallback⟩ cache') :
    (∃ e ttlSeconds, latest events key = some e ∧ e.op = .set key value ttlSeconds ∧
      (e.inFallback = true → ∀ ttl ∈ ttlSeconds, now < e.now + ttl)) ∨
    (latest events key = none ∧ B.held start key = some value) := by
  rcases step_cases hget with ⟨hprimary, -, s, hcall, -⟩ | ⟨-, -, hresult, -⟩
  · have hheld := B.call_get hcall
    rcases hinv.primary hprimary key value hheld with ⟨e, ttlSeconds, hlatest, hset, hserved⟩ | h
    · refine .inl ⟨e, ttlSeconds, hlatest, hset, ?_⟩
      intro hfallback
      rw [hserved] at hfallback
      cases hfallback
    · exact .inr h
  · obtain ⟨item, hitem, rfl, hfresh⟩ := InMemoryCache.get_eq_some hresult.symm
    obtain ⟨e, ttlSeconds, hlatest, hset, hexpires⟩ := hinv.fallback key item hitem
    refine .inl ⟨e, ttlSeconds, hlatest, hset, ?_⟩
    intro _ ttl httl
    refine hfresh (e.now + ttl) ?_
    rw [hexpires, Option.mem_def.1 httl]
    rfl

/-- A read returns nothing, or what the last call that touched the key has set; or, if none did,
what the primary held at the start. What the fallback was given is not returned after its time. -/
theorem get_latest {start : B.State} {events : List Event} {cache cache' : ResilientCache B}
    (hrun : Runs ({ primary := start } : ResilientCache B) events cache) {now : Int}
    {key : String} {result : Option String} {inFallback : Bool}
    (hget : cache.Step ⟨now, .get key, result, inFallback⟩ cache') :
    (∀ value, result = some value →
      (∃ e ttlSeconds, latest events key = some e ∧ e.op = .set key value ttlSeconds) ∨
        (latest events key = none ∧ B.held start key = some value)) ∧
    ∀ e value ttl, latest events key = some e → e.op = .set key value (some ttl) →
      e.inFallback = true → e.now + ttl ≤ now → result = none := by
  have hinv := run_coherent hrun
  constructor
  · rintro value rfl
    rcases get_source hinv hget with ⟨e, ttlSeconds, hlatest, hset, -⟩ | h
    · exact .inl ⟨e, ttlSeconds, hlatest, hset⟩
    · exact .inr h
  · intro e value ttl hlatest hset hserved hpast
    cases result with
    | none => rfl
    | some found =>
      rcases get_source hinv hget with ⟨e', ttlSeconds, hlatest', hset', hfresh⟩ | ⟨hnone, -⟩
      · rw [hlatest, Option.some.injEq] at hlatest'
        subst hlatest'
        rw [hset, Operation.set.injEq] at hset'
        have hlt := hfresh hserved ttl (by rw [← hset'.2.2]; rfl)
        omega
      · rw [hlatest] at hnone
        cases hnone

/-! Two calls to set a key, of which the second raises though the server has done it. -/

def redis : RedisCache := {}

def database (value : String) : Database :=
  redis.run 0 (fun _ => none) (.set "k" value none)

def setTwice : List Event :=
  [⟨0, .set "k" "a" none, none, false⟩, ⟨1, .set "k" "b" none, none, true⟩]

def failedOver : ResilientCache redis.backend where
  primary := redis.run 1 (database "a") (.set "k" "b" none)
  fallback := InMemoryCache.set {} 1 "k" "b" none
  degraded := true

theorem runs_setTwice :
    Runs ({ primary := fun _ => none } : ResilientCache redis.backend) setTwice failedOver := by
  have hfirst : Step ({ primary := fun _ => none } : ResilientCache redis.backend)
      ⟨0, .set "k" "a" none, none, false⟩ { primary := database "a" } :=
    ⟨(.returned none, database "a"), fun _ => .returned (fun _ => .inr rfl) id, rfl, rfl⟩
  have hsecond : Step ({ primary := database "a" } : ResilientCache redis.backend)
      ⟨1, .set "k" "b" none, none, true⟩ failedOver :=
    ⟨(.raised, failedOver.primary), fun _ => .unanswered (fun _ => .inr rfl) id, rfl, rfl⟩
  exact .snoc (.snoc .nil hfirst) hsecond

theorem get_failedOver : failedOver.Step ⟨2, .get "k", some "b", true⟩ failedOver :=
  ⟨(.raised, failedOver.primary), fun h => Bool.noConfusion h, rfl, rfl⟩

theorem get_latest_failedOver :
    (∃ e ttlSeconds, latest setTwice "k" = some e ∧ e.op = .set "k" "b" ttlSeconds) ∨
      (latest setTwice "k" = none ∧ redis.backend.held (fun _ => none) "k" = some "b") :=
  (get_latest runs_setTwice get_failedOver).1 "b" rfl

end ResilientCache
end Cache
end NetOps
