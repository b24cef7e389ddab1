import NetOps.Joins

/-!
# Cache.Redis

The Redis cache (`cache/redis.py`). Caches share a database and keep their entries apart by a
prefix of the keys; the removal of all entries does not look at the prefix.

* `get_write`: what a write to one key does to the other keys.
* `isolated_iff`: exactly which operations of a cache another one does not notice.
-/

namespace NetOps
namespace Cache

/-- `build_cache_key`, of parts that are texts. -/
def buildCacheKey (nspace : String) (parts : List String) : String :=
  ":".intercalate (nspace :: parts)

theorem toList_buildCacheKey (nspace : String) (parts : List String) :
    (buildCacheKey nspace parts).toList =
      [':'].intercalate (nspace.toList :: parts.map String.toList) := by
  rw [buildCacheKey, String.toList_intercalate, List.map_cons]
  rfl

/-! ## The database -/

/-- A value with the time at which it expires. -/
structure Entry where
  value : String
  expiresAt : Option Int := none

/-- The database, by key. -/
abbrev Database := String → Option Entry

namespace Database

/-- `GET`. -/
def get (db : Database) (now : Int) (key : String) : Option String :=
  match db key with
  | some entry =>
    match entry.expiresAt with
    | some expiresAt => if now < expiresAt then some entry.value else none
    | none => some entry.value
  | none => none

/-- A key is given an entry, or loses it. -/
def write (db : Database) (key : String) (entry : Option Entry) : Database :=
  fun k => if k = key then entry else db k

theorem get_write (db : Database) (now : Int) {key k : String} (entry : Option Entry)
    (h : k ≠ key) : (db.write key entry).get now k = db.get now k := by
  rw [get, write, if_neg h, get]

end Database

/-! ## Caches -/

structure RedisCache where
  keyPrefix : String := "nop"

inductive Operation where
  | get (key : String)
  | set (key value : String) (ttlSeconds : Option Int)
  | delete (key : String)
  | clear

namespace RedisCache

/-- `_key`. -/
def key (cache : RedisCache) (key : String) : String := buildCacheKey cache.keyPrefix [key]

def get (cache : RedisCache) (now : Int) (db : Database) (key : String) : Option String :=
  db.get now (cache.key key)

/-- `SET`; the server refuses a time to live that is not positive. -/
def set (cache : RedisCache) (now : Int) (db : Database) (key value : String) :
    Option Int → Database
  | none => db.write (cache.key key) (some { value := value })
  | some ttlSeconds =>
    if ttlSeconds ≤ 0 then db
    else db.write (cache.key key)
      (some { value := value, expiresAt := some (now + ttlSeconds) })

def delete (cache : RedisCache) (db : Database) (key : String) : Database :=
  db.write (cache.key key) none

/-- `FLUSHDB`. -/
def clear (_ : RedisCache) (_ : Database) : Database := fun _ => none

/-- What an operation makes of the database. -/
def run (cache : RedisCache) (now : Int) (db : Database) : Operation → Database
  | .get _ => db
  | .set key value ttlSeconds => cache.set now db key value ttlSeconds
  | .delete key => cache.delete db key
  | .clear => cache.clear db

/-! ## Isolation -/

/-- No reading of the other cache, at whatever time, notices the operation. -/
def Isolated (cache other : RedisCache) (op : Operation) : Prop :=
  ∀ (db : Database) (now later : Int) (key : String),
    other.get later (cache.run now db op) key = other.get later db key

/-- The key looks like one of the other cache: it begins with its prefix and a separator. -/
def Reaches (cache other : RedisCache) (key : String) : Prop :=
  other.keyPrefix.toList ++ [':'] <+: (cache.key key).toList

/-- What an operation writes stays outside the other cache. -/
def Confined (cache other : RedisCache) : Operation → Prop
  | .get _ => True
  | .set key _ ttlSeconds => (∃ ttl ∈ ttlSeconds, ttl ≤ 0) ∨ ¬ Reaches cache other key
  | .delete key => ¬ Reaches cache other key
  | .clear => False

theorem toList_key (cache : RedisCache) (key : String) :
    (cache.key key).toList = cache.keyPrefix.toList ++ ':' :: key.toList := by
  rw [RedisCache.key, toList_buildCacheKey]
  simp

theorem reaches_iff {cache other : RedisCache} {key : String} :
    Reaches cache other key ↔ ∃ k, other.key k = cache.key key := by
  unfold Reaches
  constructor
  · rintro ⟨rest, hrest⟩
    refine ⟨String.ofList rest, ?_⟩
    rw [← String.toList_inj, toList_key, String.toList_ofList, ← hrest]
    simp
  · rintro ⟨k, hk⟩
    rw [← hk, toList_key]
    exact ⟨k.toList, by simp⟩

variable {cache other : RedisCache}

/-- A write outside the other cache is not noticed. -/
theorem get_write_of_not_reaches {key : String} (h : ¬ Reaches cache other key) (db : Database)
    (later : Int) (entry : Option Entry) (k : String) :
    other.get later (db.write (cache.key key) entry) k = other.get later db k := by
  apply Database.get_write
  intro hk
  exact h (reaches_iff.2 ⟨k, hk⟩)

theorem Confined.isolated {op : Operation} (h : Confined cache other op) :
    Isolated cache other op := by
  intro db now later k
  cases op with
  | get key => rfl
  | set key value ttlSeconds =>
    cases ttlSeconds with
    | none =>
      have hkey : ¬ Reaches cache other key := by simpa [Confined] using h
      exact get_write_of_not_reaches hkey db later _ k
    | some ttl =>
      unfold run set
      dsimp only
      split
      · rfl
      · rename_i hpositive
        have hkey : ¬ Reaches cache other key := by simpa [Confined, hpositive] using h
        exact get_write_of_not_reaches hkey db later _ k
  | delete key => exact get_write_of_not_reaches h db later none k
  | clear => exact h.elim

/-- A database with one entry. -/
def single (key value : String) : Database := Database.write (fun _ => none) key (some { value })

theorem get_single (now : Int) (key value : String) :
    (single key value).get now key = some value := by
  simp [single, Database.write, Database.get]

theorem Isolated.confined {op : Operation} (h : Isolated cache other op) :
    Confined cache other op := by
  cases op with
  | get key => trivial
  | set key value ttlSeconds =>
    by_contra hconfined
    simp only [Confined, not_or, not_not, reaches_iff] at hconfined
    obtain ⟨httl, k, hk⟩ := hconfined
    have hempty := h (fun _ => none) 0 0 k
    cases ttlSeconds with
    | none => simp [run, set, get, hk, Database.write, Database.get] at hempty
    | some ttl =>
      have hpositive : ¬ ttl ≤ 0 := by simpa using httl
      have hlt : 0 < ttl := by omega
      simp [run, set, get, hk, hpositive, hlt, Database.write, Database.get] at hempty
  | delete key =>
    intro hreaches
    obtain ⟨k, hk⟩ := reaches_iff.1 hreaches
    have hgone := h (single (cache.key key) "") 0 0 k
    rw [get, get, hk, get_single] at hgone
    simp [run, delete, Database.write, Database.get] at hgone
  | clear =>
    have hgone := h (single (other.key "") "") 0 0 ""
    rw [get, get, get_single] at hgone
    simp [run, clear, Database.get] at hgone

/-- The other cache does not notice exactly the operations that stay outside of it. -/
theorem isolated_iff {op : Operation} : Isolated cache other op ↔ Confined cache other op :=
  ⟨Isolated.confined, Confined.isolated⟩

end RedisCache

end Cache
end NetOps
