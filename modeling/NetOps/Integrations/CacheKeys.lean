import Mathlib.Data.String.Basic
import NetOps.Cache.Redis
import NetOps.Dict

/-!
# Integrations.CacheKeys

The keys under which responses of NetBox are cached (`integrations/netbox/cache.py`). A key joins
the endpoint and the parameters of a request with a separator that may occur in all of them, so two
requests may have one key.

* `collection_congr`: the order in which parameters are given does not matter.
* `collection_inj_iff`: two requests have one key if and only if they read the same between
  separators.
* `separates_iff`: when requests, and the caches of one database, are kept apart.
-/

namespace NetOps
namespace Integrations

open Cache (RedisCache Database Operation buildCacheKey)
open Cache.RedisCache (Isolated Confined)

variable {V : Type}

/-! ## Keys -/

/-- A request for a collection. -/
structure CollectionRequest (V : Type) where
  endpoint : String
  params : Dict String V

/-- The endpoints and the dictionaries of parameters are equal. -/
def CollectionRequest.Same (r r' : CollectionRequest V) : Prop :=
  r.endpoint = r'.endpoint ∧ ∀ key, r.params.get? key = r'.params.get? key

/-- The parameters in the order of their names, as texts. -/
def normalizedParams (str : V → String) (params : Dict String V) : List String :=
  (params.items.mergeSort fun e e' => e.1 ≤ e'.1).map fun e => e.1 ++ "=" ++ str e.2

structure NetBoxCacheKeys where
  keySpace : String := "netbox"

namespace NetBoxCacheKeys

variable (keys : NetBoxCacheKeys) (str : V → String)

def health : String := buildCacheKey keys.keySpace ["health"]

def collection (r : CollectionRequest V) : String :=
  buildCacheKey keys.keySpace ("collection" :: r.endpoint :: normalizedParams str r.params)

def inventory : String := buildCacheKey keys.keySpace ["inventory"]

end NetBoxCacheKeys

/-! ## What a key tells -/

variable {keys : NetBoxCacheKeys} {str : V → String} {r r' : CollectionRequest V}

theorem normalizedParams_of_sorted {params : Dict String V}
    (h : params.items.Pairwise fun e e' => decide (e.1 ≤ e'.1) = true) :
    normalizedParams str params = params.items.map fun e => e.1 ++ "=" ++ str e.2 := by
  rw [normalizedParams, List.mergeSort_of_pairwise h]

/-- What stands between separators in the endpoint and the parameters. -/
def pieces (str : V → String) (r : CollectionRequest V) : List (List Char) :=
  Joins.pieces ':' ((r.endpoint :: normalizedParams str r.params).map String.toList)

theorem collection_inj_iff :
    keys.collection str r = keys.collection str r' ↔ pieces str r = pieces str r' := by
  unfold NetBoxCacheKeys.collection
  rw [← String.toList_inj, Cache.toList_buildCacheKey, Cache.toList_buildCacheKey,
    Joins.join_inj_iff (List.cons_ne_nil _ _) (List.cons_ne_nil _ _)]
  simp only [List.map_cons, Joins.pieces_cons, List.append_cancel_left_eq, pieces]

/-- Without separators in the endpoint and the parameters, the texts of a request are its pieces. -/
theorem pieces_of_plain
    (h : ∀ text ∈ r.endpoint :: normalizedParams str r.params, ':' ∉ text.toList) :
    pieces str r = (r.endpoint :: normalizedParams str r.params).map String.toList := by
  apply Joins.pieces_of_plain
  intro part hpart
  obtain ⟨text, htext, rfl⟩ := List.mem_map.1 hpart
  exact h text htext

/-! ## Requests and caches kept apart -/

/-- Two requests that are not the same have different keys, and what is stored for one changes
nothing for the other; and an operation of a cache is not noticed by another one. -/
structure Separates (keys : NetBoxCacheKeys) (str : V → String) (r r' : CollectionRequest V)
    (cache other : RedisCache) (op : Operation) : Prop where
  injective : keys.collection str r = keys.collection str r' → r.Same r'
  stored : ¬ r.Same r' → ∀ (db : Database) (now later : Int) (payload : String)
    (ttlSeconds : Option Int),
    cache.get later (cache.set now db (keys.collection str r) payload ttlSeconds)
      (keys.collection str r') = cache.get later db (keys.collection str r')
  isolated : Isolated cache other op

theorem key_inj {cache : RedisCache} {key key' : String}
    (h : cache.key key = cache.key key') : key = key' := by
  have hlist := congrArg String.toList h
  rw [Cache.RedisCache.toList_key, Cache.RedisCache.toList_key] at hlist
  have := List.append_cancel_left hlist
  exact String.toList_inj.1 (List.cons.inj this).2

/-- Requests and caches are kept apart if and only if the requests are the same or read differently
between separators, and the operation stays outside of the other cache. -/
theorem separates_iff (keys : NetBoxCacheKeys) (str : V → String) (r r' : CollectionRequest V)
    (cache other : RedisCache) (op : Operation) :
    Separates keys str r r' cache other op ↔
      (r.Same r' ∨ pieces str r ≠ pieces str r') ∧ Confined cache other op := by
  constructor
  · intro h
    refine ⟨?_, Cache.RedisCache.isolated_iff.1 h.isolated⟩
    by_cases hpieces : pieces str r = pieces str r'
    · exact .inl (h.injective (collection_inj_iff.2 hpieces))
    · exact .inr hpieces
  · rintro ⟨hrequests, hop⟩
    have hinjective : keys.collection str r = keys.collection str r' → r.Same r' := by
      intro hkey
      rcases hrequests with hsame | hpieces
      · exact hsame
      · exact absurd (collection_inj_iff.1 hkey) hpieces
    refine ⟨hinjective, ?_, Cache.RedisCache.isolated_iff.2 hop⟩
    intro hother db now later payload ttlSeconds
    have hkey : cache.key (keys.collection str r') ≠
        cache.key (keys.collection str r) := by
      intro h
      exact hother (hinjective (key_inj h).symm)
    cases ttlSeconds with
    | none => exact Database.get_write db later _ hkey
    | some ttl =>
      unfold RedisCache.set
      dsimp only
      split
      · rfl
      · exact Database.get_write db later _ hkey

/-! ### One key for two requests -/

/-- The devices of this name, and of this name and site. -/
def named (params : List (String × String)) : CollectionRequest String where
  endpoint := "/api/dcim/devices/"
  params := .ofList params

/-- A name with the separator in it reads like a name and a site. And the removal of all entries
of a cache removes those of every other cache. -/
theorem keys_collide :
    ¬ Separates {} id (named [("name", "sw1:site=2")]) (named [("name", "sw1"), ("site", "2")])
        ⟨"nop"⟩ ⟨"app"⟩ (.get "health") ∧
      ∀ r : CollectionRequest String, ¬ Separates {} id r r ⟨"nop"⟩ ⟨"app"⟩ .clear := by
  constructor
  · intro h
    have hkey : ({} : NetBoxCacheKeys).collection id (named [("name", "sw1:site=2")]) =
        ({} : NetBoxCacheKeys).collection id (named [("name", "sw1"), ("site", "2")]) := by
      rw [NetBoxCacheKeys.collection, NetBoxCacheKeys.collection,
        normalizedParams_of_sorted (by decide), normalizedParams_of_sorted (by decide)]
      decide
    exact absurd ((h.injective hkey).2 "site") (by decide)
  · intro r h
    exact Cache.RedisCache.isolated_iff.1 h.isolated

end Integrations
end NetOps
