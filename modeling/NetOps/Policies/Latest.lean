import Mathlib.Data.List.Pairwise
import NetOps.Groups
import NetOps.Policies.Inheritance
import NetOps.Policies.Versions

/-!
# Policies.Latest

Which versions a collection of packages is resolved with. Of every key the latest version is built,
but what it inherits is looked up by id in a map that keeps the package given last.

* `selected`: one package for each key, of its highest version.
* `resolveInheritedPackages_congr`: two maps that agree where the walk comes by give one walk.
* `latest_versions_iff`: a collection, in the order it is given, is resolved with the highest
  versions throughout if and only if all rules are registered and every policy that a highest
  version inherits from has its highest version last.
-/

namespace NetOps
namespace Policies

open Discovery (UUID)
open PolicyPackageResolver
open Relation (ReflTransGen TransGen)

/-! ## Highest versions -/

section Highest

variable (packages : List PolicyPackage)

/-- Of one key, the packages have different versions. -/
def Apart (p q : PolicyPackage) : Prop :=
  p.policyKey = q.policyKey → p.version.parts ≠ q.version.parts

instance : Std.Symm Apart where
  symm _ _ h hkey hparts := h hkey.symm hparts.symm

/-- The versions of one key are pairwise different. -/
def Distinct : Prop := packages.Pairwise Apart

/-- The package of the highest version of its key. -/
def Highest (p : PolicyPackage) : Prop :=
  p ∈ packages ∧ ∀ q ∈ packages, q.policyKey = p.policyKey →
    q = p ∨ q.version.lt p.version = true

/-- The package of the highest version of an id. -/
def Top (id : UUID) (q : PolicyPackage) : Prop :=
  q ∈ packages ∧ q.policyId = id ∧ ∀ x ∈ packages, x.policyId = id →
    x = q ∨ x.version.lt q.version = true

/-- The map has the highest version of every id, where there is one. -/
def TopMap (top : Dict UUID PolicyPackage) : Prop :=
  ∀ id q, top.get? id = some q ↔ Top packages id q

/-- The second package is the highest version of an id that the first one inherits. -/
def InheritsTop (p q : PolicyPackage) : Prop := ∃ id ∈ p.inheritedIds, Top packages id q

end Highest

variable {packages given : List PolicyPackage} {p q : PolicyPackage} {id : UUID}

theorem Top.unique (h : Top packages id p) (h' : Top packages id q) : p = q := by
  rcases h.2.2 q h'.1 h'.2.1 with heq | hlt
  · exact heq.symm
  · rcases h'.2.2 p h.1 h.2.1 with heq | hlt'
    · exact heq
    · rw [PolicyVersion.not_lt_of_lt hlt] at hlt'
      cases hlt'

theorem exists_topMap (packages : List PolicyPackage) : ∃ top, TopMap packages top := by
  classical
  refine ⟨Dict.byKey (·.policyId) (packages.filter fun q => Top packages q.policyId q), ?_⟩
  intro id q
  constructor
  · intro h
    obtain ⟨hmem, rfl⟩ := Dict.get?_byKey h
    exact of_decide_eq_true (List.mem_filter.1 hmem).2
  · intro h
    have hid := h.2.1
    subst hid
    have hq : q ∈ packages.filter fun q => Top packages q.policyId q :=
      List.mem_filter.2 ⟨h.1, decide_eq_true h⟩
    obtain ⟨x, hx⟩ := Dict.get?_byKey_isSome (·.policyId) hq
    obtain ⟨hmem, hkey⟩ := Dict.get?_byKey hx
    have htop : Top packages x.policyId x := of_decide_eq_true (List.mem_filter.1 hmem).2
    rw [hkey] at htop
    rw [hx, h.unique htop]

theorem TopMap.inherits {top : Dict UUID PolicyPackage} (h : TopMap packages top) :
    Inherits top p q ↔ InheritsTop packages p q := by
  unfold Inherits InheritsTop
  simp only [h _ _]

/-! ## The package that is built of each key -/

theorem packagesByKey_eq (given : List PolicyPackage) : packagesByKey given =
    Dict.accumulate (·.policyKey) (fun entries p => entries.getD [] ++ [p]) given := rfl

theorem get?_packagesByKey {key : String} {entries : List PolicyPackage}
    (h : (packagesByKey given).get? key = some entries) :
    entries = given.filter (fun p => p.policyKey = key) ∧ entries ≠ [] := by
  have hfold : ∀ ps : List PolicyPackage,
      ps.foldl (fun v p => some ((v.getD []) ++ [p])) (none : Option (List PolicyPackage)) =
        if ps = [] then none else some ps := by
    intro ps
    induction ps using List.reverseRecOn with
    | nil => rfl
    | append_singleton ps p ih =>
      rw [List.foldl_concat, ih]
      cases ps <;> simp
  rw [packagesByKey_eq, Dict.get?_accumulate, hfold] at h
  split at h
  · cases h
  · cases h
    exact ⟨rfl, ‹_›⟩

theorem get?_packagesByKey_isSome (h : p ∈ given) :
    ∃ entries, (packagesByKey given).get? p.policyKey = some entries := by
  have hmem : p ∈ (packagesByKey given).values.flatMap id := by
    rw [packagesByKey_eq]
    refine (Dict.flatMap_accumulate_perm id id ?_).mem_iff.2 (by simpa using h)
    intro v x
    cases v <;> rfl
  obtain ⟨entries, hentries, hp⟩ := List.mem_flatMap.1 hmem
  obtain ⟨key, hkey⟩ := Dict.mem_values.1 hentries
  have hp' : p ∈ entries := hp
  rw [(get?_packagesByKey hkey).1, List.mem_filter, decide_eq_true_eq] at hp'
  rw [hp'.2]
  exact ⟨entries, hkey⟩

/-- The latest of some packages: none of them has a higher version. -/
theorem latest_some {entries : List PolicyPackage} (h : entries ≠ []) :
    ∃ p, latest entries = some p ∧ p ∈ entries ∧ ∀ q ∈ entries, p.version.lt q.version = false := by
  unfold latest
  have hsorted : (entries.mergeSort fun a b => !a.version.lt b.version).Pairwise
      fun a b => (!a.version.lt b.version) = true := by
    refine List.pairwise_mergeSort ?_ ?_ entries
    · intro a b c hab hbc
      simp only [Bool.not_eq_true', ← Bool.not_eq_true, PolicyVersion.lt_iff] at *
      omega
    · intro a b
      simp only [Bool.or_eq_true, Bool.not_eq_true', ← Bool.not_eq_true, PolicyVersion.lt_iff]
      omega
  have hperm := List.mergeSort_perm entries fun a b => !a.version.lt b.version
  cases hmerge : entries.mergeSort fun a b => !a.version.lt b.version with
  | nil =>
    rw [hmerge] at hperm
    exact absurd hperm.symm.eq_nil h
  | cons p rest =>
    rw [hmerge] at hsorted hperm
    refine ⟨p, rfl, hperm.mem_iff.1 List.mem_cons_self, ?_⟩
    intro q hq
    rcases List.mem_cons.1 (hperm.mem_iff.2 hq) with rfl | hq
    · simp
    · simpa using (List.pairwise_cons.1 hsorted).1 q hq

/-- Two packages of one key and one version are the same. -/
theorem Distinct.eq_of_not_lt (h : Distinct packages) (hp : p ∈ packages) (hq : q ∈ packages)
    (hkey : q.policyKey = p.policyKey) (hle : p.version.lt q.version = false) :
    q = p ∨ q.version.lt p.version = true := by
  by_cases hlt : q.version.lt p.version = true
  · exact .inr hlt
  · left
    have hparts : p.version.parts = q.version.parts := by
      have hle' := Bool.eq_false_iff.1 hle
      rw [ne_eq, PolicyVersion.lt_iff] at hle'
      rw [PolicyVersion.lt_iff] at hlt
      have hmajor : p.version.major = q.version.major := by omega
      have hminor : p.version.minor = q.version.minor := by omega
      have hpatch : p.version.patch = q.version.patch := by omega
      unfold PolicyVersion.parts
      rw [hmajor, hminor, hpatch]
    by_contra hne
    exact List.Pairwise.forall h hq hp hne hkey hparts.symm

/-- The entries of a key have a latest one, the highest of the key. -/
theorem latest_entries (hdistinct : Distinct given) {e : String × List PolicyPackage}
    (he : e ∈ (packagesByKey given).items) :
    ∃ p, latest e.2 = some p ∧ p.policyKey = e.1 ∧ Highest given p := by
  obtain ⟨hentries, hne⟩ := get?_packagesByKey (Dict.mem_items.1 he)
  obtain ⟨p, hp, hmem, hmax⟩ := latest_some hne
  rw [hentries, List.mem_filter, decide_eq_true_eq] at hmem
  refine ⟨p, hp, hmem.2, hmem.1, fun q hq hkey => ?_⟩
  have hq' : q ∈ e.2 := by
    rw [hentries, List.mem_filter, decide_eq_true_eq]
    exact ⟨hq, hkey.trans hmem.2⟩
  exact hdistinct.eq_of_not_lt hmem.1 hq hkey (hmax q hq')

theorem policyKeys_latest {items : List (String × List PolicyPackage)}
    (h : ∀ e ∈ items, ∃ p, latest e.2 = some p ∧ p.policyKey = e.1) :
    ((items.map Prod.snd).filterMap latest).map (·.policyKey) = items.map Prod.fst := by
  induction items with
  | nil => rfl
  | cons e items ih =>
    rw [List.forall_mem_cons] at h
    obtain ⟨p, hp, hkey⟩ := h.1
    simp only [List.map_cons, List.filterMap_cons, hp, hkey, ih h.2]

theorem mem_latest (hdistinct : Distinct given) {p : PolicyPackage} :
    p ∈ (packagesByKey given).values.filterMap latest ↔ Highest given p := by
  rw [List.mem_filterMap]
  constructor
  · rintro ⟨entries, hentries, hp⟩
    obtain ⟨e, he, rfl⟩ := List.mem_map.1 hentries
    obtain ⟨q, hq, -, hhighest⟩ := latest_entries hdistinct he
    rw [hp] at hq
    cases hq
    exact hhighest
  · intro h
    obtain ⟨entries, hentries⟩ := get?_packagesByKey_isSome h.1
    obtain ⟨q, hq, hkey, hhighest⟩ := latest_entries hdistinct (Dict.mem_items.2 hentries)
    refine ⟨entries, Dict.mem_values.2 ⟨_, hentries⟩, ?_⟩
    rw [hq]
    -- of two highest versions of a key neither is lower
    rcases h.2 q hhighest.1 hkey with heq | hlt
    · rw [heq]
    · rcases hhighest.2 p h.1 hkey.symm with heq | hlt'
      · rw [heq]
      · rw [PolicyVersion.not_lt_of_lt hlt] at hlt'
        cases hlt'

/-- One package for each key is built, the one of its highest version. -/
theorem selected (hdistinct : Distinct given) :
    ((packagesByKey given).values.filterMap latest).map (·.policyKey) =
        (packagesByKey given).items.map Prod.fst ∧
      ∀ p, p ∈ (packagesByKey given).values.filterMap latest ↔ Highest given p := by
  refine ⟨policyKeys_latest fun e he => ?_, fun p => mem_latest hdistinct⟩
  obtain ⟨p, hp, hkey, _⟩ := latest_entries hdistinct he
  exact ⟨p, hp, hkey⟩

/-! ## Two maps, one walk -/

section Walks

variable {byId other : Dict UUID PolicyPackage} {visited parents : List UUID}

theorem walk_congr
    (h : ∀ id ∈ parents, other.get? id = byId.get? id ∧ ∀ parent, byId.get? id = some parent →
      ∀ q, Reaches byId parent q → ∀ id' ∈ q.inheritedIds, other.get? id' = byId.get? id') :
    walked other visited parents = walked byId visited parents ∧
      visitedAfter other visited parents = visitedAfter byId visited parents := by
  induction visited, parents using resolveParents.induct byId with
  | case1 visited => simp
  | case2 visited id rest hold ih =>
    rw [(walk_visited hold).1, (walk_visited hold).2, (walk_visited hold).1, (walk_visited hold).2]
    exact ih (List.forall_mem_cons.1 h).2
  | case3 visited id rest hnew hnone ih =>
    obtain ⟨⟨hsame, -⟩, hrest⟩ := List.forall_mem_cons.1 h
    have hnone' : other.get? id = none := by rw [hsame, hnone]
    rw [(walk_unknown hnew hnone).1, (walk_unknown hnew hnone).2, (walk_unknown hnew hnone').1,
      (walk_unknown hnew hnone').2]
    exact ih hrest
  | case4 visited id rest hnew parent hknown r ihUp ihSeen ihRest =>
    obtain ⟨⟨hsame, habove⟩, hrest⟩ := List.forall_mem_cons.1 h
    have hknown' : other.get? id = some parent := by rw [hsame, hknown]
    have hparent := habove parent hknown
    have hup := ihUp (by
      intro id' hid'
      refine ⟨hparent parent .refl id' hid', fun q hq x hx => ?_⟩
      exact hparent x (.head ⟨id', hid', hq⟩ hx))
    rw [(walk_known hnew hknown).1, (walk_known hnew hknown).2, (walk_known hnew hknown').1,
      (walk_known hnew hknown').2, hup.1, hup.2]
    have hlast := ihRest hrest
    exact ⟨congrArg _ hlast.1, hlast.2⟩

theorem resolveInheritedPackages_congr
    (h : ∀ q, Reaches byId p q → ∀ id ∈ q.inheritedIds, other.get? id = byId.get? id) :
    resolveInheritedPackages other p = resolveInheritedPackages byId p := by
  have hwalk : walked other [] p.inheritedIds = walked byId [] p.inheritedIds := by
    refine (walk_congr ?_).1
    intro id hid
    refine ⟨h p .refl id hid, fun parent hparent q hq => ?_⟩
    exact h q (.head ⟨id, hid, hparent⟩ hq)
  exact congrArg (· ++ [p]) hwalk

theorem buildPolicy_congr (registry : EvaluationRuleRegistry)
    (h : ∀ q, Reaches byId p q → ∀ id ∈ q.inheritedIds, other.get? id = byId.get? id) :
    buildPolicy registry other p = buildPolicy registry byId p := by
  unfold buildPolicy
  rw [resolveInheritedPackages_congr h]

theorem buildPolicy_name {registry : EvaluationRuleRegistry} {built : Compliance.Policy}
    (h : buildPolicy registry byId p = .ok built) : built.name = p.policyKey := by
  unfold buildPolicy at h
  obtain ⟨rules, -, h⟩ := Outcomes.bind_ok h
  cases h
  rfl

end Walks

/-! ## Resolving a collection -/

/-- Of the packages of an id, the one given last. -/
def lastGiven (given : List PolicyPackage) (id : UUID) : Option PolicyPackage :=
  (given.filter fun p => p.policyId = id).getLast?

theorem get?_packageById : (packageById given).get? id = lastGiven given id :=
  Dict.get?_byKey_eq_getLast? _ _ _

theorem lastGiven_some (h : lastGiven given id = some p) : p ∈ given ∧ p.policyId = id := by
  simpa using List.mem_of_getLast? h

theorem lastGiven_isSome (h : p ∈ given) : ∃ q, lastGiven given p.policyId = some q := by
  refine Option.ne_none_iff_exists'.1 (mt List.getLast?_eq_none_iff.1 ?_)
  exact List.ne_nil_of_mem (List.mem_filter.2 ⟨h, by simp⟩)

section Resolve

variable (registry : EvaluationRuleRegistry) (packages given : List PolicyPackage)

/-- For each key, the policy built from its highest version, with the highest versions of all that
it inherits. -/
structure Latest (result : List (Compliance.Policy × String)) : Prop where
  nodup : (result.map fun e => e.1.name).Nodup
  keys : ∀ key, key ∈ result.map (fun e => e.1.name) ↔ key ∈ packages.map (·.policyKey)
  built : ∀ e ∈ result, ∃ p top, Highest packages p ∧ p.policyKey = e.1.name ∧
    TopMap packages top ∧ buildPolicy registry top p = .ok e.1 ∧ e.2 = p.version.asString

/-- The collection, given in this order, is resolved with the highest versions. -/
structure ResolvedLatest : Prop where
  resolved : ∃ result, resolveWithVersions registry given = .ok result ∧
    Latest registry packages result
  taken : ∀ p q, Highest packages p → Descends (packageById given) p q →
    Top packages q.policyId q

/-- Whatever the highest versions of the keys inherit, over highest versions, is registered and has
its highest version last. -/
structure HighestLast : Prop where
  registered : ∀ p q, Highest packages p → ReflTransGen (InheritsTop packages) p q →
    ∀ key ∈ q.rules.map (·.key), ∃ rule, registry.rules.get? key = some rule
  last : ∀ p q, Highest packages p → ReflTransGen (InheritsTop packages) p q →
    ∀ id ∈ q.inheritedIds, ∀ x, lastGiven given id = some x → Top packages id x

end Resolve

variable {registry : EvaluationRuleRegistry} {result : List (Compliance.Policy × String)}

/-- A collection is resolved if the highest version of every key can be built. -/
theorem resolveWithVersions_succeeds_iff (hdistinct : Distinct given) :
    (∃ result, resolveWithVersions registry given = .ok result) ↔
      ∀ p, Highest given p → ∃ built, buildPolicy registry (packageById given) p = .ok built := by
  unfold resolveWithVersions
  rw [Outcomes.mapM_succeeds_iff]
  simp only [(selected hdistinct).2]
  refine forall_congr' fun p => imp_congr_right fun _ => ?_
  constructor
  · rintro ⟨e, he⟩
    obtain ⟨built, hbuilt, -⟩ := Outcomes.bind_ok he
    exact ⟨built, hbuilt⟩
  · rintro ⟨built, hbuilt⟩
    exact ⟨(built, p.version.asString), by rw [hbuilt]; rfl⟩

/-- and then the result has the policy of each of them. -/
theorem resolveWithVersions_ok (hdistinct : Distinct given)
    (h : resolveWithVersions registry given = .ok result) :
    result.map (fun e => e.1.name) = (packagesByKey given).items.map Prod.fst ∧
      ∀ e ∈ result, ∃ p, Highest given p ∧ p.policyKey = e.1.name ∧
        buildPolicy registry (packageById given) p = .ok e.1 ∧ e.2 = p.version.asString := by
  obtain ⟨hkeys, hselected⟩ := selected hdistinct
  have hentries : List.Forall₂ (fun p e => buildPolicy registry (packageById given) p = .ok e.1 ∧
      e.2 = p.version.asString) ((packagesByKey given).values.filterMap latest) result := by
    refine (Outcomes.mapM_ok_iff.1 h).imp fun p e he => ?_
    obtain ⟨built, hbuilt, he⟩ := Outcomes.bind_ok he
    cases he
    exact ⟨hbuilt, rfl⟩
  have hhighest : ∀ p ∈ (packagesByKey given).values.filterMap latest, Highest given p :=
    fun p hp => (hselected p).1 hp
  rw [← hkeys]
  clear h hkeys hselected
  generalize (packagesByKey given).values.filterMap latest = ps at hentries hhighest
  induction hentries with
  | nil => simp
  | cons he _ ih =>
    obtain ⟨hp, hps⟩ := List.forall_mem_cons.1 hhighest
    obtain ⟨hnames, hall⟩ := ih hps
    have hname := buildPolicy_name he.1
    refine ⟨by rw [List.map_cons, List.map_cons, hnames, hname], ?_⟩
    exact List.forall_mem_cons.2 ⟨⟨_, hp, hname.symm, he⟩, hall⟩

theorem mem_keys_packagesByKey {key : String} :
    key ∈ (packagesByKey given).items.map Prod.fst ↔ key ∈ given.map (·.policyKey) := by
  rw [List.mem_map, List.mem_map]
  constructor
  · rintro ⟨e, he, rfl⟩
    obtain ⟨hentries, hne⟩ := get?_packagesByKey (Dict.mem_items.1 he)
    obtain ⟨p, hp⟩ := List.exists_mem_of_ne_nil _ hne
    rw [hentries, List.mem_filter, decide_eq_true_eq] at hp
    exact ⟨p, hp⟩
  · rintro ⟨p, hp, rfl⟩
    obtain ⟨entries, hentries⟩ := get?_packagesByKey_isSome hp
    exact ⟨_, Dict.mem_items.2 hentries, rfl⟩

/-! ## When the highest versions are taken -/

theorem highest_perm (hperm : given.Perm packages) : Highest given p ↔ Highest packages p := by
  unfold Highest
  simp only [hperm.mem_iff]

theorem Distinct.perm (h : Distinct packages) (hperm : given.Perm packages) : Distinct given :=
  hperm.symm.pairwise h fun hxy hkey hparts => hxy hkey.symm hparts.symm

/-- The map by id leads from highest versions to highest versions, -/
theorem HighestLast.reaches (h : HighestLast registry packages given) (hp : Highest packages p)
    (hreach : Reaches (packageById given) p q) : ReflTransGen (InheritsTop packages) p q := by
  induction hreach with
  | refl => exact .refl
  | tail _ hstep ih =>
    obtain ⟨id, hid, hget⟩ := hstep
    rw [get?_packageById] at hget
    exact .tail ih ⟨id, hid, h.last p _ hp ih id hid _ hget⟩

/-- and so it agrees with the map of the highest versions. -/
theorem HighestLast.agrees (h : HighestLast registry packages given) (hperm : given.Perm packages)
    {top : Dict UUID PolicyPackage} (htop : TopMap packages top) (hp : Highest packages p)
    (hreach : Reaches (packageById given) p q) (hid : id ∈ q.inheritedIds) :
    top.get? id = (packageById given).get? id := by
  cases hget : (packageById given).get? id with
  | some x =>
    rw [get?_packageById] at hget
    rw [htop]
    exact h.last p q hp (h.reaches hp hreach) id hid x hget
  | none =>
    cases htopGet : top.get? id with
    | none => rfl
    | some x =>
      rw [htop] at htopGet
      obtain ⟨y, hy⟩ := lastGiven_isSome (hperm.mem_iff.2 htopGet.1)
      rw [htopGet.2.1, ← get?_packageById, hget] at hy
      cases hy

theorem HighestLast.resolvedLatest (h : HighestLast registry packages given)
    (hdistinct : Distinct packages) (hperm : given.Perm packages) :
    ResolvedLatest registry packages given := by
  have hgiven := hdistinct.perm hperm
  obtain ⟨top, htop⟩ := exists_topMap packages
  constructor
  · have hsucceeds : ∃ result, resolveWithVersions registry given = .ok result := by
      refine (resolveWithVersions_succeeds_iff hgiven).2 fun p hp => ?_
      rw [highest_perm hperm] at hp
      refine buildPolicy_succeeds_iff.2 fun key hkey => ?_
      obtain ⟨q, hq, hmem⟩ := mem_ruleKeys_resolved.1 hkey
      exact h.registered p q hp (h.reaches hp hq) key hmem
    obtain ⟨result, hresult⟩ := hsucceeds
    obtain ⟨hnames, hbuilt⟩ := resolveWithVersions_ok hgiven hresult
    refine ⟨result, hresult, ?_, fun key => ?_, fun e he => ?_⟩
    · rw [hnames]
      exact (packagesByKey given).nodup
    · rw [hnames, mem_keys_packagesByKey]
      exact (hperm.map _).mem_iff
    · obtain ⟨p, hp, hkey, hbuild, hversion⟩ := hbuilt e he
      rw [highest_perm hperm] at hp
      refine ⟨p, top, hp, hkey, htop, ?_, hversion⟩
      rw [buildPolicy_congr registry fun q hq id hid => h.agrees hperm htop hp hq hid, hbuild]
  · intro p q hp hdescends
    obtain ⟨x, hx, id, hid, hget⟩ := TransGen.tail'_iff.1 hdescends
    rw [get?_packageById] at hget
    have htopq := h.last p x hp (h.reaches hp hx) id hid q hget
    rw [htopq.2.1]
    exact htopq

/-- Where the walk takes highest versions only, it goes wherever they lead. -/
theorem ResolvedLatest.reaches (h : ResolvedLatest registry packages given)
    (hperm : given.Perm packages) (hp : Highest packages p)
    (hreach : ReflTransGen (InheritsTop packages) p q) : Reaches (packageById given) p q := by
  induction hreach with
  | refl => exact .refl
  | tail _ hstep ih =>
    obtain ⟨id, hid, htop⟩ := hstep
    obtain ⟨x, hx⟩ := lastGiven_isSome (hperm.mem_iff.2 htop.1)
    rw [htop.2.1] at hx
    have hinherits : Inherits (packageById given) _ x := ⟨id, hid, by rw [get?_packageById, hx]⟩
    have htopx := h.taken p x hp (.tail' ih hinherits)
    rw [(lastGiven_some hx).2] at htopx
    rw [htop.unique htopx]
    exact .tail ih hinherits

theorem ResolvedLatest.highestLast (h : ResolvedLatest registry packages given)
    (hdistinct : Distinct packages) (hperm : given.Perm packages) :
    HighestLast registry packages given := by
  constructor
  · intro p q hp hreach key hkey
    obtain ⟨result, hresult, -⟩ := h.resolved
    obtain ⟨built, hbuilt⟩ := (resolveWithVersions_succeeds_iff (hdistinct.perm hperm)).1
      ⟨result, hresult⟩ p ((highest_perm hperm).2 hp)
    refine buildPolicy_succeeds_iff.1 ⟨built, hbuilt⟩ key (mem_ruleKeys_resolved.2 ?_)
    exact ⟨q, h.reaches hperm hp hreach, hkey⟩
  · intro p q hp hreach id hid x hx
    have hdescends : Descends (packageById given) p x :=
      .tail' (h.reaches hperm hp hreach) ⟨id, hid, by rw [get?_packageById, hx]⟩
    have htop := h.taken p x hp hdescends
    rw [(lastGiven_some hx).2] at htop
    exact htop

/-- A collection whose keys have different versions, given in any order, is resolved with the
highest version of every key and of all that these inherit if and only if, over highest versions,
all that is inherited is registered and has its highest version last in that order. -/
theorem latest_versions_iff (hdistinct : Distinct packages) (hperm : given.Perm packages) :
    ResolvedLatest registry packages given ↔ HighestLast registry packages given :=
  ⟨fun h => h.highestLast hdistinct hperm, fun h => h.resolvedLatest hdistinct hperm⟩

/-- With the highest version of every id last, all that is inherited has it last. -/
theorem highestLast_of_last
    (hlast : ∀ id x, lastGiven given id = some x → Top packages id x)
    (hregistered : ∀ p ∈ packages, ∀ key ∈ p.rules.map (·.key),
      ∃ rule, registry.rules.get? key = some rule) : HighestLast registry packages given := by
  constructor
  · intro p q hp hreach
    cases hreach with
    | refl => exact hregistered p hp.1
    | tail _ hstep =>
      obtain ⟨id, -, hq⟩ := hstep
      exact hregistered q hq.1
  · intro p q _ _ id _ x hx
    exact hlast id x hx

/-! ## Versions mixed -/

/-- A package that inherits the base policy. -/
def sitePackage : PolicyPackage :=
  { plainPackage with policyId := 2, policyKey := "site", rules := [], inheritedIds := [1] }

/-- The base policy before it had its rule. -/
def emptyPackage : PolicyPackage := { plainPackage with rules := [] }

/-- The base policy with its rule, as the next minor version. -/
def minorPackage : PolicyPackage := { plainPackage with version := ⟨1, 1, 0, [⟨1, 0, 0, []⟩]⟩ }

def ntpRegistry : EvaluationRuleRegistry where
  rules := .ofList [("ntp", { id := 7, key := "ntp" })]

/-- Given last, the first version of the base policy is inherited. -/
theorem first_version_inherited :
    ¬ ResolvedLatest ntpRegistry [sitePackage, minorPackage, emptyPackage]
      [sitePackage, minorPackage, emptyPackage] := by
  intro h
  have hhighest : Highest [sitePackage, minorPackage, emptyPackage] sitePackage := by
    refine ⟨List.mem_cons_self, ?_⟩
    simp [sitePackage, minorPackage, emptyPackage, plainPackage]
  have hinherits : Inherits (packageById [sitePackage, minorPackage, emptyPackage]) sitePackage
      emptyPackage := ⟨1, by decide, rfl⟩
  have hmax := (h.taken sitePackage emptyPackage hhighest (.single hinherits)).2.2 minorPackage
    (by simp) rfl
  rcases hmax with heq | hlt
  · have hrules := congrArg (fun p : PolicyPackage => p.rules.length) heq
    exact absurd hrules (by decide)
  · exact absurd hlt (by decide)

/-- Given last, the next version of the base policy is inherited. -/
theorem single_versions_taken :
    Distinct [sitePackage, minorPackage, emptyPackage] ∧
      [emptyPackage, sitePackage, minorPackage].Perm [sitePackage, minorPackage, emptyPackage] ∧
      ResolvedLatest ntpRegistry [sitePackage, minorPackage, emptyPackage]
        [emptyPackage, sitePackage, minorPackage] := by
  have hdistinct : Distinct [sitePackage, minorPackage, emptyPackage] := by
    unfold Distinct Apart
    decide
  have hperm : [emptyPackage, sitePackage, minorPackage].Perm
      [sitePackage, minorPackage, emptyPackage] :=
    (List.Perm.swap ..).trans (.cons _ (.swap ..))
  refine ⟨hdistinct, hperm, (latest_versions_iff hdistinct hperm).2 ?_⟩
  have hlast : lastGiven [emptyPackage, sitePackage, minorPackage] 1 = some minorPackage := rfl
  refine highestLast_of_last (fun id x hx => ?_)
    fun p hp key hkey => ⟨{ id := 7, key := "ntp" }, ?_⟩
  · obtain ⟨hmem, rfl⟩ := lastGiven_some hx
    have hne : x ≠ emptyPackage := by
      rintro rfl
      have hrules := congrArg (Option.map fun p => p.rules.length) (hlast.symm.trans hx)
      exact absurd hrules (by decide)
    have hcases : x = sitePackage ∨ x = minorPackage := by simpa [hne] using hmem
    rcases hcases with rfl | rfl
    · refine ⟨List.mem_cons_self, rfl, fun y hy hid => .inl ?_⟩
      simp only [List.mem_cons, List.not_mem_nil, or_false] at hy
      rcases hy with rfl | rfl | rfl
      · rfl
      · exact absurd hid (by decide)
      · exact absurd hid (by decide)
    · refine ⟨by simp, rfl, fun y hy hid => ?_⟩
      simp only [List.mem_cons, List.not_mem_nil, or_false] at hy
      rcases hy with rfl | rfl | rfl
      · exact absurd hid (by decide)
      · exact .inl rfl
      · exact .inr (by decide)
  · have hkeys : ∀ p ∈ [sitePackage, minorPackage, emptyPackage],
        ∀ key ∈ p.rules.map (·.key), key = "ntp" := by
      simp [sitePackage, minorPackage, emptyPackage, plainPackage]
    have hntp : key = "ntp" := hkeys p hp key hkey
    rw [hntp]
    rfl

end Policies
end NetOps
