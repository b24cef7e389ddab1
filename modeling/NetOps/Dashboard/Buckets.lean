import Mathlib.Algebra.Ring.Int.Defs
import Mathlib.Data.List.Pairwise
import NetOps.Clock.Datetimes
import NetOps.Groups

/-!
# Dashboard.Buckets

`aggregated_statistics` (`dashboard/service.py`): comparisons are gathered by the label, the start
and the end of the period they were made in. All times are read off one clock.

* `mem_values`, `aggregate_eq_some`: the buckets are of the keys of the comparisons.
* `partition_iff_keys`: what the claim says of the buckets comes down to the keys.
-/

namespace NetOps
namespace Dashboard

open Clock (Date Wall padded microsPerDay)

inductive AggregationGranularity where
  | daily
  | weekly
  | monthly
  | quarterly
  | yearly
  | custom
  deriving DecidableEq

structure ComparisonResult where
  comparedAt : Wall
  /-- The devices of the observed snapshot, if there is one. -/
  observedDevices : Option Nat
  missing : Option Int
  unexpected : Option Int
  modified : Option Int
  totalFindings : Option Int

structure DashboardAggregateBucket where
  periodLabel : String
  start : Wall
  finish : Wall
  totalDevices : Option Nat
  missingDevices : Option Int
  extraDevices : Option Int
  modifiedDevices : Option Int
  findingsTotal : Option Int
  deriving DecidableEq

/-! ## Keys -/

/-- `strftime("%Y")`. -/
def yearText (d : Date) : List Char := padded 4 d.year

/-- `_bucket_label`. -/
def bucketLabel (timestamp : Wall) : AggregationGranularity → String
  | .weekly => String.ofList
      (yearText timestamp.date ++ '-' :: 'W' :: padded 2 timestamp.date.weekOfYear)
  | .monthly => String.ofList (yearText timestamp.date ++ '-' :: padded 2 timestamp.date.month)
  | _ => String.ofList (yearText timestamp.date ++
      '-' :: (padded 2 timestamp.date.month ++ '-' :: padded 2 timestamp.date.day))

/-- `_bucket_start`; `none` is an `OverflowError`. -/
def bucketStart (timestamp : Wall) : AggregationGranularity → Option Wall
  | .weekly => timestamp.minus (timestamp.date.weekday * microsPerDay)
  | .monthly => some { timestamp with date := timestamp.date.withDay 1 Date.day_1 }
  | _ => some (Wall.midnight timestamp.date)

/-- `_bucket_end`. -/
def bucketEnd (timestamp : Wall) : AggregationGranularity → Option Wall
  | .weekly => (bucketStart timestamp .weekly).bind fun start => start.plus (7 * microsPerDay - 1)
  | .monthly =>
    ((timestamp.date.withDay 28 Date.day_28).addDays 4).bind fun date =>
      Wall.minus { timestamp with date := date.withDay 1 Date.day_1 } 1
  | granularity =>
    (bucketStart timestamp granularity).bind fun start => start.plus (microsPerDay - 1)

structure BucketKey where
  label : String
  start : Wall
  finish : Wall
  deriving DecidableEq

def bucketKey (granularity : AggregationGranularity) (timestamp : Wall) : Option BucketKey := do
  let label := bucketLabel timestamp granularity
  let start ← bucketStart timestamp granularity
  let finish ← bucketEnd timestamp granularity
  return { label, start, finish }

/-! ## Buckets -/

/-- `_sum_nullable`. -/
def sumNullable (value addition : Option Int) : Option Int :=
  match value, addition with
  | none, addition => addition
  | value, none => value
  | some value, some addition => some (value + addition)

/-- What a comparison makes of the bucket of its key. -/
def addComparison (key : BucketKey) (comparison : ComparisonResult) :
    Option DashboardAggregateBucket → DashboardAggregateBucket
  | none =>
    { periodLabel := key.label
      start := key.start
      finish := key.finish
      totalDevices := comparison.observedDevices
      missingDevices := comparison.missing
      extraDevices := comparison.unexpected
      modifiedDevices := comparison.modified
      findingsTotal := comparison.totalFindings }
  | some bucket =>
    { bucket with
      missingDevices := sumNullable bucket.missingDevices comparison.missing
      extraDevices := sumNullable bucket.extraDevices comparison.unexpected
      modifiedDevices := sumNullable bucket.modifiedDevices comparison.modified
      findingsTotal := sumNullable bucket.findingsTotal comparison.totalFindings
      totalDevices := comparison.observedDevices.or bucket.totalDevices }

abbrev Buckets : Type := Dict BucketKey DashboardAggregateBucket

/-- One turn of the loop. -/
def addToBuckets (granularity : AggregationGranularity) (buckets : Buckets)
    (comparison : ComparisonResult) : Option Buckets :=
  (bucketKey granularity comparison.comparedAt).map fun key =>
    buckets.insert key (addComparison key comparison (buckets.get? key))

/-- `aggregated_statistics` of the comparisons that the repository lists. -/
def aggregatedStatistics (granularity : AggregationGranularity)
    (comparisons : List ComparisonResult) : Option (List DashboardAggregateBucket) :=
  (comparisons.reverse.foldlM (addToBuckets granularity) Dict.empty).map fun buckets =>
    buckets.values.mergeSort fun b b' => b.start.total ≤ b'.start.total

/-! ## What the buckets hold -/

def DashboardAggregateBucket.key (bucket : DashboardAggregateBucket) : BucketKey where
  label := bucket.periodLabel
  start := bucket.start
  finish := bucket.finish

@[simp] theorem key_addComparison_none (key : BucketKey) (comparison : ComparisonResult) :
    (addComparison key comparison none).key = key := rfl

@[simp] theorem key_addComparison_some (key : BucketKey) (comparison : ComparisonResult)
    (bucket : DashboardAggregateBucket) :
    (addComparison key comparison (some bucket)).key = bucket.key := rfl

/-- A metric of comparisons that the buckets add up. -/
structure Metric where
  ofComparison : ComparisonResult → Option Int
  ofBucket : DashboardAggregateBucket → Option Int
  adds : ∀ key comparison bucket, ofBucket (addComparison key comparison bucket) =
    sumNullable (bucket.bind ofBucket) (ofComparison comparison)

def missingDevices : Metric where
  ofComparison := ComparisonResult.missing
  ofBucket := DashboardAggregateBucket.missingDevices
  adds := by
    intro key comparison bucket
    cases bucket <;> rfl

def extraDevices : Metric where
  ofComparison := ComparisonResult.unexpected
  ofBucket := DashboardAggregateBucket.extraDevices
  adds := by
    intro key comparison bucket
    cases bucket <;> rfl

def modifiedDevices : Metric where
  ofComparison := ComparisonResult.modified
  ofBucket := DashboardAggregateBucket.modifiedDevices
  adds := by
    intro key comparison bucket
    cases bucket <;> rfl

def findingsTotal : Metric where
  ofComparison := ComparisonResult.totalFindings
  ofBucket := DashboardAggregateBucket.findingsTotal
  adds := by
    intro key comparison bucket
    cases bucket <;> rfl

def metrics : List Metric := [missingDevices, extraDevices, modifiedDevices, findingsTotal]

theorem getD_sumNullable (value addition : Option Int) :
    (sumNullable value addition).getD 0 = value.getD 0 + addition.getD 0 := by
  cases value <;> cases addition <;> simp [sumNullable]

theorem isSome_sumNullable (value : Option Int) {addition : Option Int}
    (h : addition.isSome = true) : (sumNullable value addition).isSome = true := by
  obtain ⟨n, rfl⟩ := Option.isSome_iff_exists.1 h
  cases value <;> rfl

/-- A comparison with its key. -/
def keyed (granularity : AggregationGranularity) (comparison : ComparisonResult) :
    Option (BucketKey × ComparisonResult) :=
  (bucketKey granularity comparison.comparedAt).map fun key => (key, comparison)

/-- The buckets of comparisons with their keys. -/
def gathered (entries : List (BucketKey × ComparisonResult)) : Buckets :=
  Dict.accumulate Prod.fst (fun bucket entry => addComparison entry.1 entry.2 bucket) entries

section Loop

variable {granularity : AggregationGranularity} {comparisons : List ComparisonResult}

/-- The loop ends if every comparison has a key. -/
theorem foldlM_addToBuckets (buckets : Buckets) :
    comparisons.foldlM (addToBuckets granularity) Dict.empty = some buckets ↔
      (∀ comparison ∈ comparisons, ∃ key,
        bucketKey granularity comparison.comparedAt = some key) ∧
        buckets = gathered (comparisons.filterMap (keyed granularity)) := by
  induction comparisons using List.reverseRecOn generalizing buckets with
  | nil => simp [gathered, eq_comm]
  | append_singleton comparisons comparison ih =>
    rw [List.foldlM_append, List.filterMap_append]
    simp only [List.foldlM_cons, List.foldlM_nil, bind_pure, List.forall_mem_append,
      List.forall_mem_singleton, Option.bind_eq_bind, Option.bind_eq_some_iff, ih]
    cases hkey : bucketKey granularity comparison.comparedAt with
    | none => simp [addToBuckets, hkey]
    | some key =>
      have hkeyed : keyed granularity comparison = some (key, comparison) := by
        simp [keyed, hkey]
      simp only [addToBuckets, hkey, Option.map_some, Option.some.injEq, List.filterMap_cons,
        hkeyed, List.filterMap_nil, gathered, Dict.accumulate_snoc]
      constructor
      · rintro ⟨before, ⟨hall, rfl⟩, rfl⟩
        exact ⟨⟨hall, key, rfl⟩, rfl⟩
      · rintro ⟨⟨hall, -⟩, rfl⟩
        exact ⟨_, ⟨hall, rfl⟩, rfl⟩

end Loop

theorem key_of_get? {entries : List (BucketKey × ComparisonResult)} {key : BucketKey}
    {bucket : DashboardAggregateBucket} (h : (gathered entries).get? key = some bucket) :
    bucket.key = key := by
  induction entries using List.reverseRecOn generalizing key bucket with
  | nil => cases h
  | append_singleton entries entry ih =>
    rw [gathered, Dict.accumulate_snoc, Dict.get?_insert] at h
    split at h
    · rename_i hkey
      cases h
      cases hbefore : (gathered entries).get? entry.1 with
      | none =>
        rw [gathered] at hbefore
        rw [hbefore, key_addComparison_none, hkey]
      | some before =>
        have hsame := ih hbefore
        rw [gathered] at hbefore
        rw [hbefore, key_addComparison_some, hsame, hkey]
    · exact ih h

/-- The buckets are of the keys of the comparisons, each key of one. -/
theorem mem_values {entries : List (BucketKey × ComparisonResult)} {key : BucketKey} :
    (∃ bucket ∈ (gathered entries).values, bucket.key = key) ↔
      ∃ entry ∈ entries, entry.1 = key := by
  have hiff : (∃ bucket, (gathered entries).get? key = some bucket) ↔
      ∃ entry ∈ entries, entry.1 = key := Dict.get?_accumulate_isSome
  rw [← hiff]
  constructor
  · rintro ⟨bucket, hbucket, rfl⟩
    obtain ⟨k, hk⟩ := Dict.mem_values.1 hbucket
    rw [key_of_get? hk]
    exact ⟨bucket, hk⟩
  · rintro ⟨bucket, hbucket⟩
    exact ⟨bucket, Dict.mem_values.2 ⟨key, hbucket⟩, key_of_get? hbucket⟩

theorem nodup_keys (entries : List (BucketKey × ComparisonResult)) :
    ((gathered entries).values.map DashboardAggregateBucket.key).Nodup := by
  have hkeys : (gathered entries).values.map DashboardAggregateBucket.key =
      (gathered entries).items.map Prod.fst := by
    unfold Dict.values
    rw [List.map_map]
    exact List.map_congr_left fun item hitem => key_of_get? (Dict.mem_items.1 hitem)
  rw [hkeys]
  exact (gathered entries).nodup

theorem sum_gathered (metric : Metric) (entries : List (BucketKey × ComparisonResult)) :
    ((gathered entries).values.map fun bucket => (metric.ofBucket bucket).getD 0).sum =
      (entries.map fun entry => (metric.ofComparison entry.2).getD 0).sum := by
  apply Dict.sum_accumulate
  intro bucket entry
  rw [metric.adds, getD_sumNullable]
  cases bucket <;> rfl

theorem isSome_gathered (metric : Metric) {entries : List (BucketKey × ComparisonResult)}
    (h : ∀ entry ∈ entries, (metric.ofComparison entry.2).isSome = true) :
    ∀ bucket ∈ (gathered entries).values, (metric.ofBucket bucket).isSome = true := by
  have hall : ∀ key bucket, (gathered entries).get? key = some bucket →
      (metric.ofBucket bucket).isSome = true := by
    induction entries using List.reverseRecOn with
    | nil =>
      intro key bucket hget
      cases hget
    | append_singleton entries entry ih =>
      rw [List.forall_mem_append, List.forall_mem_singleton] at h
      intro key bucket hget
      rw [gathered, Dict.accumulate_snoc, Dict.get?_insert] at hget
      split at hget
      · cases hget
        rw [metric.adds]
        exact isSome_sumNullable _ h.2
      · exact ih h.1 key bucket hget
  intro bucket hbucket
  obtain ⟨key, hkey⟩ := Dict.mem_values.1 hbucket
  exact hall key bucket hkey

/-! ## The claim about the buckets -/

/-- Whether two times are in the same day, week or month. -/
def SamePeriod (granularity : AggregationGranularity) (t u : Wall) : Prop :=
  match granularity with
  | .weekly => t.date.week = u.date.week
  | .monthly => t.date.SameMonth u.date
  | _ => t.date = u.date

def Disjoint (key key' : BucketKey) : Prop :=
  key.finish.total < key'.start.total ∨ key'.finish.total < key.start.total

def InBucket (granularity : AggregationGranularity) (bucket : DashboardAggregateBucket)
    (comparison : ComparisonResult) : Prop :=
  bucketKey granularity comparison.comparedAt = some bucket.key

/-- Two comparisons are in one bucket exactly if they were made in one period; the intervals are
apart, and each holds the times of its comparisons; and the metrics add up to what they were. -/
structure Partition (granularity : AggregationGranularity) (comparisons : List ComparisonResult)
    (buckets : List DashboardAggregateBucket) : Prop where
  same : ∀ c ∈ comparisons, ∀ c' ∈ comparisons,
    (∃ b ∈ buckets, InBucket granularity b c ∧ InBucket granularity b c') ↔
      SamePeriod granularity c.comparedAt c'.comparedAt
  disjoint : buckets.Pairwise fun b b' => Disjoint b.key b'.key
  contains : ∀ c ∈ comparisons, ∃ b ∈ buckets, InBucket granularity b c ∧
    b.start.total ≤ c.comparedAt.total ∧ c.comparedAt.total ≤ b.finish.total
  sums : ∀ metric ∈ metrics, (∀ c ∈ comparisons, (metric.ofComparison c).isSome = true) →
    (∀ b ∈ buckets, (metric.ofBucket b).isSome = true) ∧
      (buckets.map fun b => (metric.ofBucket b).getD 0).sum =
        (comparisons.map fun c => (metric.ofComparison c).getD 0).sum

/-- The same, said of the keys. -/
structure KeysApart (granularity : AggregationGranularity)
    (comparisons : List ComparisonResult) : Prop where
  keys : ∀ c ∈ comparisons, ∃ key, bucketKey granularity c.comparedAt = some key
  same : ∀ c ∈ comparisons, ∀ c' ∈ comparisons,
    bucketKey granularity c.comparedAt = bucketKey granularity c'.comparedAt ↔
      SamePeriod granularity c.comparedAt c'.comparedAt
  disjoint : ∀ c ∈ comparisons, ∀ c' ∈ comparisons, ∀ key key',
    bucketKey granularity c.comparedAt = some key →
      bucketKey granularity c'.comparedAt = some key' → key ≠ key' → Disjoint key key'

/-- The buckets that are returned, without their order. -/
theorem aggregatedStatistics_eq_some {granularity : AggregationGranularity}
    {comparisons : List ComparisonResult} {buckets : List DashboardAggregateBucket}
    (h : aggregatedStatistics granularity comparisons = some buckets) :
    (∀ c ∈ comparisons, ∃ key, bucketKey granularity c.comparedAt = some key) ∧
      buckets.Perm (gathered (comparisons.reverse.filterMap (keyed granularity))).values := by
  unfold aggregatedStatistics at h
  rw [Option.map_eq_some_iff] at h
  obtain ⟨found, hfound, rfl⟩ := h
  obtain ⟨hkeys, rfl⟩ := (foldlM_addToBuckets found).1 hfound
  refine ⟨?_, List.mergeSort_perm _ _⟩
  intro c hc
  exact hkeys c (List.mem_reverse.2 hc)

theorem aggregatedStatistics_isSome {granularity : AggregationGranularity}
    {comparisons : List ComparisonResult}
    (h : ∀ c ∈ comparisons, ∃ key, bucketKey granularity c.comparedAt = some key) :
    ∃ buckets, aggregatedStatistics granularity comparisons = some buckets := by
  have hfold : comparisons.reverse.foldlM (addToBuckets granularity) Dict.empty =
      some (gathered (comparisons.reverse.filterMap (keyed granularity))) :=
    (foldlM_addToBuckets _).2 ⟨fun c hc => h c (List.mem_reverse.1 hc), rfl⟩
  unfold aggregatedStatistics
  rw [hfold]
  exact ⟨_, rfl⟩

section Returned

variable {granularity : AggregationGranularity} {comparisons : List ComparisonResult}
  {buckets : List DashboardAggregateBucket}

theorem mem_entries {entry : BucketKey × ComparisonResult} :
    entry ∈ comparisons.reverse.filterMap (keyed granularity) ↔
      entry.2 ∈ comparisons ∧ bucketKey granularity entry.2.comparedAt = some entry.1 := by
  rw [List.mem_filterMap]
  constructor
  · rintro ⟨c, hc, hkeyed⟩
    unfold keyed at hkeyed
    rw [Option.map_eq_some_iff] at hkeyed
    obtain ⟨key, hkey, rfl⟩ := hkeyed
    exact ⟨List.mem_reverse.1 hc, hkey⟩
  · rintro ⟨hc, hkey⟩
    exact ⟨entry.2, List.mem_reverse.2 hc, by simp [keyed, hkey]⟩

/-- A bucket that is returned is of a comparison, and each comparison has one. -/
theorem mem_returned (h : aggregatedStatistics granularity comparisons = some buckets)
    {key : BucketKey} : (∃ b ∈ buckets, b.key = key) ↔
      ∃ c ∈ comparisons, bucketKey granularity c.comparedAt = some key := by
  obtain ⟨-, hperm⟩ := aggregatedStatistics_eq_some h
  have hvalues : (∃ b ∈ (gathered (comparisons.reverse.filterMap (keyed granularity))).values,
      b.key = key) ↔ ∃ entry ∈ comparisons.reverse.filterMap (keyed granularity), entry.1 = key :=
    mem_values
  constructor
  · rintro ⟨b, hb, hkey⟩
    obtain ⟨entry, hentry, rfl⟩ := hvalues.1 ⟨b, hperm.mem_iff.1 hb, hkey⟩
    obtain ⟨hc, hkey⟩ := mem_entries.1 hentry
    exact ⟨entry.2, hc, hkey⟩
  · rintro ⟨c, hc, hkey⟩
    obtain ⟨b, hb, hbkey⟩ := hvalues.2 ⟨(key, c), mem_entries.2 ⟨hc, hkey⟩, rfl⟩
    exact ⟨b, hperm.mem_iff.2 hb, hbkey⟩

theorem map_entries {B : Type} (f : ComparisonResult → B)
    (hkeys : ∀ c ∈ comparisons, ∃ key, bucketKey granularity c.comparedAt = some key) :
    (comparisons.filterMap (keyed granularity)).map (fun entry => f entry.2) =
      comparisons.map f := by
  induction comparisons with
  | nil => rfl
  | cons c comparisons ih =>
    obtain ⟨key, hkey⟩ := hkeys c List.mem_cons_self
    have hkeyed : keyed granularity c = some (key, c) := by simp [keyed, hkey]
    rw [List.filterMap_cons, hkeyed, List.map_cons, List.map_cons,
      ih fun c hc => hkeys c (List.mem_cons_of_mem _ hc)]

/-- The metrics add up whatever the periods are. -/
theorem sums_returned (h : aggregatedStatistics granularity comparisons = some buckets)
    (metric : Metric)
    (hpresent : ∀ c ∈ comparisons, (metric.ofComparison c).isSome = true) :
    (∀ b ∈ buckets, (metric.ofBucket b).isSome = true) ∧
      (buckets.map fun b => (metric.ofBucket b).getD 0).sum =
        (comparisons.map fun c => (metric.ofComparison c).getD 0).sum := by
  obtain ⟨hkeys, hperm⟩ := aggregatedStatistics_eq_some h
  constructor
  · intro b hb
    refine isSome_gathered metric ?_ b (hperm.mem_iff.1 hb)
    intro entry hentry
    exact hpresent entry.2 (mem_entries.1 hentry).1
  · have hreverse : ∀ c ∈ comparisons.reverse, ∃ key,
        bucketKey granularity c.comparedAt = some key :=
      fun c hc => hkeys c (List.mem_reverse.1 hc)
    rw [(hperm.map _).sum_eq, sum_gathered,
      map_entries (fun c => (metric.ofComparison c).getD 0) hreverse, List.map_reverse,
      List.sum_reverse]

theorem nodup_returned (h : aggregatedStatistics granularity comparisons = some buckets) :
    (buckets.map DashboardAggregateBucket.key).Nodup :=
  ((aggregatedStatistics_eq_some h).2.map _).nodup_iff.2 (nodup_keys _)

theorem disjoint_comm {key key' : BucketKey} : Disjoint key key' ↔ Disjoint key' key := or_comm

theorem pairwise_returned (h : aggregatedStatistics granularity comparisons = some buckets) :
    (buckets.Pairwise fun b b' => Disjoint b.key b'.key) ↔
      ∀ b ∈ buckets, ∀ b' ∈ buckets, b.key ≠ b'.key → Disjoint b.key b'.key := by
  have hnodup := nodup_returned h
  have hsymm : Std.Symm fun b b' : DashboardAggregateBucket => Disjoint b.key b'.key :=
    ⟨fun b b' => disjoint_comm.1⟩
  constructor
  · intro hpairwise b hb b' hb' hne
    exact hpairwise.forall hb hb' fun hsame => hne (by rw [hsame])
  · intro hall
    refine (List.Nodup.of_map _ hnodup).pairwise_of_forall_ne ?_
    intro b hb b' hb' hne
    refine hall b hb b' hb' fun hsame => hne ?_
    exact List.inj_on_of_nodup_map hnodup hb hb' hsame

end Returned

/-- What the claim says of the buckets comes down to the keys, if each key's interval holds the
times that have the key. -/
theorem partition_iff_keys {granularity : AggregationGranularity}
    {comparisons : List ComparisonResult}
    (hinside : ∀ t key, bucketKey granularity t = some key →
      key.start.total ≤ t.total ∧ t.total ≤ key.finish.total) :
    (∃ buckets, aggregatedStatistics granularity comparisons = some buckets ∧
      Partition granularity comparisons buckets) ↔ KeysApart granularity comparisons := by
  constructor
  · rintro ⟨buckets, hbuckets, hpartition⟩
    obtain ⟨hkeys, -⟩ := aggregatedStatistics_eq_some hbuckets
    refine ⟨hkeys, ?_, ?_⟩
    · intro c hc c' hc'
      rw [← hpartition.same c hc c' hc']
      obtain ⟨key, hkey⟩ := hkeys c hc
      constructor
      · intro hsame
        obtain ⟨b, hb, hbkey⟩ := (mem_returned hbuckets).2 ⟨c, hc, hkey⟩
        exact ⟨b, hb, by rw [InBucket, hkey, hbkey], by rw [InBucket, ← hsame, hkey, hbkey]⟩
      · rintro ⟨b, -, hin, hin'⟩
        exact Eq.trans hin (Eq.symm hin')
    · intro c hc c' hc' key key' hkey hkey' hne
      obtain ⟨b, hb, rfl⟩ := (mem_returned hbuckets).2 ⟨c, hc, hkey⟩
      obtain ⟨b', hb', rfl⟩ := (mem_returned hbuckets).2 ⟨c', hc', hkey'⟩
      exact (pairwise_returned hbuckets).1 hpartition.disjoint b hb b' hb' hne
  · intro hapart
    obtain ⟨buckets, hbuckets⟩ := aggregatedStatistics_isSome hapart.keys
    refine ⟨buckets, hbuckets, ?_, ?_, ?_, fun metric _ => sums_returned hbuckets metric⟩
    · intro c hc c' hc'
      rw [← hapart.same c hc c' hc']
      obtain ⟨key, hkey⟩ := hapart.keys c hc
      constructor
      · rintro ⟨b, -, hin, hin'⟩
        exact Eq.trans hin (Eq.symm hin')
      · intro hsame
        obtain ⟨b, hb, hbkey⟩ := (mem_returned hbuckets).2 ⟨c, hc, hkey⟩
        exact ⟨b, hb, by rw [InBucket, hkey, hbkey], by rw [InBucket, ← hsame, hkey, hbkey]⟩
    · rw [pairwise_returned hbuckets]
      intro b hb b' hb' hne
      obtain ⟨c, hc, hkey⟩ := (mem_returned hbuckets).1 ⟨b, hb, rfl⟩
      obtain ⟨c', hc', hkey'⟩ := (mem_returned hbuckets).1 ⟨b', hb', rfl⟩
      exact hapart.disjoint c hc c' hc' _ _ hkey hkey' hne
    · intro c hc
      obtain ⟨key, hkey⟩ := hapart.keys c hc
      obtain ⟨b, hb, rfl⟩ := (mem_returned hbuckets).2 ⟨c, hc, hkey⟩
      obtain ⟨hstart, hfinish⟩ := hinside c.comparedAt b.key hkey
      exact ⟨b, hb, hkey, hstart, hfinish⟩

end Dashboard
end NetOps
