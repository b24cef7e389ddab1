import NetOps.Conc.Store
import NetOps.Discovery.Records
import NetOps.Comparison.Engine

/-!
# Comparison.SnapshotService

The comparison of two stored snapshots for a tenant (`comparison/snapshot_service.py`), and what of
other tenants it depends on.

The live snapshot is checked through the tenant of its discovery run, the NetBox snapshot not at
all, and both are looked up without a tenant. So what a tenant is answered depends on its own rows
only if and only if both snapshots are its own (`noninterference_iff`).
-/

namespace NetOps
namespace Comparison

open Conc
open Discovery (UUID DiscoveryRunRecord)

/-! ## Rows -/

inductive SnapshotSource where
  | netbox
  | live
  deriving DecidableEq

/-- A row of `snapshots`; `P` is the type of its payload. -/
structure SnapshotRecord (P : Type) where
  id : UUID
  source : SnapshotSource
  tenantId : String := "default"
  discoveryRunId : Option UUID := none
  payload : P

structure Database (P : Type) where
  snapshots : Tbl (SnapshotRecord P) (·.id)
  runs : Tbl DiscoveryRunRecord (·.id)

/-- A row of `comparison_results`, with what its findings are made of. -/
structure ComparisonResultRecord where
  expectedSnapshotId : UUID
  observedSnapshotId : UUID
  result : InventoryComparisonResult

/-- The validation of payloads (`model_validate`), `none` where it raises. -/
structure Validation (P : Type) where
  netbox : P → Option Inventory.InventorySnapshot
  live : P → Option Snapshot.InventorySnapshot

/-! ## The service -/

inductive SnapshotComparisonError where
  | notFound
  | expectedSource
  | observedSource
  | notTenantScoped
  | notAvailable
  | invalidPayload
  deriving DecidableEq

def SnapshotComparisonError.message : SnapshotComparisonError → String
  | .notFound => "Requested snapshot was not found."
  | .expectedSource => "Expected snapshot must have source 'netbox'."
  | .observedSource => "Observed snapshot must have source 'live'."
  | .notTenantScoped => "Observed live snapshot is not tenant-scoped."
  | .notAvailable => "Observed snapshot is not available to this tenant."
  | .invalidPayload => "Requested snapshot payload is invalid."

namespace SnapshotComparisonService

variable {P : Type} (casefold : String → String) (validation : Validation P)

/-- The comparison of two snapshots that were found. -/
def compareFound (db : Database P) (expected observed : SnapshotRecord P) (tenantId : String) :
    Except SnapshotComparisonError ComparisonResultRecord :=
  if expected.source ≠ .netbox then .error .expectedSource
  else if observed.source ≠ .live then .error .observedSource
  else match observed.discoveryRunId with
    | none => .error .notTenantScoped
    | some runId =>
      if (db.runs.get runId).any fun run => run.tenantId = some tenantId then
        match validation.netbox expected.payload, validation.live observed.payload with
        | some expectedInventory, some observedInventory =>
          .ok { expectedSnapshotId := expected.id
                observedSnapshotId := observed.id
                result := ComparisonEngine.compare casefold none expectedInventory
                  observedInventory }
        | _, _ => .error .invalidPayload
      else .error .notAvailable

/-- `compare`: the committed record, or the error. -/
def compare (db : Database P) (expectedSnapshotId observedSnapshotId : UUID)
    (tenantId : String) : Except SnapshotComparisonError ComparisonResultRecord :=
  match db.snapshots.get expectedSnapshotId, db.snapshots.get observedSnapshotId with
  | some expected, some observed =>
    compareFound casefold validation db expected observed tenantId
  | _, _ => .error .notFound

end SnapshotComparisonService

/-! ## Tenants -/

variable {P : Type} {casefold : String → String} {validation : Validation P} {t : String}
  {db db' db'' : Database P}

/-- Two databases agree on the rows of a tenant. -/
structure AgreeOn (t : String) (db db' : Database P) : Prop where
  snapshots : ∀ id s, s.tenantId = t →
    (db.snapshots.get id = some s ↔ db'.snapshots.get id = some s)
  runs : ∀ id r, r.tenantId = some t → (db.runs.get id = some r ↔ db'.runs.get id = some r)

/-- A snapshot of the tenant. -/
def Owned (t : String) (db : Database P) (id : UUID) : Prop :=
  ∃ s, db.snapshots.get id = some s ∧ s.tenantId = t

theorem AgreeOn.refl : AgreeOn t db db where
  snapshots _ _ _ := Iff.rfl
  runs _ _ _ := Iff.rfl

theorem AgreeOn.trans (h : AgreeOn t db db') (h' : AgreeOn t db' db'') : AgreeOn t db db'' where
  snapshots id s hs := (h.snapshots id s hs).trans (h'.snapshots id s hs)
  runs id r hr := (h.runs id r hr).trans (h'.runs id r hr)

theorem AgreeOn.symm (h : AgreeOn t db db') : AgreeOn t db' db where
  snapshots id s hs := (h.snapshots id s hs).symm
  runs id r hr := (h.runs id r hr).symm

theorem owned_of_agree (h : AgreeOn t db db') {runId : UUID}
    (hrun : (db.runs.get runId).any fun run => run.tenantId = some t) :
    (db'.runs.get runId).any fun run => run.tenantId = some t := by
  obtain ⟨run, hget, htenant⟩ := (Option.any_eq_true _ _).1 hrun
  rw [(h.runs runId run (of_decide_eq_true htenant)).1 hget]
  exact htenant

/-- A run is the tenant's own in both databases or in none. -/
theorem run_of_agree (h : AgreeOn t db db') (runId : UUID) :
    ((db'.runs.get runId).any fun run => run.tenantId = some t) =
      (db.runs.get runId).any fun run => run.tenantId = some t := by
  rw [Bool.eq_iff_iff]
  exact ⟨owned_of_agree h.symm, owned_of_agree h⟩

open SnapshotComparisonService

theorem compareFound_of_agree (h : AgreeOn t db db') (expected observed : SnapshotRecord P) :
    compareFound casefold validation db' expected observed t =
      compareFound casefold validation db expected observed t := by
  unfold compareFound
  simp only [run_of_agree h]

theorem compare_of_found {expectedId observedId : UUID} {expected observed : SnapshotRecord P}
    (he : db.snapshots.get expectedId = some expected)
    (ho : db.snapshots.get observedId = some observed) :
    compare casefold validation db expectedId observedId t =
      compareFound casefold validation db expected observed t := by
  unfold SnapshotComparisonService.compare
  rw [he, ho]

/-- Snapshots of the tenant are compared in the same way by all that agree on its rows. -/
theorem compare_of_owned (h : AgreeOn t db db') {expectedId observedId : UUID}
    (he : Owned t db expectedId) (ho : Owned t db observedId) :
    compare casefold validation db' expectedId observedId t =
      compare casefold validation db expectedId observedId t := by
  obtain ⟨expected, hexpected, htexpected⟩ := he
  obtain ⟨observed, hobserved, htobserved⟩ := ho
  rw [compare_of_found hexpected hobserved,
    compare_of_found ((h.snapshots _ _ htexpected).1 hexpected)
      ((h.snapshots _ _ htobserved).1 hobserved)]
  exact compareFound_of_agree h expected observed

/-! ## Other tenants' rows -/

theorem compareFound_ne_notFound (expected observed : SnapshotRecord P) :
    compareFound casefold validation db expected observed t ≠ .error .notFound := by
  unfold compareFound
  repeat' split
  all_goals simp

theorem compare_eq_notFound {expectedId observedId : UUID} :
    compare casefold validation db expectedId observedId t = .error .notFound ↔
      db.snapshots.get expectedId = none ∨ db.snapshots.get observedId = none := by
  unfold SnapshotComparisonService.compare
  split
  · rename_i expected observed he ho
    simp [he, ho, compareFound_ne_notFound]
  · rename_i hnone
    simp only [true_iff]
    cases he : db.snapshots.get expectedId with
    | none => exact .inl rfl
    | some expected =>
      cases ho : db.snapshots.get observedId with
      | none => exact .inr rfl
      | some observed => exact absurd ho (hnone expected observed he)

/-- The tenant's snapshots alone. -/
def alone (t : String) (db : Database P) : Database P :=
  { db with snapshots := db.snapshots.filter fun s => s.tenantId = t }

theorem agreeOn_alone : AgreeOn t db (alone t db) where
  snapshots id s hs := by
    unfold alone
    rw [Tbl.get_filter, Option.filter_eq_some_iff]
    simp [hs]
  runs _ _ _ := Iff.rfl

theorem alone_eq_none {id : UUID} (h : ¬Owned t db id) : (alone t db).snapshots.get id = none := by
  unfold alone
  rw [Tbl.get_filter, Option.filter_eq_none_iff]
  intro s hs htenant
  exact h ⟨s, hs, of_decide_eq_true htenant⟩

/-- Another tenant may have a snapshot of any id that is free. -/
theorem exists_present [Inhabited P] (t : String) (db : Database P) (id : UUID) :
    ∃ db', AgreeOn t db db' ∧ db'.snapshots.get id ≠ none ∧
      ∀ id', db.snapshots.get id' ≠ none → db'.snapshots.get id' ≠ none := by
  by_cases hfree : db.snapshots.get id = none
  · let row : SnapshotRecord P :=
      { id := id, source := .live, tenantId := t.push 'x', payload := default }
    have hother : row.tenantId ≠ t := by
      intro heq
      have hlength := congrArg String.length heq
      simp [row] at hlength
    refine ⟨{ db with snapshots := db.snapshots.set row }, ?_, ?_, ?_⟩
    · constructor
      · intro id' s hs
        rw [Tbl.get_set]
        by_cases hid : id' = row.id
        · rw [if_pos hid, hid]
          constructor
          · intro hget
            rw [hfree] at hget
            cases hget
          · intro hget
            rw [← Option.some.inj hget] at hs
            exact absurd hs hother
        · rw [if_neg hid]
      · exact fun _ _ _ => Iff.rfl
    · rw [Tbl.get_set, if_pos rfl]
      exact Option.some_ne_none row
    · intro id' hid'
      rw [Tbl.get_set]
      split
      · exact Option.some_ne_none row
      · exact hid'
  · exact ⟨db, AgreeOn.refl, hfree, fun _ h => h⟩

/-- What `compare` answers a tenant is the same in all databases that agree on the tenant's rows
if and only if both snapshots are the tenant's. -/
theorem noninterference_iff [Inhabited P] (casefold : String → String)
    (validation : Validation P) (t : String) (db : Database P) (expectedId observedId : UUID) :
    (∀ db', AgreeOn t db db' →
        compare casefold validation db' expectedId observedId t =
          compare casefold validation db expectedId observedId t) ↔
      Owned t db expectedId ∧ Owned t db observedId := by
  constructor
  · intro hsame
    by_contra hnot
    -- without the others' rows one of the two is not found
    have hmissing : compare casefold validation db expectedId observedId t = .error .notFound := by
      rw [← hsame (alone t db) agreeOn_alone, compare_eq_notFound]
      rcases not_and_or.1 hnot with h | h
      · exact .inl (alone_eq_none h)
      · exact .inr (alone_eq_none h)
    -- and another tenant may own what is missing
    obtain ⟨db₁, hagree₁, hexpected, _⟩ := exists_present t db expectedId
    obtain ⟨db₂, hagree₂, hobserved, hkeep⟩ := exists_present t db₁ observedId
    have hfound := hsame db₂ (hagree₁.trans hagree₂)
    rw [hmissing, compare_eq_notFound] at hfound
    rcases hfound with h | h
    · exact hkeep _ hexpected h
    · exact hobserved h
  · rintro ⟨he, ho⟩ db' hagree
    exact compare_of_owned hagree he ho

/-- The live snapshot of tenant `b`, and a NetBox snapshot of tenant `a` with one device. -/
def twoTenants (device : String) :
    Database (Inventory.InventorySnapshot ⊕ Snapshot.InventorySnapshot) where
  snapshots :=
    (Tbl.empty.set
      { id := 1, source := .netbox, tenantId := "a"
        payload := .inl { devices := [{ name := device, deviceType :=
          { manufacturer := { name := "Cisco", slug := "cisco" }, model := "C8300"
            slug := "c8300" } }] } }).set
      { id := 2, source := .live, tenantId := "b", discoveryRunId := some 3, payload := .inr {} }
  runs := Tbl.empty.set
    { id := 3, tenantId := some "b", targetIdentifier := "b", targetAddress := none }

/-- Tenant `b` is told of a device that only tenant `a`'s NetBox has. -/
theorem other_tenant_is_seen :
    AgreeOn "b" (twoTenants "core1") (twoTenants "core2") ∧
      compare Text.lower ⟨Sum.getLeft?, Sum.getRight?⟩ (twoTenants "core1") 1 2 "b" ≠
        compare Text.lower ⟨Sum.getLeft?, Sum.getRight?⟩ (twoTenants "core2") 1 2 "b" := by
  constructor
  · constructor
    · intro id s hs
      simp only [twoTenants, Tbl.get_set]
      by_cases h2 : id = 2
      · simp [h2]
      · by_cases h1 : id = 1
        · simp only [h1, if_true]
          constructor
          · intro h
            rw [← Option.some.inj h] at hs
            exact absurd hs (by decide)
          · intro h
            rw [← Option.some.inj h] at hs
            exact absurd hs (by decide)
        · simp [h1, h2]
    · exact fun _ _ _ => Iff.rfl
  · intro heq
    have hreported := congrArg (fun r => r.toOption.map fun r => r.result.differences) heq
    exact absurd hreported (by decide)

end Comparison
end NetOps
