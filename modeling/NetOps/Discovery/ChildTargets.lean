import NetOps.Discovery.Inheritance

/-!
# Discovery.ChildTargets

Which row `_create_child` makes the target of a child. It is found by its identifier alone, so it
may be any row of the tenant that happens to be called `<scope>:<address>`. The child's target has
the child's address and every row that somebody else keeps is left alone if and only if that row,
when there is one, has the address already and is not somebody else's, or says what the scope
says (`child_target_iff`).
-/

namespace NetOps
namespace Discovery
namespace DiscoveryFanoutService

open Conc

/-- The child is for `address`, and no row of `T` that `Independent` holds of is changed. -/
def OwnChild (address : String) (Independent : DiscoveryTargetRecord → Prop)
    (T T' : Tbl (Row .targets) (primaryKey .targets)) (targetId : UUID) : Prop :=
  ((T'.get targetId).map (·.address) = some address) ∧
    ∀ t ∈ T.rows, Independent t → T'.get t.id = some t

/-- The row found under the child's identifier can be the target of the child. -/
def Fits (scope : DiscoveryTargetRecord) (address : String)
    (Independent : DiscoveryTargetRecord → Prop) (prior : Option DiscoveryTargetRecord) : Prop :=
  ∀ t, prior = some t → t.address = address ∧ (Independent t → inheritScope scope t = t)

/-- Writing a row keeps a row of the table if and only if it has another key or is that row. -/
theorem get_set_iff {T : Tbl (Row .targets) (primaryKey .targets)} {t u : DiscoveryTargetRecord}
    (ht : T.get t.id = some t) : (T.set u).get t.id = some t ↔ (t.id = u.id → u = t) := by
  rw [Tbl.get_set]
  change (if t.id = u.id then some u else T.get t.id) = some t ↔ _
  by_cases hid : t.id = u.id
  · rw [if_pos hid, Option.some.injEq]
    exact ⟨fun h _ => h, fun h => h hid⟩
  · rw [if_neg hid]
    exact ⟨fun _ h => absurd h hid, fun _ => ht⟩

theorem Placed.ownChild_iff {scope target : DiscoveryTargetRecord} {tenantId address : String}
    {Independent : DiscoveryTargetRecord → Prop}
    {T T' : Tbl (Row .targets) (primaryKey .targets)} {prior : Option DiscoveryTargetRecord}
    (h : Placed scope tenantId address T T' target prior) :
    OwnChild address Independent T T' target.id ↔ Fits scope address Independent prior := by
  have haddress : (T'.get target.id).map (·.address) = some target.address := by
    rw [h.inherited.there]
    rfl
  unfold OwnChild
  rw [haddress, Option.some.injEq]
  cases prior with
  | none =>
    obtain ⟨id, hfresh, rfl, rfl⟩ := h
    constructor
    · intro _ t ht
      cases ht
    intro _
    refine ⟨rfl, fun t ht _ => ?_⟩
    have hget : T.get t.id = some t := Tbl.mem_rows.1 ht
    rw [get_set_iff hget]
    intro hid
    -- no row of the table has the fresh id
    rw [hid] at hget
    exact absurd (hfresh.symm.trans hget) (by simp)
  | some t =>
    obtain ⟨hget, _, rfl, rfl⟩ := h
    constructor
    · rintro ⟨hsame, hframe⟩ u hu
      cases hu
      refine ⟨hsame, fun hind => ?_⟩
      exact (get_set_iff hget).1 (hframe t (Tbl.mem_rows.2 hget) hind) rfl
    · intro hfits
      obtain ⟨hsame, hkeep⟩ := hfits t rfl
      refine ⟨hsame, fun u hu hind => ?_⟩
      have hget' : T.get u.id = some u := Tbl.mem_rows.1 hu
      rw [get_set_iff hget']
      intro hid
      have hut : u = t := by
        rw [show u.id = t.id from hid, hget] at hget'
        exact (Option.some.inj hget').symm
      rw [hut]
      exact hkeep (hut ▸ hind)

variable {Sid : Type} [DecidableEq Sid]

/-- Whatever targets there are, and whichever of them are kept by somebody else: when
`_create_child` returns, the child is for its address and theirs are as before if and only if the
row found under the child's identifier fits. -/
theorem child_target_iff (s : Sid) (σ : Store schema Sid) (tenantId : String)
    (parent : DiscoveryJobRecord) (scope : DiscoveryTargetRecord) (address : String)
    (Independent : DiscoveryTargetRecord → Prop) (prior : Option DiscoveryTargetRecord)
    (hs : σ.Sent s .targets)
    (hprior : Prior (σ.pending s .targets) tenantId s!"{scope.identifier}:{address}" prior) :
    Raises.Sat (childContract s) (createChild tenantId parent scope address) σ
      (fun child σ' =>
        OwnChild address Independent (σ.pending s .targets) (σ'.pending s .targets)
          child.1.targetId ↔ Fits scope address Independent prior)
      (fun _ _ => True) := by
  refine (createChild_sat rfl hs hprior).mono ?_ fun _ _ _ => trivial
  rintro child σ' ⟨target, hid, htarget⟩
  rw [← hid]
  exact htarget.ownChild_iff

theorem child_target_iff_empty :
    Raises.Sat (childContract ()) (createChild Samples.tenant Samples.scopeJob Samples.scopeTarget
        "10.0.0.1") (Samples.store fun _ => Tbl.empty)
      (fun child σ' =>
        OwnChild "10.0.0.1" (fun _ => True) ((Samples.store fun _ => Tbl.empty).pending () .targets)
          (σ'.pending () .targets) child.1.targetId ↔
          Fits Samples.scopeTarget "10.0.0.1" (fun _ => True) none) (fun _ _ => True) :=
  child_target_iff () _ Samples.tenant Samples.scopeJob Samples.scopeTarget "10.0.0.1"
    (fun _ => True) none (fun _ h => by cases h) rfl

/-! ## A target that only shares the name -/

/-- A target an operator keeps, called as the child of `lab` at `10.0.0.1` would be. -/
def namesake : DiscoveryTargetRecord :=
  { Samples.deviceTarget with
    address := "192.0.2.7"
    credentialReference := "operator-credentials" }

def namesakeStore : Store schema Unit :=
  Samples.store (Function.update (Samples.tables [Samples.scopeJob] []) .targets
    (Tbl.empty.overlay [Samples.scopeTarget, namesake]))

/-- The child is created for the operator's target, which keeps its address and has the
credentials of the scope. -/
def takesNamesake (r : Except Exn (DiscoveryJobRecord × DiscoveryDeviceResultRecord) ×
    Store schema Unit) : Bool :=
  match r.1 with
  | .ok child => ((r.2.pending () .targets).get child.1.targetId).any fun target =>
      target.id == namesake.id && target.address == "192.0.2.7" &&
        target.credentialReference == "lab-credentials"
  | .error _ => false

theorem namesake_child :
    ((ExceptT.run (createChild Samples.tenant Samples.scopeJob Samples.scopeTarget
      "10.0.0.1")).drive (Samples.world 0 50) () namesakeStore).map takesNamesake = some true := by
  decide

/-- The child of `lab` at `10.0.0.1` runs against another address, on a row it has overwritten. -/
theorem child_target_fails :
    ¬ Raises.Sat (childContract ()) (createChild Samples.tenant Samples.scopeJob
        Samples.scopeTarget "10.0.0.1") namesakeStore
      (fun child σ' =>
        OwnChild "10.0.0.1" (fun t => t = namesake) (namesakeStore.pending () .targets)
          (σ'.pending () .targets) child.1.targetId)
      (fun _ _ => True) := by
  intro h
  obtain ⟨⟨r, σ'⟩, hrun, htakes⟩ := Option.map_eq_some_iff.1 namesake_child
  have hpost := Prog.Sat.drive (C := childContract ()) (fun _ _ => ⟨rfl, rfl, rfl⟩)
    (fun c σ r σ' hanswer => ⟨Store.answer_exec hanswer, savepoint_answer hanswer⟩) h hrun
  cases r with
  | error e => cases htakes
  | ok child =>
    obtain ⟨target, htarget, hother⟩ := (Option.any_eq_true _ _).1 htakes
    have haddress := hpost.1
    simp only [Bool.and_eq_true, beq_iff_eq] at hother
    change ((σ'.pending () .targets).get child.1.targetId).map (·.address) = _ at haddress
    rw [htarget, Option.map_some, hother.1.2] at haddress
    exact absurd haddress (by decide)

end DiscoveryFanoutService
end Discovery
end NetOps
