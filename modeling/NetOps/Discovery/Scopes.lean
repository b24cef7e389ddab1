import NetOps.Discovery.Records
import NetOps.Net.IpAddress
import NetOps.Outcomes

/-!
# Discovery.Scopes

Scope expansion (`discovery/scopes.py`).
-/

namespace NetOps
namespace Discovery

open Net

structure DiscoveryScope where
  scopeType : DiscoveryScopeType
  address : Option String := none
  scopeEnd : Option String := none
  scopeCidr : Option String := none

/-- `str(start + offset) for offset in range(count)`. -/
def addressesFrom (version : IpVersion) (start count : Nat) : List String :=
  (List.range count).map fun offset => (IpAddress.mk version (start + offset)).text

@[simp] theorem length_addressesFrom (version : IpVersion) (start count : Nat) :
    (addressesFrom version start count).length = count := by
  simp [addressesFrom]

/-- `ip_address(text)`, raising. -/
def parseAddress (text : String) : Except Exn IpAddress :=
  match ipAddress text with
  | some a => .ok a
  | none => .error (.valueError s!"'{text}' does not appear to be an IPv4 or IPv6 address")

/-- The addresses of a scope, unless there are more than the limit. -/
def bounded (message : String) (maxTargets : Nat) (version : IpVersion) (start count : Nat) :
    Except Exn (List String) :=
  if count > maxTargets then .error (.scopeError message)
  else .ok (addressesFrom version start count)

/-- A tuple of `count` texts or addresses is built: `memory` is how many the interpreter can hold,
if there is a bound. A `MemoryError` has no text. -/
def built (memory : Option Nat) (count : Nat) : Except Exn Unit :=
  if memory.any (· < count) then .error (.raised "") else .ok ()

def DiscoveryScope.expandRange (address scopeEnd : String) (maxTargets : Nat)
    (memory : Option Nat) : Except Exn (List String) := do
  let first ← parseAddress address
  let last ← parseAddress scopeEnd
  if first.version ≠ last.version ∨ first.value > last.value then
    .error (.scopeError "IP range boundaries are invalid.")
  else do
    let addresses ← bounded "IP range exceeds the target limit." maxTargets first.version
      first.value (last.value - first.value + 1)
    built memory addresses.length
    return addresses

/-- The hosts are built before they are counted. -/
def DiscoveryScope.expandNetwork (cidr : String) (maxTargets : Nat) (memory : Option Nat) :
    Except Exn (List String) :=
  match ipNetwork cidr with
  | none => .error (.valueError s!"'{cidr}' does not appear to be an IPv4 or IPv6 network")
  | some network => do
    built memory network.hosts.2
    (bounded "CIDR network exceeds the target limit." maxTargets network.address.version
      network.hosts.1 network.hosts.2).map fun hosts => hosts.map (· ++ network.suffix)

def DiscoveryScope.expand (scope : DiscoveryScope) (maxTargets : Nat)
    (memory : Option Nat := none) : Except Exn (List String) :=
  if maxTargets < 1 then .error (.scopeError "Maximum target count must be positive.")
  else match scope.scopeType with
    | .singleDevice => match scope.address with
      | none => .error (.scopeError "Single-device address is required.")
      | some address => (parseAddress address).map fun _ => [address]
    | .ipRange => match scope.address, scope.scopeEnd with
      | some address, some scopeEnd => expandRange address scopeEnd maxTargets memory
      | _, _ => .error (.scopeError "IP range boundaries are required.")
    | .cidrNetwork => match scope.scopeCidr with
      | none => .error (.scopeError "CIDR network is required.")
      | some cidr => expandNetwork cidr maxTargets memory
    | .deviceGroup | .netboxScope =>
      .error (.scopeError "This discovery scope is not executable yet.")

/-- The scope of a target record. -/
def DiscoveryTargetRecord.scope (target : DiscoveryTargetRecord) : DiscoveryScope where
  scopeType := target.scopeType
  address := some target.address
  scopeEnd := target.scopeEnd
  scopeCidr := target.scopeCidr

@[simp] theorem built_none (count : Nat) : built none count = .ok () := rfl

/-- A network has a host. -/
theorem hosts_pos (n : IpNetwork) : 0 < n.hosts.2 := by
  unfold IpNetwork.hosts
  split
  · exact Nat.one_pos
  · split
    · exact Nat.two_pos
    · have hbits : 2 ^ 2 ≤ 2 ^ n.hostBits := Nat.pow_le_pow_right Nat.two_pos (by omega)
      split <;> simp only <;> omega

theorem bounded_ne_nil {message : String} {maxTargets start count : Nat} {version : IpVersion}
    {addresses : List String} (hcount : 0 < count)
    (h : bounded message maxTargets version start count = .ok addresses) : addresses ≠ [] := by
  unfold bounded at h
  split at h
  · cases h
  · cases h
    refine List.ne_nil_of_length_pos ?_
    rw [length_addressesFrom]
    exact hcount

/-- A scope that expands has an address. -/
theorem DiscoveryScope.expand_ne_nil {scope : DiscoveryScope} {maxTargets : Nat}
    {addresses : List String} (h : scope.expand maxTargets = .ok addresses) : addresses ≠ [] := by
  unfold expand at h
  split at h
  · cases h
  split at h
  · split at h
    · cases h
    · unfold parseAddress at h
      split at h
      · cases h
        exact List.cons_ne_nil _ _
      · cases h
  · split at h
    · obtain ⟨first, _, h⟩ := Outcomes.bind_ok h
      obtain ⟨last, _, h⟩ := Outcomes.bind_ok h
      split at h
      · cases h
      · obtain ⟨found, hfound, h⟩ := Outcomes.bind_ok h
        cases h
        exact bounded_ne_nil (by omega) hfound
    · cases h
  · split at h
    · cases h
    · unfold expandNetwork at h
      split at h
      · cases h
      · rename_i network hnetwork
        obtain ⟨_, _, h⟩ := Outcomes.bind_ok h
        cases hhosts : bounded "CIDR network exceeds the target limit." maxTargets
            network.address.version network.hosts.1 network.hosts.2 with
        | error e =>
          rw [hhosts] at h
          cases h
        | ok hosts =>
          rw [hhosts] at h
          cases h
          rw [Ne, List.map_eq_nil_iff]
          exact bounded_ne_nil (hosts_pos network) hhosts
  all_goals cases h

theorem bounded_ok {message : String} {maxTargets start count : Nat} {version : IpVersion}
    {addresses : List String} (h : bounded message maxTargets version start count = .ok addresses) :
    addresses = addressesFrom version start count := by
  unfold bounded at h
  split at h
  · cases h
  · cases h
    rfl

theorem expandRange_limit {first last : String} {m m' : Nat} {addresses addresses' : List String}
    (h : DiscoveryScope.expandRange first last m none = .ok addresses)
    (h' : DiscoveryScope.expandRange first last m' none = .ok addresses') :
    addresses = addresses' := by
  unfold DiscoveryScope.expandRange at h h'
  obtain ⟨start, hstart, h⟩ := Outcomes.bind_ok h
  obtain ⟨stop, hstop, h⟩ := Outcomes.bind_ok h
  rw [hstart] at h'
  obtain ⟨_, ⟨⟩, h'⟩ := Outcomes.bind_ok h'
  rw [hstop] at h'
  obtain ⟨_, ⟨⟩, h'⟩ := Outcomes.bind_ok h'
  split at h
  · cases h
  · rename_i hordered
    rw [if_neg hordered] at h'
    obtain ⟨found, hfound, h⟩ := Outcomes.bind_ok h
    obtain ⟨found', hfound', h'⟩ := Outcomes.bind_ok h'
    cases h
    cases h'
    rw [bounded_ok hfound, bounded_ok hfound']

theorem expandNetwork_limit {cidr : String} {m m' : Nat} {addresses addresses' : List String}
    (h : DiscoveryScope.expandNetwork cidr m none = .ok addresses)
    (h' : DiscoveryScope.expandNetwork cidr m' none = .ok addresses') : addresses = addresses' := by
  unfold DiscoveryScope.expandNetwork at h h'
  cases hread : ipNetwork cidr with
  | none =>
    rw [hread] at h
    cases h
  | some network =>
    rw [hread] at h h'
    obtain ⟨_, _, h⟩ := Outcomes.bind_ok h
    obtain ⟨_, _, h'⟩ := Outcomes.bind_ok h'
    obtain ⟨hosts, hhosts, rfl⟩ := Outcomes.map_ok h
    obtain ⟨hosts', hhosts', rfl⟩ := Outcomes.map_ok h'
    rw [bounded_ok hhosts, bounded_ok hhosts']

/-- The addresses of a scope do not depend on the limit they are within. -/
theorem DiscoveryScope.expand_limit {scope : DiscoveryScope} {m m' : Nat}
    {addresses addresses' : List String} (h : scope.expand m = .ok addresses)
    (h' : scope.expand m' = .ok addresses') : addresses = addresses' := by
  obtain ⟨kind, address, scopeEnd, cidr⟩ := scope
  unfold expand at h h'
  split at h
  · cases h
  split at h'
  · cases h'
  cases kind with
  | singleDevice =>
    cases address with
    | none => cases h
    | some address => exact Except.ok.inj (h.symm.trans h')
  | ipRange =>
    cases address with
    | none => cases h
    | some address =>
      cases scopeEnd with
      | none => cases h
      | some scopeEnd => exact expandRange_limit h h'
  | cidrNetwork =>
    cases cidr with
    | none => cases h
    | some cidr => exact expandNetwork_limit h h'
  | deviceGroup | netboxScope => cases h

end Discovery
end NetOps
