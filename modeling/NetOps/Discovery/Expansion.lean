import NetOps.Discovery.TargetRequests
import NetOps.Net.RoundTrip
import NetOps.Outcomes

/-!
# Discovery.Expansion

What `expand` makes of a scope that `validate_scope` accepts: every address the scope denotes, in
order, or the error of the limit.

* `UsableHost`, `DiscoveryScope.Denotes`: the addresses of a network and of a scope.
* `expandsTo_denoted`: with memory for every host, an accepted scope is expanded to the addresses it
  denotes.
* `expand_exact_iff`: with a bounded memory, it is if and only if its addresses fit in memory, of a
  network even those beyond the limit.
-/

namespace NetOps
namespace Discovery

open Net

/-- The network address of a network of more than two addresses is not a host, nor is the
broadcast address of version 4. -/
def UsableHost (n : IpNetwork) (a : IpAddress) : Prop :=
  n.contains a = true ∧
    (1 < n.hostBits → a.value ≠ n.first ∧ (a.version = .v4 → a.value ≠ n.bound - 1))

namespace DiscoveryScope

/-- The address is one of the scope. -/
def Denotes (scope : DiscoveryScope) (a : IpAddress) : Prop :=
  match scope.scopeType with
  | .singleDevice => scope.address.bind ipAddress = some a
  | .ipRange => ∃ first last, scope.address.bind ipAddress = some first ∧
      scope.scopeEnd.bind ipAddress = some last ∧
      a.version = first.version ∧ first.value ≤ a.value ∧ a.value ≤ last.value
  | .cidrNetwork => ∃ network, scope.scopeCidr.bind ipNetwork = some network ∧ UsableHost network a
  | .deviceGroup | .netboxScope => False

/-- `validate_scope` of the fields of the scope. -/
def Accepted (scope : DiscoveryScope) : Prop :=
  validateScope scope.scopeType scope.address scope.scopeEnd scope.scopeCidr = .ok ()

end DiscoveryScope

/-- The addresses that hold are expanded in order when they are between one and the limit; with
more of them the error is the scope's. -/
def ExpandsTo (expanded : Except Exn (List String)) (maxTargets : Nat)
    (denotes : IpAddress → Prop) : Prop :=
  ∃ addresses : List IpAddress,
    addresses.Pairwise (fun a b => a.value < b.value) ∧
    (∀ a, a ∈ addresses ↔ denotes a) ∧ 1 ≤ addresses.length ∧
    (addresses.length ≤ maxTargets →
      ∃ texts, expanded = .ok texts ∧ texts.map ipAddress = addresses.map some) ∧
    (maxTargets < addresses.length → ∃ message, expanded = .error (.scopeError message))

/-! ## Blocks of addresses -/

/-- The addresses of `addressesFrom`. -/
def block (version : IpVersion) (start count : Nat) : List IpAddress :=
  (List.range count).map fun offset => ⟨version, start + offset⟩

theorem mem_block {version : IpVersion} {start count : Nat} {a : IpAddress} :
    a ∈ block version start count ↔
      a.version = version ∧ start ≤ a.value ∧ a.value < start + count := by
  unfold block
  rw [List.mem_map]
  constructor
  · rintro ⟨offset, hoffset, rfl⟩
    have hlt := List.mem_range.1 hoffset
    exact ⟨rfl, Nat.le_add_right _ _, Nat.add_lt_add_left hlt _⟩
  · rintro ⟨rfl, hstart, hend⟩
    refine ⟨a.value - start, List.mem_range.2 (by omega), ?_⟩
    rw [Nat.add_sub_cancel' hstart]

theorem pairwise_block (version : IpVersion) (start count : Nat) :
    (block version start count).Pairwise fun a b => a.value < b.value := by
  unfold block
  rw [List.pairwise_map]
  exact List.pairwise_lt_range.imp fun hlt => Nat.add_lt_add_left hlt _

theorem map_ipAddress_block {version : IpVersion} {start count : Nat} {suffix : String}
    (h : ∀ a ∈ block version start count, ipAddress (a.text ++ suffix) = some a) :
    ((addressesFrom version start count).map (· ++ suffix)).map ipAddress =
      (block version start count).map some := by
  have htexts : (addressesFrom version start count).map (· ++ suffix) =
      (block version start count).map fun a => a.text ++ suffix := by
    simp only [addressesFrom, block, List.map_map, Function.comp_def]
  rw [htexts, List.map_map]
  exact List.map_congr_left h

/-- A block that is bounded by the limit. -/
theorem expandsTo_bounded {message suffix : String} {maxTargets start count : Nat}
    {version : IpVersion} {denotes : IpAddress → Prop} (hcount : 0 < count)
    (hdenotes : ∀ a, denotes a ↔ a.version = version ∧ start ≤ a.value ∧ a.value < start + count)
    (htext : ∀ a, denotes a → ipAddress (a.text ++ suffix) = some a) :
    ExpandsTo ((bounded message maxTargets version start count).map fun texts =>
      texts.map (· ++ suffix)) maxTargets denotes := by
  have hmem : ∀ a, a ∈ block version start count ↔ denotes a := fun a =>
    mem_block.trans (hdenotes a).symm
  have hlength : (block version start count).length = count := by simp [block]
  refine ⟨block version start count, pairwise_block _ _ _, hmem, ?_, fun hle => ?_, fun hlt => ?_⟩
  · rw [hlength]
    exact hcount
  · rw [hlength] at hle
    rw [bounded, if_neg (Nat.not_lt.2 hle)]
    exact ⟨_, rfl, map_ipAddress_block fun a ha => htext a ((hmem a).1 ha)⟩
  · rw [hlength] at hlt
    rw [bounded, if_pos hlt]
    exact ⟨message, rfl⟩

/-! ## The kinds of scopes -/

theorem parseAddress_eq_ok {text : String} {a : IpAddress} :
    parseAddress text = .ok a ↔ ipAddress text = some a := by
  unfold parseAddress
  cases ipAddress text <;> simp

theorem of_truthy {value : Option String} {text : String} (h : truthy value = some text) :
    value = some text := (Option.filter_eq_some_iff.1 h).1

theorem expandsTo_device {text : String} {a : IpAddress} {maxTargets : Nat} (hpos : 0 < maxTargets)
    (h : ipAddress text = some a) :
    ExpandsTo ((parseAddress text).map fun _ => [text]) maxTargets fun b => some a = some b := by
  refine ⟨[a], List.pairwise_singleton _ a, fun b => ?_, Nat.le_refl 1, fun _ => ?_, fun hlt => ?_⟩
  · dsimp only
    rw [List.mem_singleton, Option.some.injEq, eq_comm]
  · rw [parseAddress_eq_ok.2 h]
    exact ⟨[text], rfl, by simp [h]⟩
  · rw [List.length_singleton] at hlt
    omega

theorem expandsTo_range {address scopeEnd : String} {first last : IpAddress} {maxTargets : Nat}
    (hfirst : ipAddress address = some first) (hlast : ipAddress scopeEnd = some last)
    (hversion : first.version = last.version) (hle : first.value ≤ last.value) :
    ExpandsTo (DiscoveryScope.expandRange address scopeEnd maxTargets none) maxTargets
      fun a => a.version = first.version ∧ first.value ≤ a.value ∧ a.value ≤ last.value := by
  have hspace := inSpace_of_ipAddress hlast
  have hexpand : DiscoveryScope.expandRange address scopeEnd maxTargets none =
      (bounded "IP range exceeds the target limit." maxTargets first.version first.value
        (last.value - first.value + 1)).map fun texts => texts.map (· ++ "") := by
    have hsame : ∀ e : Except Exn (List String), (e.map fun texts => texts.map (· ++ "")) = e := by
      intro e
      cases e <;> simp [Except.map]
    rw [hsame, DiscoveryScope.expandRange, parseAddress_eq_ok.2 hfirst, parseAddress_eq_ok.2 hlast]
    have hordered : ¬(first.version ≠ last.version ∨ first.value > last.value) := by
      rintro (hne | hgt)
      · exact hne hversion
      · omega
    refine (if_neg hordered).trans ?_
    simp only [built_none]
    exact bind_pure _
  rw [hexpand]
  refine expandsTo_bounded (Nat.succ_pos _) (fun a => ?_) fun a ha => ?_
  · have hend : a.value ≤ last.value ↔ a.value < first.value + (last.value - first.value + 1) := by
      omega
    rw [hend]
  · rw [String.append_empty]
    refine ipAddress_text ?_
    unfold IpAddress.InSpace at hspace ⊢
    rw [ha.1, hversion]
    exact Nat.lt_of_le_of_lt ha.2.2 hspace

/-- The hosts of a network are a block. -/
theorem usableHost_iff (n : IpNetwork) (a : IpAddress) :
    UsableHost n a ↔ a.version = n.address.version ∧ n.hosts.1 ≤ a.value ∧
      a.value < n.hosts.1 + n.hosts.2 := by
  unfold UsableHost
  rw [IpNetwork.contains_iff]
  unfold IpNetwork.hosts IpNetwork.bound
  by_cases hnone : n.hostBits = 0
  · have hfirst : n.first = n.address.value := by simp [IpNetwork.first, hnone]
    rw [if_pos hnone, hfirst]
    simp [hnone]
  by_cases hone : n.hostBits = 1
  · rw [if_neg hnone, if_pos hone]
    simp [hone]
  have hfour : 2 ^ 2 ≤ 2 ^ n.hostBits := Nat.pow_le_pow_right Nat.two_pos (by omega)
  have hmore : 1 < n.hostBits := by omega
  rw [if_neg hnone, if_neg hone]
  constructor
  · rintro ⟨⟨hversion, hlow, hhigh⟩, hmarks⟩
    obtain ⟨hnetwork, hbroadcast⟩ := hmarks hmore
    cases hv : n.address.version with
    | v4 =>
      have hlast := hbroadcast (hversion.trans hv)
      dsimp only
      exact ⟨hversion.trans hv, by omega, by omega⟩
    | v6 =>
      dsimp only
      exact ⟨hversion.trans hv, by omega, by omega⟩
  · intro h
    cases hv : n.address.version with
    | v4 =>
      rw [hv] at h
      dsimp only at h
      exact ⟨⟨h.1, by omega, by omega⟩, fun _ => ⟨by omega, fun _ => by omega⟩⟩
    | v6 =>
      rw [hv] at h
      dsimp only at h
      refine ⟨⟨h.1, by omega, by omega⟩, fun _ => ⟨by omega, fun hv4 => ?_⟩⟩
      rw [h.1] at hv4
      cases hv4

theorem expandsTo_network {cidr : String} {n : IpNetwork} (maxTargets : Nat)
    (h : ipNetwork cidr = some n) :
    ExpandsTo (DiscoveryScope.expandNetwork cidr maxTargets none) maxTargets (UsableHost n) := by
  have hread := readNetwork h
  rw [DiscoveryScope.expandNetwork, h]
  refine expandsTo_bounded (hosts_pos n) (usableHost_iff n) fun a ha => ?_
  obtain ⟨hversion, -, hlt⟩ := (IpNetwork.contains_iff n a).1 ha.1
  have hspace : a.InSpace := by
    unfold IpAddress.InSpace
    rw [hversion]
    exact Nat.lt_of_lt_of_le hlt (IpNetwork.bound_le hread.inSpace)
  exact ipAddress_suffix hread hspace hversion

/-- What is accepted: one address, the ends of a range in order, or a network. -/
inductive Readable (scope : DiscoveryScope) : Prop where
  | device {text : String} {a : IpAddress} (hkind : scope.scopeType = .singleDevice)
      (haddress : scope.address = some text) (hread : ipAddress text = some a)
  | range {address scopeEnd : String} {first last : IpAddress} (hkind : scope.scopeType = .ipRange)
      (haddress : scope.address = some address) (hend : scope.scopeEnd = some scopeEnd)
      (hfirst : ipAddress address = some first) (hlast : ipAddress scopeEnd = some last)
      (hversion : first.version = last.version) (hle : first.value ≤ last.value)
  | network {cidr : String} {n : IpNetwork} (hkind : scope.scopeType = .cidrNetwork)
      (hcidr : scope.scopeCidr = some cidr) (hread : ipNetwork cidr = some n)

theorem readable_of_accepted {scope : DiscoveryScope} (hvalid : scope.Accepted) :
    Readable scope := by
  unfold DiscoveryScope.Accepted validateScope at hvalid
  cases hkind : scope.scopeType with
  | singleDevice =>
    rw [hkind] at hvalid
    cases haddress : truthy scope.address with
    | none => simp [haddress] at hvalid
    | some text =>
      simp only [haddress] at hvalid
      cases hparsed : ipAddress text with
      | none => simp [parseAddress, hparsed, Except.map] at hvalid
      | some a => exact .device hkind (of_truthy haddress) hparsed
  | ipRange =>
    rw [hkind] at hvalid
    cases haddress : truthy scope.address with
    | none => simp [haddress] at hvalid
    | some address =>
      cases hend : truthy scope.scopeEnd with
      | none => simp [haddress, hend] at hvalid
      | some scopeEnd =>
        simp only [haddress, hend] at hvalid
        obtain ⟨first, hfirst, hvalid⟩ := Outcomes.bind_ok hvalid
        obtain ⟨last, hlast, hvalid⟩ := Outcomes.bind_ok hvalid
        have hordered : ¬(first.version ≠ last.version ∨ first.value > last.value) := by
          intro hbad
          rw [if_pos hbad] at hvalid
          cases hvalid
        rw [not_or, not_not, Nat.not_lt] at hordered
        rw [parseAddress_eq_ok] at hfirst hlast
        exact .range hkind (of_truthy haddress) (of_truthy hend) hfirst hlast hordered.1 hordered.2
  | cidrNetwork =>
    rw [hkind] at hvalid
    cases hcidr : truthy scope.scopeCidr with
    | none => simp [hcidr] at hvalid
    | some cidr =>
      simp only [hcidr] at hvalid
      cases hnetwork : ipNetwork cidr with
      | none => simp [hnetwork] at hvalid
      | some n => exact .network hkind (of_truthy hcidr) hnetwork
  | deviceGroup =>
    rw [hkind] at hvalid
    cases hvalid
  | netboxScope =>
    rw [hkind] at hvalid
    cases hvalid

/-- With memory for every host, a scope that is accepted is expanded to exactly the addresses it
denotes. -/
theorem expandsTo_denoted {scope : DiscoveryScope} {maxTargets : Nat} (hvalid : scope.Accepted)
    (hpos : 0 < maxTargets) : ExpandsTo (scope.expand maxTargets) maxTargets scope.Denotes := by
  have hlimit : ¬maxTargets < 1 := by omega
  unfold DiscoveryScope.expand DiscoveryScope.Denotes
  rw [if_neg hlimit]
  cases readable_of_accepted hvalid with
  | device hkind haddress hread =>
    simp only [hkind, haddress, Option.bind_some, hread]
    exact expandsTo_device hpos hread
  | range hkind haddress hend hfirst hlast hversion hle =>
    simp only [hkind, haddress, hend, Option.bind_some, hfirst, hlast, Option.some.injEq,
      exists_eq_left', exists_and_left]
    exact expandsTo_range hfirst hlast hversion hle
  | network hkind hcidr hread =>
    simp only [hkind, hcidr, Option.bind_some, hread, Option.some.injEq, exists_eq_left']
    exact expandsTo_network maxTargets hread

/-- No address is expanded twice. -/
theorem DiscoveryScope.Accepted.nodup {scope : DiscoveryScope} (hvalid : scope.Accepted)
    {maxTargets : Nat} {texts : List String} (hexpand : scope.expand maxTargets = .ok texts) :
    texts.Nodup := by
  have hpos : 0 < maxTargets := by
    by_contra hzero
    rw [DiscoveryScope.expand, if_pos (by omega)] at hexpand
    cases hexpand
  obtain ⟨addresses, hsorted, _, _, hwithin, hbeyond⟩ := expandsTo_denoted hvalid hpos
  have hle : addresses.length ≤ maxTargets := by
    by_contra hlt
    obtain ⟨message, herror⟩ := hbeyond (by omega)
    rw [hexpand] at herror
    cases herror
  obtain ⟨texts', hok, hread⟩ := hwithin hle
  cases hexpand.symm.trans hok
  have hnodup : addresses.Nodup := hsorted.imp fun hlt heq => by
    rw [heq] at hlt
    exact Nat.lt_irrefl _ hlt
  refine List.Nodup.of_map ipAddress ?_
  rw [hread]
  exact hnodup.map (Option.some_injective _)

/-! ## Memory -/

/-- The addresses of a range that is within the limit fit in memory, and those of a network in any
case. -/
def DiscoveryScope.Fits (scope : DiscoveryScope) (maxTargets memory : Nat) : Prop :=
  match scope.scopeType with
  | .ipRange => ∀ first last, scope.address.bind ipAddress = some first →
      scope.scopeEnd.bind ipAddress = some last →
        last.value - first.value + 1 ≤ maxTargets → last.value - first.value + 1 ≤ memory
  | .cidrNetwork => ∀ network, scope.scopeCidr.bind ipNetwork = some network →
      network.hosts.2 ≤ memory
  | .singleDevice | .deviceGroup | .netboxScope => True

theorem built_eq_ok {memory count : Nat} (h : count ≤ memory) :
    built (some memory) count = .ok () :=
  if_neg (by simpa using h)

theorem built_eq_error {memory count : Nat} (h : memory < count) :
    built (some memory) count = .error (.raised "") :=
  if_pos (by simpa using h)

/-- A range is counted, then built. -/
theorem expandRange_eq {address scopeEnd : String} {first last : IpAddress} {maxTargets : Nat}
    (memory : Option Nat) (hfirst : ipAddress address = some first)
    (hlast : ipAddress scopeEnd = some last) (hversion : first.version = last.version)
    (hle : first.value ≤ last.value) :
    DiscoveryScope.expandRange address scopeEnd maxTargets memory =
      if last.value - first.value + 1 > maxTargets then
        .error (.scopeError "IP range exceeds the target limit.")
      else (built memory (last.value - first.value + 1)).map fun _ =>
        addressesFrom first.version first.value (last.value - first.value + 1) := by
  have hordered : ¬(first.version ≠ last.version ∨ first.value > last.value) := by
    rintro (hne | hgt)
    · exact hne hversion
    · omega
  rw [DiscoveryScope.expandRange, parseAddress_eq_ok.2 hfirst, parseAddress_eq_ok.2 hlast]
  refine (if_neg hordered).trans ?_
  unfold bounded
  by_cases hmore : last.value - first.value + 1 > maxTargets
  · rw [if_pos hmore, if_pos hmore]
    rfl
  · rw [if_neg hmore, if_neg hmore]
    simp only [bind, Except.bind, length_addressesFrom]
    cases built memory (last.value - first.value + 1) <;> rfl

/-- A scope whose addresses fit in memory is expanded as if there were no bound. -/
theorem expand_of_fits {scope : DiscoveryScope} {maxTargets memory : Nat}
    (hvalid : scope.Accepted) (h : scope.Fits maxTargets memory) :
    scope.expand maxTargets (some memory) = scope.expand maxTargets := by
  unfold DiscoveryScope.Fits at h
  unfold DiscoveryScope.expand
  cases readable_of_accepted hvalid with
  | device hkind haddress hread => rw [hkind]
  | range hkind haddress hend hfirst hlast hversion hle =>
    simp only [hkind, haddress, hend, Option.bind_some, hfirst, hlast] at h ⊢
    have hfits := h _ _ rfl rfl
    simp only [expandRange_eq _ hfirst hlast hversion hle]
    split
    · rfl
    · split
      · rfl
      · rename_i hwithin
        rw [built_eq_ok (hfits (Nat.not_lt.1 hwithin)), built_none]
  | network hkind hcidr hread =>
    simp only [hkind, hcidr, Option.bind_some, hread] at h ⊢
    simp only [DiscoveryScope.expandNetwork, hread, built_eq_ok (h _ rfl), built_none]

/-- A scope whose addresses do not fit in memory raises a `MemoryError`. -/
theorem expand_of_not_fits {scope : DiscoveryScope} {maxTargets memory : Nat}
    (hvalid : scope.Accepted) (hpos : 0 < maxTargets) (h : ¬ scope.Fits maxTargets memory) :
    scope.expand maxTargets (some memory) = .error (.raised "") := by
  have hlimit : ¬maxTargets < 1 := by omega
  unfold DiscoveryScope.Fits at h
  unfold DiscoveryScope.expand
  rw [if_neg hlimit]
  cases readable_of_accepted hvalid with
  | device hkind haddress hread =>
    rw [hkind] at h
    exact absurd trivial h
  | range hkind haddress hend hfirst hlast hversion hle =>
    simp only [hkind, haddress, hend, Option.bind_some, hfirst, hlast] at h ⊢
    push Not at h
    obtain ⟨_, _, hfirst', hlast', hwithin, hmore⟩ := h
    cases hfirst'
    cases hlast'
    rw [expandRange_eq _ hfirst hlast hversion hle, if_neg (Nat.not_lt.2 hwithin),
      built_eq_error hmore]
    rfl
  | network hkind hcidr hread =>
    simp only [hkind, hcidr, Option.bind_some, hread, Option.some.injEq, forall_eq',
      Nat.not_le] at h ⊢
    simp only [DiscoveryScope.expandNetwork, hread, built_eq_error h]
    rfl

theorem not_expandsTo_raised {text : String} {maxTargets : Nat} {denotes : IpAddress → Prop} :
    ¬ ExpandsTo (.error (.raised text)) maxTargets denotes := by
  rintro ⟨addresses, _, _, _, hwithin, hbeyond⟩
  rcases Nat.lt_or_ge maxTargets addresses.length with hlt | hle
  · obtain ⟨message, hmessage⟩ := hbeyond hlt
    cases hmessage
  · obtain ⟨texts, htexts, _⟩ := hwithin hle
    cases htexts

/-- A scope that is accepted is expanded to exactly the addresses it denotes if and only if they
fit in memory. -/
theorem expand_exact_iff {scope : DiscoveryScope} {maxTargets memory : Nat}
    (hvalid : scope.Accepted) (hpos : 0 < maxTargets) :
    ExpandsTo (scope.expand maxTargets (some memory)) maxTargets scope.Denotes ↔
      scope.Fits maxTargets memory := by
  constructor
  · intro hexpands
    by_contra hfits
    rw [expand_of_not_fits hvalid hpos hfits] at hexpands
    exact not_expandsTo_raised hexpands
  · intro hfits
    rw [expand_of_fits hvalid hfits]
    exact expandsTo_denoted hvalid hpos

/-- Host bits set, and as many hosts as the limit. -/
def accessLinks : DiscoveryScope where
  scopeType := .cidrNetwork
  scopeCidr := some "10.0.0.5/30"

theorem expand_exact_accessLinks :
    ExpandsTo (accessLinks.expand 2 (some (2 ^ 40))) 2 accessLinks.Denotes ↔
      accessLinks.Fits 2 (2 ^ 40) :=
  expand_exact_iff rfl Nat.two_pos

example : accessLinks.expand 2 = .ok ["10.0.0.5", "10.0.0.6"] := by rfl

/-- A network of one link. -/
def oneLink : DiscoveryScope where
  scopeType := .cidrNetwork
  scopeCidr := some "2001:db8::/64"

theorem oneLink_hosts : (ipNetwork "2001:db8::/64").map IpNetwork.hosts =
    some (0x20010db8000000000000000000000001, 2 ^ 64 - 1) := by
  decide

/-- Its hosts are built, although there are more than the limit. -/
theorem oneLink_not_expanded : ¬ ∀ (scope : DiscoveryScope) (maxTargets : Nat), scope.Accepted →
    0 < maxTargets →
      ExpandsTo (scope.expand maxTargets (some (2 ^ 40))) maxTargets scope.Denotes := by
  intro h
  have hexpands := h oneLink 4096 rfl (by decide)
  have hfits : ¬ oneLink.Fits 4096 (2 ^ 40) := by
    intro hfits
    obtain ⟨network, hread, hhosts⟩ := Option.map_eq_some_iff.1 oneLink_hosts
    have hle := hfits network hread
    rw [hhosts] at hle
    exact absurd hle (by decide)
  have haccepted : oneLink.Accepted := rfl
  rw [expand_of_not_fits haccepted (by decide) hfits] at hexpands
  exact not_expandsTo_raised hexpands

end Discovery
end NetOps
