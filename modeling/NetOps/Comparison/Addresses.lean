import NetOps.Comparison.Fields
import NetOps.Net.Spellings

/-!
# Comparison.Addresses

Addresses in a comparison (`DeviceComparator._compare_matched_device`,
`InterfaceComparator._compare_interface`).

The comparators compare texts, but for spaces and the case of letters, and a prefix length, a short
form of an IPv6 address or another format of a MAC address is a difference to them. Texts that
denote different addresses do differ (`not_sameText`, `not_sameGiven`), so the difference of a pair
is reported as its addresses require if and only if a pair with the same address has it spelled the
same (`addresses_iff`).
-/

namespace NetOps
namespace Comparison

open Inventory (Device Interface)
open Snapshot (DeviceSnapshot InterfaceSnapshot)

variable (casefold : String → String) (filter : Option DifferenceFilter)
  (netbox : Inventory.InventorySnapshot) (live : Snapshot.InventorySnapshot)

/-! ## Addresses -/

/-- `str.casefold` of a text of ASCII is its `lower`. -/
def FoldsAscii : Prop := ∀ text, Net.Ascii text.toList → casefold text = Text.lower text

/-- The address of a field. -/
def denoted {α : Type} (read : String → Option α) (value : Option String) : Option α :=
  value.bind fun text => read (Text.strip text)

/-- The differences of a pair's addresses are reported as the addresses are: none of the same, and
one of different ones. -/
structure AddressesCompared (m : Device × DeviceSnapshot) : Prop where
  ip : ∀ a b, denoted Net.hostAddress m.1.primaryIp = some a →
    denoted Net.hostAddress m.2.managementIp = some b →
      (FieldReported (ComparisonEngine.compare casefold filter netbox live) "device" m.1.name
        "primary_ip" ↔ a ≠ b)
  mac : ∀ i j, ComparedInterfaces casefold m i j → ∀ a b,
    denoted Net.macAddress i.macAddress = some a → denoted Net.macAddress j.macAddress = some b →
      (FieldReported (ComparisonEngine.compare casefold filter netbox live) "interface"
        s!"{m.1.name}:{i.name}" "mac_address" ↔ a ≠ b)

/-- The filter lets differences of addresses through. Addresses that are the same, it does not, or
they are spelled the same, in all pairs that are reported under the same name. -/
structure SpelledAlike (m : Device × DeviceSnapshot) : Prop where
  ip : ∀ a b, denoted Net.hostAddress m.1.primaryIp = some a →
    denoted Net.hostAddress m.2.managementIp = some b →
      if a = b then admits filter .modified "device" = false ∨
        ∀ n ∈ matched casefold netbox live, n.1.name = m.1.name →
          SameText casefold n.1.primaryIp n.2.managementIp
      else admits filter .modified "device" = true
  mac : ∀ i j, ComparedInterfaces casefold m i j → ∀ a b,
    denoted Net.macAddress i.macAddress = some a → denoted Net.macAddress j.macAddress = some b →
      if a = b then admits filter .modified "interface" = false ∨
        ∀ n ∈ matched casefold netbox live, ∀ k l, ComparedInterfaces casefold n k l →
          s!"{n.1.name}:{k.name}" = s!"{m.1.name}:{i.name}" →
            SameGiven casefold k.macAddress l.macAddress
      else admits filter .modified "interface" = true

variable {casefold filter netbox live}

/-! ## Texts of different addresses -/

/-- Lower case leaves a character, or it is a letter. -/
theorem lowerChar_cases (c : Char) :
    Text.lowerChar c = c ∨ (c = Char.ofNat 0x212a ∧ Text.lowerChar c = 'k') ∨
      (c = Char.ofNat 0x1e9e ∧ Text.lowerChar c = 'ß') ∨
      ∃ n < 26, c = Char.ofNat (65 + n) ∧ Text.lowerChar c = Char.ofNat (97 + n) := by
  unfold Text.lowerChar
  split
  · rename_i hkelvin
    refine .inr (.inl ⟨Char.toNat_inj.1 ?_, rfl⟩)
    rw [hkelvin]
    decide
  split
  · rename_i hsharp
    refine .inr (.inr (.inl ⟨Char.toNat_inj.1 ?_, rfl⟩))
    rw [hsharp]
    decide
  · rcases Text.toLower_cases c with ⟨heq, _⟩ | ⟨hge, hle, hlow⟩
    · exact .inl heq
    · refine .inr (.inr (.inr ⟨c.toNat - 65, by omega, ?_, ?_⟩))
      · rw [Nat.add_sub_cancel' hge, Char.ofNat_toNat]
      · rw [← Char.ofNat_toNat c.toLower, hlow]
        congr 1
        omega

/-- What holds of every character and itself, and of the letters and their lower case, holds of
every character and its lower case. -/
theorem lowerChar_rel {R : Char → Char → Prop} (same : ∀ c, R c c)
    (kelvin : R (Char.ofNat 0x212a) 'k') (sharp : R (Char.ofNat 0x1e9e) 'ß')
    (letter : ∀ n < 26, R (Char.ofNat (65 + n)) (Char.ofNat (97 + n))) (c : Char) :
    R c (Text.lowerChar c) := by
  rcases lowerChar_cases c with heq | ⟨rfl, heq⟩ | ⟨rfl, heq⟩ | ⟨n, hn, rfl, heq⟩
  · rw [heq]
    exact same c
  · rw [heq]
    exact kelvin
  · rw [heq]
    exact sharp
  · rw [heq]
    exact letter n hn

theorem keepsDigits_lowerChar : Net.KeepsDigits Text.lowerChar := by
  have hletter : ∀ n < 26, (Char.ofNat (97 + n)).isAlpha = true ∧
      (Char.ofNat (65 + n)).isAlpha = true := by decide
  have hmark : ∀ m ∈ ['.', ':', '/', '-', '%', '0'], m.isAlpha = false ∧ m ≠ Char.ofNat 0x212a ∧
      m ≠ Char.ofNat 0x1e9e ∧ m ≠ 'ß' := by
    intro m hm
    simp only [List.mem_cons, List.not_mem_nil, or_false] at hm
    rcases hm with rfl | rfl | rfl | rfl | rfl | rfl <;> decide
  constructor
  · apply lowerChar_rel (R := fun c d => Net.digitValue d = Net.digitValue c)
    · intro c
      rfl
    · decide
    · decide
    · decide
  · apply lowerChar_rel (R := fun c d => Net.hexValue d = Net.hexValue c)
    · intro c
      rfl
    · decide
    · decide
    · decide
  · intro m hm
    obtain ⟨halpha, hkelvin, hsharp, hsmall⟩ := hmark m hm
    -- neither form of a letter is a mark
    have hne : ∀ d : Char, d.isAlpha = true → d ≠ m := by
      intro d hd heq
      rw [heq, halpha] at hd
      exact Bool.noConfusion hd
    apply lowerChar_rel (R := fun c d => d = m ↔ c = m)
    · intro c
      rfl
    · exact iff_of_false (hne 'k' (by decide)) hkelvin.symm
    · exact iff_of_false hsmall.symm hsharp.symm
    · intro n hn
      exact iff_of_false (hne _ (hletter n hn).1) (hne _ (hletter n hn).2)
  · decide

/-- What is read of a text is read of it in the form that is compared. -/
theorem read_normalize {α : Type} {read : String → Option α}
    (hmap : ∀ text, read (Text.lower text) = read text)
    (hascii : ∀ {text a}, read text = some a → Net.Ascii text.toList)
    (hfold : FoldsAscii casefold) {text : String} {a : α}
    (h : read (Text.strip text) = some a) : read (normalize casefold text) = some a := by
  unfold normalize
  rw [hfold _ (hascii h), hmap, h]

theorem hostAddress_normalize (hfold : FoldsAscii casefold) {text : String} {a : Net.IpAddress}
    (h : Net.hostAddress (Text.strip text) = some a) :
    Net.hostAddress (normalize casefold text) = some a :=
  read_normalize (Net.hostAddress_map keepsDigits_lowerChar) Net.ascii_of_hostAddress hfold h

theorem macAddress_normalize (hfold : FoldsAscii casefold) {text : String} {a : Nat}
    (h : Net.macAddress (Text.strip text) = some a) :
    Net.macAddress (normalize casefold text) = some a :=
  read_normalize (Net.macAddress_map keepsDigits_lowerChar) Net.ascii_of_macAddress hfold h

theorem not_sameText (hfold : FoldsAscii casefold) {expected observed : Option String}
    {a b : Net.IpAddress} (ha : denoted Net.hostAddress expected = some a)
    (hb : denoted Net.hostAddress observed = some b) (hne : a ≠ b) :
    ¬SameText casefold expected observed := by
  have hblank : Net.hostAddress "" = none := by decide
  obtain ⟨e, rfl, he⟩ := Option.bind_eq_some_iff.1 ha
  obtain ⟨o, rfl, ho⟩ := Option.bind_eq_some_iff.1 hb
  have hexpected := hostAddress_normalize hfold he
  have hobserved := hostAddress_normalize hfold ho
  unfold SameText normalizeOption
  simp only [Option.map_some, Option.getD_some]
  rintro (h | h | h)
  · rw [h, hblank] at hexpected
    cases hexpected
  · rw [h, hblank] at hobserved
    cases hobserved
  · rw [h, hobserved] at hexpected
    exact hne (Option.some.inj hexpected).symm

theorem not_sameGiven (hfold : FoldsAscii casefold) {expected observed : Option String}
    {a b : Nat} (ha : denoted Net.macAddress expected = some a)
    (hb : denoted Net.macAddress observed = some b) (hne : a ≠ b) :
    ¬SameGiven casefold expected observed := by
  have hblank : Net.macAddress (Text.strip "") = none := by decide
  have hgiven : ∀ {value : Option String} {text : String} {n : Nat}, value = some text →
      Net.macAddress (Text.strip text) = some n → InterfaceComparator.given value = some text := by
    rintro _ text n rfl hn
    refine Option.filter_eq_some_iff.2 ⟨rfl, decide_eq_true fun hempty => ?_⟩
    rw [hempty, hblank] at hn
    cases hn
  obtain ⟨e, he, hea⟩ := Option.bind_eq_some_iff.1 ha
  obtain ⟨o, ho, hob⟩ := Option.bind_eq_some_iff.1 hb
  intro hsame
  have heq := hsame e (hgiven he hea) o (hgiven ho hob)
  have hexpected := macAddress_normalize hfold hea
  rw [heq, macAddress_normalize hfold hob] at hexpected
  exact hne (Option.some.inj hexpected).symm

/-! ## The addresses of a pair -/

/-- An address of a device is found to differ in the pairs of its name. -/
theorem ip_found_iff {name : String} :
    (∃ d ∈ ComparisonEngine.found casefold netbox live, d.differenceType = .modified ∧
        d.subjectType = "device" ∧ d.subjectId = name ∧ d.fieldName = some "primary_ip") ↔
      ∃ n ∈ matched casefold netbox live, n.1.name = name ∧
        ¬SameText casefold n.1.primaryIp n.2.managementIp := by
  constructor
  · rintro ⟨d, hd, htype, hsubject, hid, hname⟩
    obtain ⟨n, hn, hpair⟩ := (device_modified_found htype hsubject).1 hd
    refine ⟨n, hn, ?_⟩
    unfold DeviceComparator.compareMatchedDevice at hpair
    simp only [List.mem_append, modified_iff] at hpair
    rcases hpair with (⟨_, rfl⟩ | ⟨hdiffers, rfl⟩) | ⟨_, rfl⟩
    · simp [DifferenceBuilder.modified] at hname
    · exact ⟨hid, hdiffers⟩
    · simp [DifferenceBuilder.modified] at hname
  · rintro ⟨n, hn, hid, hdiffers⟩
    refine ⟨DifferenceBuilder.modified "device" n.1.name "primary_ip" (.ofOption n.1.primaryIp)
      (.ofOption n.2.managementIp), ?_, rfl, rfl, hid, rfl⟩
    refine (device_modified_found rfl rfl).2 ⟨n, hn, ?_⟩
    unfold DeviceComparator.compareMatchedDevice
    exact List.mem_append_left _ (List.mem_append_right _ (modified_iff.2 ⟨hdiffers, rfl⟩))

/-- An address of an interface is found to differ in the pairs of its subject. -/
theorem mac_found_iff {subjectId : String} :
    (∃ d ∈ ComparisonEngine.found casefold netbox live, d.differenceType = .modified ∧
        d.subjectType = "interface" ∧ d.subjectId = subjectId ∧
          d.fieldName = some "mac_address") ↔
      ∃ n ∈ matched casefold netbox live, ∃ i j, ComparedInterfaces casefold n i j ∧
        s!"{n.1.name}:{i.name}" = subjectId ∧ ¬SameGiven casefold i.macAddress j.macAddress := by
  constructor
  · rintro ⟨d, hd, htype, hsubject, hid, hname⟩
    obtain ⟨n, hn, i, j, hcompared, hpair⟩ := (interface_modified_found htype hsubject).1 hd
    refine ⟨n, hn, i, j, hcompared, ?_⟩
    unfold InterfaceComparator.compareInterface at hpair
    simp only [List.mem_append, field_iff] at hpair
    rcases hpair with (henabled | ⟨e, he, o, ho, hdiffers, rfl⟩) | ⟨e, _, o, _, _, rfl⟩
    · rw [enabled_field henabled] at hname
      exact absurd hname (by decide)
    · exact ⟨hid, fun hsame => hdiffers (hsame e he o ho)⟩
    · simp [DifferenceBuilder.modified] at hname
  · rintro ⟨n, hn, i, j, hcompared, hid, hdiffers⟩
    unfold SameGiven at hdiffers
    simp only [not_forall, exists_prop] at hdiffers
    obtain ⟨e, he, o, ho, hne⟩ := hdiffers
    refine ⟨DifferenceBuilder.modified "interface" s!"{n.1.name}:{i.name}" "mac_address" (.text e)
      (.text o), ?_, rfl, rfl, hid, rfl⟩
    refine (interface_modified_found rfl rfl).2 ⟨n, hn, i, j, hcompared, ?_⟩
    unfold InterfaceComparator.compareInterface
    exact List.mem_append_left _ (List.mem_append_right _ (field_iff.2 ⟨e, he, o, ho, hne, rfl⟩))

/-- A difference that different addresses have is reported as it should be if it is reported of
different addresses, and not found or not reported of the same. -/
theorem reported_iff {α : Type} [DecidableEq α] {a b : α} {admitted : Bool} {differs : Prop}
    (hdiffers : a ≠ b → differs) :
    ((admitted = true ∧ differs) ↔ a ≠ b) ↔
      if a = b then admitted = false ∨ ¬differs else admitted = true := by
  by_cases heq : a = b
  · rw [if_pos heq]
    cases admitted <;> simp [heq]
  · rw [if_neg heq]
    simp [heq, hdiffers heq]

section Compared

variable {m : Device × DeviceSnapshot}

theorem ip_compared_iff (hfold : FoldsAscii casefold) (hm : m ∈ matched casefold netbox live)
    {a b : Net.IpAddress} (ha : denoted Net.hostAddress m.1.primaryIp = some a)
    (hb : denoted Net.hostAddress m.2.managementIp = some b) :
    (FieldReported (ComparisonEngine.compare casefold filter netbox live) "device" m.1.name
        "primary_ip" ↔ a ≠ b) ↔
      if a = b then admits filter .modified "device" = false ∨
        ∀ n ∈ matched casefold netbox live, n.1.name = m.1.name →
          SameText casefold n.1.primaryIp n.2.managementIp
      else admits filter .modified "device" = true := by
  have hdiffers : a ≠ b → ∃ n ∈ matched casefold netbox live, n.1.name = m.1.name ∧
      ¬SameText casefold n.1.primaryIp n.2.managementIp :=
    fun hne => ⟨m, hm, rfl, not_sameText hfold ha hb hne⟩
  rw [fieldReported_iff (by decide), ip_found_iff, reported_iff hdiffers]
  simp only [not_exists, not_and, not_not]

theorem mac_compared_iff (hfold : FoldsAscii casefold) (hm : m ∈ matched casefold netbox live)
    {i : Interface} {j : InterfaceSnapshot} (hcompared : ComparedInterfaces casefold m i j)
    {a b : Nat} (ha : denoted Net.macAddress i.macAddress = some a)
    (hb : denoted Net.macAddress j.macAddress = some b) :
    (FieldReported (ComparisonEngine.compare casefold filter netbox live) "interface"
        s!"{m.1.name}:{i.name}" "mac_address" ↔ a ≠ b) ↔
      if a = b then admits filter .modified "interface" = false ∨
        ∀ n ∈ matched casefold netbox live, ∀ k l, ComparedInterfaces casefold n k l →
          s!"{n.1.name}:{k.name}" = s!"{m.1.name}:{i.name}" →
            SameGiven casefold k.macAddress l.macAddress
      else admits filter .modified "interface" = true := by
  have hdiffers : a ≠ b → ∃ n ∈ matched casefold netbox live, ∃ k l,
      ComparedInterfaces casefold n k l ∧
        s!"{n.1.name}:{k.name}" = s!"{m.1.name}:{i.name}" ∧
          ¬SameGiven casefold k.macAddress l.macAddress :=
    fun hne => ⟨m, hm, i, j, hcompared, rfl, not_sameGiven hfold ha hb hne⟩
  rw [fieldReported_iff (by decide), mac_found_iff, reported_iff hdiffers]
  simp only [not_exists, not_and, not_not]

end Compared

/-- The differences of a pair's addresses are reported as the addresses are if and only if the same
addresses are spelled alike. -/
theorem addresses_iff (casefold : String → String) (hfold : FoldsAscii casefold)
    (filter : Option DifferenceFilter) (netbox : Inventory.InventorySnapshot)
    (live : Snapshot.InventorySnapshot) {m : Device × DeviceSnapshot}
    (hm : m ∈ matched casefold netbox live) :
    AddressesCompared casefold filter netbox live m ↔
      SpelledAlike casefold filter netbox live m := by
  constructor
  · intro h
    constructor
    · intro a b ha hb
      exact (ip_compared_iff hfold hm ha hb).1 (h.ip a b ha hb)
    · intro i j hcompared a b ha hb
      exact (mac_compared_iff hfold hm hcompared ha hb).1 (h.mac i j hcompared a b ha hb)
  · intro h
    constructor
    · intro a b ha hb
      exact (ip_compared_iff hfold hm ha hb).2 (h.ip a b ha hb)
    · intro i j hcompared a b ha hb
      exact (mac_compared_iff hfold hm hcompared ha hb).2 (h.mac i j hcompared a b ha hb)

/-- A router whose address NetBox has with the length of its network. -/
def edgePair : Device × DeviceSnapshot :=
  ({ name := "edge1", primaryIp := some "10.0.0.1/24"
     deviceType := { manufacturer := { name := "Cisco", slug := "cisco" }
                     model := "C8300", slug := "c8300" } },
    { deviceId := "1", name := "edge1", managementIp := some "10.0.0.1" })

def edgeNetbox : Inventory.InventorySnapshot where
  devices := [edgePair.1]

def edgeLive : Snapshot.InventorySnapshot where
  devices := [edgePair.2]

theorem foldsAscii_lower : FoldsAscii Text.lower := fun _ _ => rfl

theorem edge_matched : edgePair ∈ matched Text.lower edgeNetbox edgeLive := by decide

theorem addresses_iff_edge :
    AddressesCompared Text.lower none edgeNetbox edgeLive edgePair ↔
      SpelledAlike Text.lower none edgeNetbox edgeLive edgePair :=
  addresses_iff Text.lower foldsAscii_lower none edgeNetbox edgeLive edge_matched

/-- The router has the address NetBox says, and is reported to have another. -/
theorem prefix_is_drift :
    ¬∀ (casefold : String → String), FoldsAscii casefold →
      ∀ (filter : Option DifferenceFilter) (netbox : Inventory.InventorySnapshot)
        (live : Snapshot.InventorySnapshot), ∀ m ∈ matched casefold netbox live,
          AddressesCompared casefold filter netbox live m := by
  intro hall
  have hcompared := hall Text.lower foldsAscii_lower none edgeNetbox edgeLive edgePair edge_matched
  have hreported : DifferenceBuilder.modified "device" "edge1" "primary_ip"
      (.text "10.0.0.1/24") (.text "10.0.0.1") ∈
        (ComparisonEngine.compare Text.lower none edgeNetbox edgeLive).differences := by
    decide
  have haddress : denoted Net.hostAddress (some "10.0.0.1/24") = some ⟨.v4, 167772161⟩ ∧
      denoted Net.hostAddress (some "10.0.0.1") = some ⟨.v4, 167772161⟩ := by
    decide
  exact (hcompared.ip _ _ haddress.1 haddress.2).1 ⟨_, hreported, rfl, rfl, rfl, rfl⟩ rfl

end Comparison
end NetOps
