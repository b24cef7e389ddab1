import NetOps.Discovery.Reach
import NetOps.Normalization.Mapper

/-!
# Discovery.Identity

Under which id a device is committed. The parser takes it from the identifier in the payload, and
that is the target's own on the single path and the target's with the name of the transport on the
fallback chain. So the executions of a target commit its device under one id, derived from its own
identifier, if and only if the target does not take the chain (`same_device_iff`).
-/

namespace NetOps
namespace Discovery

open Collectors.Cisco Vendors.Cisco Snapshot.Entities Normalization
open Transports (ApplicationManager)
open MultiTransportDiscoveryOrchestrator (TransportAttemptConfig)

/-! ## Texts -/

/-- What `strip` takes away is space. -/
theorem count_strip {c : Char} (hc : Text.isSpace c = false) (text : String) :
    (Text.strip text).toList.count c = text.toList.count c := by
  have hdrop : ∀ cs : List Char, (cs.dropWhile Text.isSpace).count c = cs.count c := by
    intro cs
    induction cs with
    | nil => rfl
    | cons d cs ih =>
      by_cases hd : Text.isSpace d = true
      · have hne : d ≠ c := fun h => by simp [h, hc] at hd
        rw [List.dropWhile_cons_of_pos hd, ih, List.count_cons_of_ne hne]
      · rw [List.dropWhile_cons_of_neg hd]
  unfold Text.strip
  rw [String.toList_ofList, List.rdropWhile, List.count_reverse, hdrop, List.count_reverse, hdrop]

/-- An identifier with a transport is not the identifier. -/
theorem strip_qualified (identifier name : String) :
    Text.strip s!"{identifier}:{name}" ≠ Text.strip identifier := by
  intro h
  have hcount : (Text.strip s!"{identifier}:{name}").toList.count ':' =
      (Text.strip identifier).toList.count ':' := by rw [h]
  rw [count_strip (by decide), count_strip (by decide)] at hcount
  have happend : s!"{identifier}:{name}".toList = identifier.toList ++ ':' :: name.toList := by
    have htext : s!"{identifier}:{name}" = identifier ++ ":" ++ name := rfl
    have hsep : ":".toList = [':'] := by decide
    rw [htext, String.toList_append, String.toList_append, hsep, List.append_assoc,
      List.singleton_append]
  rw [happend, List.count_append, List.count_cons_self] at hcount
  omega

theorem strip_strip (text : String) : Text.strip (Text.strip text) = Text.strip text := by
  unfold Text.strip
  rw [String.toList_ofList]
  have hhead : ((text.toList.dropWhile Text.isSpace).rdropWhile Text.isSpace).dropWhile
      Text.isSpace = (text.toList.dropWhile Text.isSpace).rdropWhile Text.isSpace := by
    obtain ⟨rest, hrest⟩ := List.rdropWhile_prefix Text.isSpace (text.toList.dropWhile Text.isSpace)
    cases hstripped : (text.toList.dropWhile Text.isSpace).rdropWhile Text.isSpace with
    | nil => rfl
    | cons c cs =>
      have hfirst := List.head?_dropWhile_not Text.isSpace text.toList
      rw [← hrest, hstripped, List.cons_append, List.head?_cons] at hfirst
      exact List.dropWhile_cons_of_neg (by simpa using hfirst)
  rw [hhead, List.rdropWhile_idempotent]

/-! ## What the parser names -/

section Records

variable {search : Search} {deviceId : String} {raw : RawPayload} {r : ParsedRecord}

/-- The device that a record other than a device's names. -/
def recordDevice (r : ParsedRecord) : String :=
  NormalizationMapper.textOr "" r.payload
    (if r.kind = "neighbor" then "local_device_id" else "device_id")

/-- The record is of a part of the device, and names it. -/
def Names (deviceId : String) (r : ParsedRecord) : Prop :=
  r.kind ≠ "device" ∧ recordDevice r = Text.strip deviceId

/-- A record of this kind begins with the device. -/
theorem names_part {kind : String} {payload : PyDict} (hdevice : kind ≠ "device")
    (hneighbor : kind ≠ "neighbor") :
    Names deviceId ⟨kind, ("device_id", .str deviceId) :: payload⟩ := by
  refine ⟨hdevice, ?_⟩
  unfold recordDevice NormalizationMapper.textOr
  rw [if_neg hneighbor]
  rfl

theorem names_readInterfaceLine {line : String}
    (h : CiscoInventoryParser.readInterfaceLine deviceId line = .ok (some r)) :
    Names deviceId r := by
  unfold CiscoInventoryParser.readInterfaceLine at h
  dsimp only at h
  split at h
  · cases h
  · split at h
    · cases h
    · obtain ⟨speed, -, hrecord⟩ := Outcomes.map_ok h
      cases hrecord
      exact names_part (by decide) (by decide)

theorem names_readVlanLine {line : String}
    (h : CiscoInventoryParser.readVlanLine deviceId line = .ok (some r)) : Names deviceId r := by
  unfold CiscoInventoryParser.readVlanLine at h
  split at h
  · split at h
    · obtain ⟨n, -, hrecord⟩ := Outcomes.map_ok h
      cases hrecord
      exact names_part (by decide) (by decide)
    · cases h
  · cases h

theorem names_interfaceRecords {records : List ParsedRecord}
    (h : CiscoInventoryParser.readInterfaceRecords deviceId raw = .ok records) (hr : r ∈ records) :
    Names deviceId r := by
  obtain ⟨read, hread, hrecords⟩ := Outcomes.map_ok h
  subst hrecords
  split at hr
  · obtain ⟨row, -, rfl⟩ := List.mem_map.1 hr
    exact names_part (by decide) (by decide)
  · obtain ⟨found, hfound, hread⟩ := Outcomes.bind_ok hread
    cases hread
    obtain ⟨record, hmem, hrecord⟩ := List.mem_filterMap.1 hr
    obtain ⟨line, -, hline⟩ := Outcomes.exists_of_mem (Outcomes.mapM_ok_iff.1 hfound) hmem
    rw [id] at hrecord
    exact names_readInterfaceLine (hrecord ▸ hline)

theorem names_vlanRecords {records : List ParsedRecord}
    (h : CiscoInventoryParser.readVlanRecords deviceId raw = .ok records) (hr : r ∈ records) :
    Names deviceId r := by
  obtain ⟨read, hread, hrecords⟩ := Outcomes.map_ok h
  subst hrecords
  split at hr
  · obtain ⟨row, -, hsnmp⟩ := List.mem_filterMap.1 hr
    unfold CiscoInventoryParser.snmpVlan at hsnmp
    split at hsnmp
    · cases hsnmp
    · cases hsnmp
      exact names_part (by decide) (by decide)
  · obtain ⟨found, hfound, hread⟩ := Outcomes.map_ok hread
    subst hread
    obtain ⟨record, hmem, hrecord⟩ := List.mem_filterMap.1 hr
    obtain ⟨line, -, hline⟩ := Outcomes.exists_of_mem (Outcomes.mapM_ok_iff.1 hfound) hmem
    rw [id] at hrecord
    exact names_readVlanLine (hrecord ▸ hline)

theorem names_neighborLoop {protocol : String} {current : CiscoInventoryParser.Current}
    {lines : List String}
    (h : r ∈ CiscoInventoryParser.neighborLoop deviceId protocol current lines) :
    Names deviceId r := by
  induction lines generalizing current with
  | nil => cases h
  | cons line lines ih =>
    unfold CiscoInventoryParser.neighborLoop at h
    split at h
    · rcases List.mem_append.1 h with h | h
      · unfold CiscoInventoryParser.Current.record at h
        split at h
        · rw [List.mem_singleton.1 h]
          have hkind : "neighbor" ≠ "device" := by decide
          exact ⟨hkind, rfl⟩
        · cases h
      · exact ih h
    · exact ih h

theorem names_powerRecord (h : r ∈ CiscoInventoryParser.powerRecord search deviceId raw) :
    Names deviceId r := by
  unfold CiscoInventoryParser.powerRecord at h
  dsimp only at h
  split at h
  · cases h
    exact names_part (by decide) (by decide)
  · split at h
    · cases h
    · cases h
      exact names_part (by decide) (by decide)

/-- The parser makes one device record, and all others name that device. -/
theorem parse_names {search : Search} {source : String} {raw : RawPayload} {result : ParserResult}
    (h : CiscoInventoryParser.parse search source raw = .ok result) :
    ∃ deviceId rest, deviceId = (CiscoInventoryParser.text (.str raw.identifier)).getD source ∧
      result.records =
        ⟨"device", CiscoInventoryParser.devicePayload search deviceId
          (CiscoInventoryParser.text (.str raw.address)) raw⟩ :: rest ∧
      ∀ r ∈ rest, Names deviceId r := by
  obtain ⟨interfaces, hinterfaces, h⟩ := Outcomes.bind_ok h
  obtain ⟨vlans, hvlans, h⟩ := Outcomes.bind_ok h
  cases h
  refine ⟨_, _, rfl, rfl, ?_⟩
  intro r hr
  rcases List.mem_append.1 hr with hr | hr
  · rcases List.mem_append.1 hr with hr | hr
    · rcases List.mem_append.1 hr with hr | hr
      · exact names_interfaceRecords (Outcomes.mapError_ok hinterfaces) hr
      · exact names_vlanRecords (Outcomes.mapError_ok hvlans) hr
    · rcases List.mem_append.1 hr with hr | hr
      · exact names_neighborLoop hr
      · exact names_neighborLoop hr
  · exact names_powerRecord (Option.mem_toList.1 hr)

end Records

/-! ## Executions -/

namespace DiscoveryExecutionService

variable {T F W : Type}

/-- `process_collector_payload`, for a collector of Cisco devices. -/
def processCollectorPayload (search : Search) (float : String → Option F)
    (clock : ParsedRecord → T) (capturedAt : T) (snapshotId : Nat)
    (target : DiscoveryTargetRecordView) (raw : RawPayload) :
    Except Exn (InventorySnapshot T F) := do
  let result ← CiscoInventoryParser.parse search target.identifier raw
  normalize float clock capturedAt snapshotId result

/-- A successful execution of a job for a target, over the single path or over a transport of the
chain: whom it calls with which context, what the device gave and the live snapshot it commits. -/
structure Committed (T : Type) (search : Search) (float : String → Option F)
    (m : ApplicationManager W) (target : DiscoveryTargetRecordView) where
  collectors : List (String × CiscoInventoryCollector)
  job : DiscoveryJobRecord
  profile : Option CredentialProfileRecord
  watch : Watch
  collector : CiscoInventoryCollector
  context : CollectorContext
  called : (collector.toCollector m.toTransportManager, context) ∈
    collectorCalls (ciscoRegistry m.toTransportManager collectors) job target profile watch
  platform : CiscoPlatformDefinition
  resolved : collector.resolvePlatform context = .ok platform
  selection : CiscoTransportSelection
  selected : CiscoInventoryCollector.selectTransport m.toTransportManager context platform =
    .ok selection
  facts : Facts
  clock : ParsedRecord → T
  capturedAt : T
  snapshotId : Nat
  snapshot : InventorySnapshot T F
  processed : processCollectorPayload search float clock capturedAt snapshotId target
    (rawPayload context platform selection facts) = .ok snapshot

variable {search : Search} {float : String → Option F} {m : ApplicationManager W}
  {target : DiscoveryTargetRecordView}

/-- The payload of an execution. -/
def Committed.raw (e : Committed T search float m target) : RawPayload :=
  rawPayload e.context e.platform e.selection e.facts

/-- The snapshot has the device under this id, with all that was parsed attached to it. -/
structure Committed.Holds (e : Committed T search float m target) (id : String)
    (d : DeviceSnapshot T F) : Prop where
  mem : d ∈ e.snapshot.devices
  deviceId : d.deviceId = id
  attached : Attached d
  complete : ∀ result, CiscoInventoryParser.parse search target.identifier e.raw = .ok result →
    ∀ r ∈ result.records, r.kind ≠ "device" → recordDevice r = id

/-- Two executions commit the device under the id that the target's own identifier gives, and
under one name. -/
def SameDevice (e e' : Committed T search float m target) : Prop :=
  ∃ d d', e.Holds (Text.strip target.identifier) d ∧ e'.Holds (Text.strip target.identifier) d' ∧
    d.name = d'.name

theorem context_cases (e : Committed T search float m target) :
    usesChain target = false ∧ e.context.target = collectorTarget target ∨
      usesChain target = true ∧ ∃ name, e.context.target = chainTarget target name := by
  have hcalled := e.called
  unfold collectorCalls at hcalled
  split at hcalled
  · rename_i hchain
    refine .inr ⟨hchain, ?_⟩
    split at hcalled
    · obtain ⟨config, hconfig, hcall⟩ := List.mem_map.1 hcalled
      obtain ⟨entry, _, hbuilt⟩ := List.mem_filterMap.1 hconfig
      obtain ⟨_, _, hcontext⟩ := chainConfig_some hbuilt
      have hsame : config.context = e.context := congrArg Prod.snd hcall
      refine ⟨entry.transportName, ?_⟩
      rw [← hsame, hcontext]
      rfl
    · cases hcalled
  · rename_i hchain
    refine .inl ⟨by simpa using hchain, ?_⟩
    split at hcalled
    · rename_i call hresolved
      rw [← List.mem_singleton.1 hcalled] at hresolved
      rw [(resolveCollector_ok hresolved).2]
      rfl
    · cases hcalled

/-- The one device of an execution: what its id is and what its name. -/
theorem committed_device (e : Committed T search float m target) :
    ∃ deviceId d,
      deviceId = (CiscoInventoryParser.text (.str e.context.target.identifier)).getD
        target.identifier ∧
      e.snapshot.devices = [d] ∧ Text.strip deviceId ≠ "" ∧ e.Holds (Text.strip deviceId) d ∧
      d.name = NormalizationMapper.textOr "" (CiscoInventoryParser.devicePayload search deviceId
        (CiscoInventoryParser.text (.str e.context.target.address)) e.raw) "name" := by
  obtain ⟨result, hparsed, hnormalized⟩ := Outcomes.bind_ok e.processed
  obtain ⟨deviceId, rest, hid, hrecords, hnames⟩ := parse_names hparsed
  obtain ⟨hsnapshot, hvalid⟩ := normalize_ok hnormalized
  have hone : e.snapshot.devices = [NormalizationMapper.device float e.clock result.records
      ⟨"device", CiscoInventoryParser.devicePayload search deviceId
        (CiscoInventoryParser.text (.str e.raw.address)) e.raw⟩] := by
    have hrest : rest.filter (fun r => r.kind = "device") = [] := by
      rw [List.filter_eq_nil_iff]
      intro r hr
      simpa using (hnames r hr).1
    have hdevices : e.snapshot.devices =
        (result.records.filter fun r => r.kind = "device").map
          (NormalizationMapper.device float e.clock result.records) := by
      rw [hsnapshot]
      rfl
    rw [hdevices, hrecords, List.filter_cons_of_pos (by simp), hrest]
    rfl
  rw [hone] at hvalid
  have hvisible := validateDevices_cons hvalid
  refine ⟨deviceId, _, hid, hone, ?_, ⟨?_, rfl, device_attached _ _, ?_⟩, rfl⟩
  · intro hblank
    apply hvisible
    have hdevice : (NormalizationMapper.device float e.clock result.records
        ⟨"device", CiscoInventoryParser.devicePayload search deviceId
          (CiscoInventoryParser.text (.str e.raw.address)) e.raw⟩).deviceId =
            Text.strip deviceId := rfl
    rw [hdevice, strip_strip]
    exact hblank
  · rw [hone]
    exact List.mem_singleton_self _
  · intro result' hparsed' r hr hkind
    rw [Except.ok.inj (hparsed'.symm.trans hparsed), hrecords] at hr
    rcases List.mem_cons.1 hr with rfl | hr
    · exact absurd rfl hkind
    · exact (hnames r hr).2

/-- The name that the parser finds does not depend on the id but where there is no other. -/
theorem name_devicePayload (deviceId : String) (address : Option String) (raw : RawPayload) :
    NormalizationMapper.textOr "" (CiscoInventoryParser.devicePayload search deviceId address raw)
      "name" =
        Text.strip (PyVal.ofOption (CiscoInventoryParser.hostname search deviceId raw)).text := rfl

/-- On the single path the id is the target's. -/
theorem single_deviceId {e : Committed T search float m target} {deviceId : String}
    (hsingle : e.context.target = collectorTarget target)
    (hid : deviceId = (CiscoInventoryParser.text (.str e.context.target.identifier)).getD
      target.identifier) (hvisible : Text.strip deviceId ≠ "") :
    deviceId = Text.strip target.identifier := by
  have hidentifier : e.context.target.identifier = target.identifier := by rw [hsingle]; rfl
  rw [hidentifier] at hid
  unfold CiscoInventoryParser.text PyVal.text at hid
  dsimp only at hid
  split at hid
  · rename_i hblank
    rw [hid] at hvisible
    exact absurd hblank hvisible
  · exact hid

/-- On the chain it is another. -/
theorem chain_deviceId {e : Committed T search float m target} {deviceId name : String}
    (hchain : e.context.target = chainTarget target name)
    (hid : deviceId = (CiscoInventoryParser.text (.str e.context.target.identifier)).getD
      target.identifier) : Text.strip deviceId ≠ Text.strip target.identifier := by
  have hidentifier : e.context.target.identifier = s!"{target.identifier}:{name}" := by
    rw [hchain]
    rfl
  have hvisible : Text.strip s!"{target.identifier}:{name}" ≠ "" := by
    intro hblank
    have hspace : Text.isSpace ':' = true := Text.isSpace_of_strip_eq_empty hblank (by
      have htext : s!"{target.identifier}:{name}" = target.identifier ++ ":" ++ name := rfl
      rw [htext, String.toList_append, String.toList_append]
      exact List.mem_append_left _ (List.mem_append_right _ (by decide)))
    exact absurd hspace (by decide)
  rw [hidentifier] at hid
  unfold CiscoInventoryParser.text PyVal.text at hid
  dsimp only at hid
  rw [if_neg hvisible, Option.getD_some] at hid
  rw [hid, strip_strip]
  exact strip_qualified target.identifier name

/-- Executions that get the same of the device commit it under the id of the target, with one
name, if and only if the target does not take the chain. -/
theorem same_device_iff (e e' : Committed T search float m target) (hfacts : e.facts = e'.facts) :
    SameDevice e e' ↔ usesChain target = false := by
  obtain ⟨deviceId, d, hid, hdevices, hvisible, hholds, hname⟩ := committed_device e
  obtain ⟨deviceId', d', hid', _, hvisible', hholds', hname'⟩ := committed_device e'
  constructor
  · rintro ⟨c, _, hc, _, _⟩
    rcases context_cases e with ⟨hsingle, _⟩ | ⟨_, name, htarget⟩
    · exact hsingle
    · have hcd : c = d := by
        have hmem := hc.mem
        rw [hdevices] at hmem
        exact List.mem_singleton.1 hmem
      have hsame : Text.strip deviceId = Text.strip target.identifier := by
        rw [← hholds.deviceId, ← hcd]
        exact hc.deviceId
      exact absurd hsame (chain_deviceId htarget hid)
  · intro hsingle
    have htarget : ∀ c : Committed T search float m target,
        c.context.target = collectorTarget target := by
      intro c
      rcases context_cases c with ⟨_, h⟩ | ⟨hchain, _⟩
      · exact h
      · rw [hsingle] at hchain
        cases hchain
    have hown := single_deviceId (htarget e) hid hvisible
    have hown' := single_deviceId (htarget e') hid' hvisible'
    rw [hown, strip_strip] at hholds
    rw [hown', strip_strip] at hholds'
    refine ⟨d, d', hholds, hholds', ?_⟩
    have hmetadata : e.raw.metadata = e'.raw.metadata := by
      have hraw : ∀ c : Committed T search float m target,
          c.raw.metadata = c.context.target.metadata := fun _ => rfl
      rw [hraw, hraw, htarget e, htarget e']
    have hhostname : CiscoInventoryParser.hostname search deviceId e.raw =
        CiscoInventoryParser.hostname search deviceId' e'.raw := by
      have hrawFacts : ∀ c : Committed T search float m target, c.raw.facts = c.facts :=
        fun _ => rfl
      unfold CiscoInventoryParser.hostname
      rw [hmetadata, hrawFacts, hrawFacts, hfacts, hown, hown']
    rw [hname, hname', name_devicePayload, name_devicePayload, hhostname]

/-! ### A switch on the chain -/

/-- What the regular expressions find in an empty output. -/
def noMatch : Search := fun _ _ => none

def noFloat : String → Option Nat := fun _ => none

/-- The switch over HTTP, which says nothing. -/
def httpxCommitted (snapshotId : Nat) :
    Committed Nat noMatch noFloat steadyApplication httpxTarget.view where
  collectors := httpxCollectors
  job := httpxJob
  profile := none
  watch := httpxWatch
  collector := httpxCollector
  context := httpxContext
  called := by
    rw [httpxTarget_calls]
    exact List.mem_singleton_self _
  platform := catalyst2960x
  resolved := httpxCollector_platform
  selection := ⟨.http, "httpx"⟩
  selected := rfl
  facts := .http []
  clock _ := 0
  capturedAt := 0
  snapshotId := snapshotId
  snapshot := _
  processed := rfl

theorem same_device_iff_httpx :
    SameDevice (httpxCommitted 1) (httpxCommitted 2) ↔ usesChain httpxTarget.view = false :=
  same_device_iff (httpxCommitted 1) (httpxCommitted 2) rfl

/-- A switch of another family that may be reached over Telnet when SSH fails. -/
def telnetTarget : DiscoveryTargetRecord :=
  { httpxTarget with
    platformHint := none
    preferredTransport := none
    allowedFallbackTransports := ["telnet"]
    allowInsecureTelnet := true }

theorem telnetTarget_platform :
    httpxCollector.resolvePlatform
      (buildContext httpxJob (chainTarget telnetTarget.view "telnet")) = .ok catalyst2960 := by
  have hfamily : httpxCollector.requestedFamily
      (buildContext httpxJob (chainTarget telnetTarget.view "telnet")) = "catalyst-2960" := by
    decide
  have hcanonical : canonicalizeFamily "catalyst-2960" = "catalyst-2960" := by decide
  have hplatform : httpxCollector.familyPlatform "catalyst-2960" = some catalyst2960 := by
    rw [CiscoInventoryCollector.familyPlatform, if_neg (by decide), hcanonical]
    rfl
  simp only [CiscoInventoryCollector.resolvePlatform, hfamily, hplatform, Option.orElse_eq_orElse,
    Option.orElse_some]

/-- It is reached over Telnet, and has a VLAN. -/
def telnetCommitted : Committed Nat noMatch noFloat steadyApplication telnetTarget.view where
  collectors := httpxCollectors
  job := httpxJob
  profile := none
  watch := httpxWatch
  collector := httpxCollector
  context := buildContext httpxJob (chainTarget telnetTarget.view "telnet")
  called := List.mem_cons_of_mem _ List.mem_cons_self
  platform := catalyst2960
  resolved := telnetTarget_platform
  selection := ⟨.telnet, "telnet"⟩
  selected := rfl
  facts := .commands [("show vlan brief", "10 office active")]
  clock _ := 0
  capturedAt := 0
  snapshotId := 1
  snapshot := _
  processed := rfl

/-- Its device is `switch-01:telnet`. -/
theorem device_is_another :
    ¬∀ (search : Search) (float : String → Option Nat) (m : ApplicationManager Unit)
      (target : DiscoveryTargetRecordView) (e e' : Committed Nat search float m target),
      e.facts = e'.facts → SameDevice e e' := by
  intro h
  obtain ⟨d, _, hd, _⟩ := h noMatch noFloat steadyApplication telnetTarget.view telnetCommitted
    telnetCommitted rfl
  have hmem := hd.mem
  have hid := hd.deviceId
  have hdevices : telnetCommitted.snapshot.devices.map (·.deviceId) = ["switch-01:telnet"] := by
    decide
  have hother : d.deviceId ∈ telnetCommitted.snapshot.devices.map (·.deviceId) :=
    List.mem_map_of_mem hmem
  rw [hdevices, List.mem_singleton, hid] at hother
  exact absurd hother (by decide)

end DiscoveryExecutionService
end Discovery
end NetOps
