import NetOps.Discovery.Contracts
import NetOps.Text

/-!
# Vendors.Cisco

The Cisco platforms (`vendors/cisco`): their definitions, the command and SNMP catalogs they all
share, and the registry that resolves a platform by family or detects it from hints.
-/

namespace NetOps
namespace Vendors
namespace Cisco

open Discovery (TransportCapability)
open Text

/-! ## Catalogs -/

inductive CiscoCapability where
  | ssh
  | snmp
  | http
  | configBackup
  | cdp
  | lldp
  | poe
  | vlan
  | macTable
  | interfaceInventory
  | neighborDiscovery
  deriving DecidableEq

inductive CommandCategory where
  | inventory
  | system
  | interfaces
  | vlans
  | macTable
  | arp
  | power
  | poe
  | neighbors
  | version
  | runningConfiguration
  | startupConfiguration
  | environment
  deriving DecidableEq

/-- `COMMON_COMMAND_CATALOG`. -/
def commonCommandCatalog : List (CommandCategory × List String) :=
  [(.inventory, ["show inventory"]),
    (.system, ["show version"]),
    (.interfaces, ["show interfaces status", "show interfaces counters"]),
    (.vlans, ["show vlan brief"]),
    (.macTable, ["show mac address-table"]),
    (.arp, ["show ip arp"]),
    (.power, ["show power inline"]),
    (.poe, ["show power inline"]),
    (.neighbors, ["show cdp neighbors detail", "show lldp neighbors detail"]),
    (.version, ["show version"]),
    (.runningConfiguration, ["show running-config"]),
    (.startupConfiguration, ["show startup-config"]),
    (.environment, ["show environment all"])]

inductive SnmpGroup where
  | inventory
  | system
  | interfaces
  | vlans
  | macTable
  | arp
  | power
  | poe
  | neighbors
  deriving DecidableEq

def SnmpGroup.value : SnmpGroup → String
  | inventory => "inventory"
  | system => "system"
  | interfaces => "interfaces"
  | vlans => "vlans"
  | macTable => "mac_table"
  | arp => "arp"
  | power => "power"
  | poe => "poe"
  | neighbors => "neighbors"

/-- `COMMON_SNMP_CATALOG`. -/
def commonSnmpCatalog : List (SnmpGroup × List String) :=
  [(.system, ["1.3.6.1.2.1.1"]),
    (.inventory, ["1.3.6.1.2.1.47"]),
    (.interfaces, ["1.3.6.1.2.1.2"]),
    (.vlans, ["1.3.6.1.2.1.17"]),
    (.macTable, ["1.3.6.1.2.1.17.4.3"]),
    (.arp, ["1.3.6.1.2.1.4.22"]),
    (.power, ["1.3.6.1.4.1.9.9.402"]),
    (.poe, ["1.3.6.1.4.1.9.9.402.1"]),
    (.neighbors, ["1.3.6.1.4.1.9.9.23"])]

/-- The entries of the first group of a key; none for an unknown key. -/
def catalogEntries {κ : Type} [DecidableEq κ] (catalog : List (κ × List String)) (key : κ) :
    List String :=
  ((catalog.find? fun e => e.1 = key).map (·.2)).getD []

/-- `COMMON_HTTP_CATALOG`: the paths, each asked with `GET`. -/
def commonHttpPaths : List String := ["/", "/status"]

/-! ## Platforms -/

/-- A platform definition; every one has the common catalogs. -/
structure CiscoPlatformDefinition where
  family : String
  modelNames : List String
  productIds : List String
  transportSupport : List TransportCapability
  parserFamily : String
  capabilities : List CiscoCapability
  platformStrings : List String
  sysObjectIds : List String
  httpBanners : List String

namespace CiscoPlatformDefinition

def matchesModel (p : CiscoPlatformDefinition) (value : String) : Bool :=
  (p.modelNames.map lower).contains (lower (strip value))

def matchesPid (p : CiscoPlatformDefinition) (value : String) : Bool :=
  (p.productIds.map lower).contains (lower (strip value))

def matchesPlatformString (p : CiscoPlatformDefinition) (value : String) : Bool :=
  hasAny (p.platformStrings.map lower) (lower (strip value))

def matchesSysObjectId (p : CiscoPlatformDefinition) (value : String) : Bool :=
  p.sysObjectIds.contains (strip value)

def matchesHttpBanner (p : CiscoPlatformDefinition) (value : String) : Bool :=
  hasAny (p.httpBanners.map lower) (lower (strip value))

end CiscoPlatformDefinition

def catalyst2960 : CiscoPlatformDefinition where
  family := "catalyst-2960"
  modelNames := ["WS-C2960-24TT-L", "WS-C2960-48TT-L"]
  productIds := ["WS-C2960-24TT-L", "WS-C2960-48TT-L"]
  transportSupport := [.ssh, .snmp, .telnet]
  parserFamily := "ios"
  capabilities := [.ssh, .snmp, .configBackup, .cdp, .lldp, .vlan, .macTable,
    .interfaceInventory, .neighborDiscovery]
  platformStrings := ["Cisco IOS Software", "WS-C2960"]
  sysObjectIds := ["1.3.6.1.4.1.9.1.516"]
  httpBanners := ["cisco ios"]

def catalyst2960x : CiscoPlatformDefinition where
  family := "catalyst-2960x"
  modelNames := ["WS-C2960X-24TS-L", "WS-C2960X-48FPS-L"]
  productIds := ["WS-C2960X-24TS-L", "WS-C2960X-48FPS-L"]
  transportSupport := [.ssh, .snmp, .http]
  parserFamily := "iosxe"
  capabilities := [.ssh, .snmp, .http, .configBackup, .cdp, .lldp, .vlan, .macTable,
    .interfaceInventory, .neighborDiscovery, .poe]
  platformStrings := ["Cisco IOS XE Software", "WS-C2960X"]
  sysObjectIds := ["1.3.6.1.4.1.9.1.1510"]
  httpBanners := ["cisco ios xe"]

def catalyst3560 : CiscoPlatformDefinition where
  family := "catalyst-3560"
  modelNames := ["WS-C3560-24PS-S", "WS-C3560-48PS-S"]
  productIds := ["WS-C3560-24PS-S", "WS-C3560-48PS-S"]
  transportSupport := [.ssh, .snmp]
  parserFamily := "ios"
  capabilities := [.ssh, .snmp, .configBackup, .cdp, .lldp, .vlan, .macTable,
    .interfaceInventory, .neighborDiscovery, .poe]
  platformStrings := ["Cisco IOS Software", "WS-C3560"]
  sysObjectIds := ["1.3.6.1.4.1.9.1.517"]
  httpBanners := ["cisco ios"]

def catalystExpress500 : CiscoPlatformDefinition where
  family := "catalyst-express-500"
  modelNames := ["WS-CE500-24TT", "WS-CE500-24LC"]
  productIds := ["WS-CE500-24TT", "WS-CE500-24LC"]
  transportSupport := [.http, .snmp]
  parserFamily := "ce500"
  capabilities := [.http, .snmp, .configBackup, .vlan, .macTable, .interfaceInventory,
    .neighborDiscovery, .poe]
  platformStrings := ["Cisco Catalyst Express 500", "WS-CE500"]
  sysObjectIds := ["1.3.6.1.4.1.9.1.748"]
  httpBanners := ["cisco catalyst express"]

def aironet1131 : CiscoPlatformDefinition where
  family := "aironet-1131"
  modelNames := ["AIR-AP1131AG-A-K9", "AIR-AP1131G-A-K9"]
  productIds := ["AIR-AP1131AG-A-K9", "AIR-AP1131G-A-K9"]
  transportSupport := [.snmp, .http]
  parserFamily := "aironet"
  capabilities := [.snmp, .http, .configBackup, .vlan, .interfaceInventory, .neighborDiscovery]
  platformStrings := ["Cisco Aironet", "AIR-AP1131"]
  sysObjectIds := ["1.3.6.1.4.1.9.1.928"]
  httpBanners := ["cisco aironet"]

/-! ## The registry -/

structure CiscoDetectionSignals where
  model : Option String := none
  productId : Option String := none
  platformString : Option String := none
  sysObjectId : Option String := none
  httpBanner : Option String := none

/-- `PUBLIC_PLATFORM_ALIASES`. -/
def publicPlatformAliases : List (String × String) :=
  [("cisco-ios", "catalyst-2960"),
    ("cisco-iosxe", "catalyst-2960x"),
    ("ios", "catalyst-2960"),
    ("iosxe", "catalyst-2960x"),
    ("cisco-ios-xe", "catalyst-2960x"),
    ("cisco-ios-x", "catalyst-2960x"),
    ("cisco-ios-xe-software", "catalyst-2960x"),
    ("cisco-ios-software", "catalyst-2960"),
    ("cisco-catalyst-2960", "catalyst-2960"),
    ("catalyst-2960", "catalyst-2960"),
    ("cisco-catalyst-2960x", "catalyst-2960x"),
    ("catalyst-2960x", "catalyst-2960x")]

def canonicalizeFamily (family : String) : String :=
  let normalized := replaceChar '_' '-' (lower (strip family))
  let normalized := stripChar '-' (joinSpaces '-' normalized)
  ((publicPlatformAliases.find? fun e => e.1 == normalized).map (·.2)).getD normalized

/-- The platforms in registration order, one a family. -/
structure CiscoPlatformRegistry where
  platforms : List CiscoPlatformDefinition

namespace CiscoPlatformRegistry

/-- `get`; `none` is a `KeyError`. -/
def get (registry : CiscoPlatformRegistry) (family : String) : Option CiscoPlatformDefinition :=
  registry.platforms.find? fun p => p.family == family

/-- `weight` if the signal is there and matches. -/
def signalScore (signal : Option String) (isMatch : String → Bool) (weight : Nat) : Nat :=
  if signal.any isMatch then weight else 0

def score (p : CiscoPlatformDefinition) (s : CiscoDetectionSignals) : Nat :=
  signalScore s.model p.matchesModel 5 + signalScore s.productId p.matchesPid 5 +
    signalScore s.platformString p.matchesPlatformString 4 +
    signalScore s.sysObjectId p.matchesSysObjectId 4 +
    signalScore s.httpBanner p.matchesHttpBanner 3

/-- The first platform with the best score, if any scores. -/
def detect (registry : CiscoPlatformRegistry) (signals : CiscoDetectionSignals) :
    Option CiscoPlatformDefinition :=
  (registry.platforms.foldl (fun (best : Option CiscoPlatformDefinition × Nat) p =>
    if best.2 < score p signals then (some p, score p signals) else best) (none, 0)).1

end CiscoPlatformRegistry

def defaultRegistry : CiscoPlatformRegistry :=
  ⟨[catalyst2960, catalyst2960x, catalyst3560, catalystExpress500, aironet1131]⟩

/-- Every family of the default registry is resolved by its own label. -/
example : defaultRegistry.platforms.all fun p =>
    ((defaultRegistry.get (canonicalizeFamily p.family)).map (·.family)) == some p.family := by
  decide

end Cisco
end Vendors
end NetOps
