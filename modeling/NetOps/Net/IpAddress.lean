import Mathlib.Algebra.Group.Nat.Defs
import Mathlib.Data.List.Basic

/-!
# Net.IpAddress

Python's `ipaddress`: addresses of both versions by their integer, their text forms, and the
hosts of a network. Texts are lists of characters until they are printed.

* `ipAddress`: `ip_address(text)`.
* `IpAddress.text`: `str(address)`.
* `ipNetwork`, `IpNetwork.hosts`: `ip_network(text, strict=False).hosts()`, as its first address
  and its length, so that nothing is enumerated to count it.
-/

namespace Net

inductive IpVersion where
  | v4
  | v6
  deriving DecidableEq

def IpVersion.bits : IpVersion → Nat
  | v4 => 32
  | v6 => 128

structure IpAddress where
  version : IpVersion
  value : Nat
  deriving DecidableEq

/-! ## Reading addresses -/

def digitValue (c : Char) : Option Nat :=
  if c.isDigit then some (c.toNat - '0'.toNat) else none

def hexValue (c : Char) : Option Nat :=
  if c.isDigit then some (c.toNat - '0'.toNat)
  else if 'a' ≤ c ∧ c ≤ 'f' then some (c.toNat - 'a'.toNat + 10)
  else if 'A' ≤ c ∧ c ≤ 'F' then some (c.toNat - 'A'.toNat + 10)
  else none

/-- A non-empty numeral in the given base. -/
def numeral (base : Nat) (value : Char → Option Nat) : List Char → Option Nat
  | [] => none
  | cs => (cs.mapM value).map fun ds => ds.foldl (fun n d => n * base + d) 0

/-- `_parse_octet`: at most three digits, no leading zero, at most 255. -/
def parseOctet (cs : List Char) : Option Nat :=
  if cs.length > 3 ∨ (cs.length > 1 ∧ cs.head? = some '0') then none
  else (numeral 10 digitValue cs).filter (· ≤ 255)

/-- `IPv4Address._ip_int_from_string`. -/
def parseIPv4 (cs : List Char) : Option Nat :=
  match (cs.splitOn '.').mapM parseOctet with
  | some [a, b, c, d] => some (((a * 256 + b) * 256 + c) * 256 + d)
  | _ => none

/-- `_parse_hextet`. -/
def parseHextet (cs : List Char) : Option Nat :=
  if cs.length > 4 then none else numeral 16 hexValue cs

/-- The positions of empty parts other than the first and the last. -/
def innerGaps (parts : List (List Char)) : List Nat :=
  (List.range parts.length).filter fun i =>
    decide (0 < i ∧ i + 1 < parts.length) && (parts[i]?.any List.isEmpty)

def hextets (parts : List (List Char)) : Option Nat :=
  (parts.mapM parseHextet).map fun hs => hs.foldl (fun n h => n * 65536 + h) 0

/-- The parts of an IPv6 text, with a dotted last part as two hextets. -/
def ipv6Parts (cs : List Char) : Option (List (List Char)) :=
  let parts := cs.splitOn ':'
  match parts.getLast? with
  | some last =>
    if '.' ∈ last then
      (parseIPv4 last).map fun n =>
        parts.dropLast ++ [Nat.toDigits 16 (n / 65536), Nat.toDigits 16 (n % 65536)]
    else some parts
  | none => none

/-- `IPv6Address._ip_int_from_string`. -/
def parseIPv6 (cs : List Char) : Option Nat := do
  if (cs.splitOn ':').length < 3 then none
  let parts ← ipv6Parts cs
  if parts.length > 9 then none
  match innerGaps parts with
  | [] =>
    if parts.length = 8 then hextets parts else none
  | [gap] =>
    let hi := parts.take gap
    let lo := parts.drop (gap + 1)
    -- an empty first or last part is allowed only next to the gap
    let hi ← if hi.head? = some [] then (if hi.length = 1 then some [] else none) else some hi
    let lo ← if lo.getLast? = some [] then (if lo.length = 1 then some [] else none) else some lo
    if hi.length + lo.length ≥ 8 then none
    let h ← hextets hi
    let l ← hextets lo
    some (h * 65536 ^ (8 - hi.length) + l)
  | _ => none

/-- `_split_scope_id`: the text before a scope id. -/
def splitScopeId (cs : List Char) : Option (List Char) :=
  match cs.splitOn '%' with
  | [addr] => some addr
  | [addr, scope] => if scope = [] then none else some addr
  | _ => none

/-- The scope id, if any. -/
def scopeIdOf (cs : List Char) : List Char :=
  match cs.splitOn '%' with
  | [_, scope] => scope
  | _ => []

def ipAddressOf (cs : List Char) : Option IpAddress :=
  match parseIPv4 cs with
  | some n => some ⟨.v4, n⟩
  | none => ((splitScopeId cs).bind parseIPv6).map fun n => ⟨.v6, n⟩

/-- `ip_address(text)`; `none` is a `ValueError`. -/
def ipAddress (text : String) : Option IpAddress :=
  if '/' ∈ text.toList then none else ipAddressOf text.toList

/-! ## Printing addresses -/

def joinWith (sep : List Char) : List (List Char) → List Char
  | [] => []
  | [p] => p
  | p :: ps => p ++ sep ++ joinWith sep ps

/-- The length of the run of zeros a list starts with. -/
def zeroRun : List Nat → Nat
  | 0 :: hs => zeroRun hs + 1
  | _ => 0

/-- The first longest run of zeros, as its position and length. -/
def bestRun (hs : List Nat) : Nat × Nat :=
  (List.range hs.length).foldl
    (fun best i => let n := zeroRun (hs.drop i); if best.2 < n then (i, n) else best) (0, 0)

/-- `_compress_hextets`. -/
def compress (hs : List Nat) : List Char :=
  let hex := hs.map (Nat.toDigits 16)
  let (i, n) := bestRun hs
  if n > 1 then joinWith [':'] (hex.take i) ++ [':', ':'] ++ joinWith [':'] (hex.drop (i + n))
  else joinWith [':'] hex

/-- The digits of `n` in base `b`, `k` of them. -/
def digitsOf (b : Nat) : Nat → Nat → List Nat
  | 0, _ => []
  | k + 1, n => digitsOf b k (n / b) ++ [n % b]

/-- `str(address)`. -/
def IpAddress.text (a : IpAddress) : String :=
  String.ofList <| match a.version with
    | .v4 => joinWith ['.'] ((digitsOf 256 4 a.value).map (Nat.toDigits 10))
    | .v6 => compress (digitsOf 65536 8 a.value)

/-! ## Networks -/

structure IpNetwork where
  address : IpAddress
  prefixlen : Nat
  scopeId : List Char

/-- `_prefix_from_ip_string`: a netmask, else a host mask. -/
def prefixOfMask (n : Nat) : Option Nat :=
  ((List.range 33).find? fun p => n == 2 ^ 32 - 2 ^ (32 - p)) <|>
    (List.range 33).find? fun p => n == 2 ^ (32 - p) - 1

/-- `_make_netmask`; `int` takes at most 4300 digits. -/
def parsePrefix (v : IpVersion) (cs : List Char) : Option Nat :=
  match if cs.length ≤ 4300 then numeral 10 digitValue cs else none with
  | some p => if p ≤ v.bits then some p else none
  | none => if v = .v4 then (parseIPv4 cs).bind prefixOfMask else none

/-- `ip_network(text, strict=False)`; `none` is a `ValueError`. -/
def ipNetwork (text : String) : Option IpNetwork :=
  match text.toList.splitOn '/' with
  | [addr] => (ipAddressOf addr).map fun a => ⟨a, a.version.bits, scopeIdOf addr⟩
  | [addr, mask] => (ipAddressOf addr).bind fun a =>
    (parsePrefix a.version mask).map fun p => ⟨a, p, scopeIdOf addr⟩
  | _ => none

namespace IpNetwork

def hostBits (n : IpNetwork) : Nat := n.address.version.bits - n.prefixlen

/-- The network address: the host bits cleared. -/
def first (n : IpNetwork) : Nat := n.address.value / 2 ^ n.hostBits * 2 ^ n.hostBits

/-- The first host and the number of hosts: the network address is left out, and for version 4
the broadcast address too, unless the network has one or two addresses. -/
def hosts (n : IpNetwork) : Nat × Nat :=
  if n.hostBits = 0 then (n.address.value, 1)
  else if n.hostBits = 1 then (n.first, 2)
  else match n.address.version with
    | .v4 => (n.first + 1, 2 ^ n.hostBits - 2)
    | .v6 => (n.first + 1, 2 ^ n.hostBits - 1)

/-- What `str` has after a host: the scope id of the text is kept by a network of one address. -/
def suffix (n : IpNetwork) : String :=
  if n.hostBits = 0 ∧ n.scopeId ≠ [] then String.ofList ('%' :: n.scopeId) else ""

/-- `address in network`. -/
def contains (n : IpNetwork) (a : IpAddress) : Bool :=
  a.version = n.address.version && a.value / 2 ^ n.hostBits * 2 ^ n.hostBits = n.first

end IpNetwork

example : (ipAddress "10.0.0.255").map IpAddress.text = some "10.0.0.255" := by decide
example : (ipAddress "2001:db8::1:0").map IpAddress.text = some "2001:db8::1:0" := by decide
example : (ipNetwork "192.168.4.77/30").map IpNetwork.hosts = some (3232236621, 2) := by decide

end Net
