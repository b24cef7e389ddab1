import NetOps.Joins
import NetOps.Net.IpAddress

/-!
# Net.Spellings

Texts that denote an address: an IP address with or without a prefix length, and a MAC address in
the formats of the vendors.

A renaming of characters that keeps the digits and the marks (`KeepsDigits`), such as that of
letters by lower case ones, keeps what a text denotes (`hostAddress_map`, `macAddress_map`), and a
text that denotes an address is of ASCII (`ascii_of_hostAddress`, `ascii_of_macAddress`).
-/

namespace Net

/-! ## Denoted addresses -/

/-- `ip_interface(text).ip`. An address with a scope id is that of a link, and of no host. -/
def hostAddress (text : String) : Option IpAddress :=
  if '%' ∈ text.toList then none else (ipNetwork text).map IpNetwork.address

/-- A way to write MAC addresses: groups of hexadecimal digits with a mark between them. -/
structure MacFormat where
  mark : Char
  groups : Nat
  digits : Nat

namespace MacFormat

def colon : MacFormat := ⟨':', 6, 2⟩
def hyphen : MacFormat := ⟨'-', 6, 2⟩
def dotted : MacFormat := ⟨'.', 3, 4⟩

def read (format : MacFormat) (cs : List Char) : Option Nat :=
  let parts := cs.splitOn format.mark
  if parts.length = format.groups ∧ ∀ p ∈ parts, p.length = format.digits then
    numeral 16 hexValue parts.flatten
  else none

end MacFormat

/-- The 48 bits of a MAC address, in any of the formats. -/
def macAddress (text : String) : Option Nat :=
  [MacFormat.colon, .hyphen, .dotted].findSome? (·.read text.toList)

example : hostAddress "2001:DB8::1/64" = hostAddress "2001:db8:0:0::1" := by decide
example : macAddress "0011.22AA.bbcc" = macAddress "00-11-22-aa-BB-CC" := by decide

/-! ## Renamed characters -/

/-- A renaming of characters that keeps the digits and the marks of addresses. -/
structure KeepsDigits (f : Char → Char) : Prop where
  digit : ∀ c, digitValue (f c) = digitValue c
  hex : ∀ c, hexValue (f c) = hexValue c
  mark : ∀ m ∈ ['.', ':', '/', '-', '%', '0'], ∀ c, f c = m ↔ c = m
  printed : ∀ d < 16, f (Nat.digitChar d) = Nat.digitChar d

variable {f : Char → Char}

theorem splitOn_map {sep : Char} (h : ∀ c, f c = sep ↔ c = sep) (cs : List Char) :
    (cs.map f).splitOn sep = (cs.splitOn sep).map (List.map f) := by
  induction cs with
  | nil => rfl
  | cons c cs ih =>
    rw [List.map_cons, List.splitOn_cons_eq_if_modifyHead, List.splitOn_cons_eq_if_modifyHead, ih]
    by_cases hc : c = sep
    · have hfc := (h c).2 hc
      simp only [hc, hc ▸ hfc, beq_self_eq_true, if_true, List.map_cons, List.map_nil]
    · have hfc := mt (h c).1 hc
      simp only [beq_iff_eq, hc, hfc, if_false]
      cases cs.splitOn sep <;> rfl

theorem mapM_map {α : Type} {value : Char → Option α} (h : ∀ c, value (f c) = value c)
    (cs : List Char) : (cs.map f).mapM value = cs.mapM value := by
  rw [List.mapM_map]
  congr 1
  exact funext h

theorem numeral_map {value : Char → Option Nat} (h : ∀ c, value (f c) = value c) (base : Nat)
    (cs : List Char) : numeral base value (cs.map f) = numeral base value cs := by
  cases cs with
  | nil => rfl
  | cons c cs =>
    have hmap := mapM_map h (c :: cs)
    rw [List.map_cons] at hmap ⊢
    unfold numeral
    dsimp only
    rw [hmap]

theorem mem_toDigits {base n : Nat} (hbase : 1 < base) {c : Char} (h : c ∈ Nat.toDigits base n) :
    ∃ d < base, c = Nat.digitChar d := by
  induction n using Nat.strongRecOn with
  | ind n ih =>
    rw [Nat.toDigits_eq_if hbase] at h
    split at h
    · rename_i hlt
      exact ⟨n, hlt, List.mem_singleton.1 h⟩
    · rename_i hge
      rcases List.mem_append.1 h with h | h
      · exact ih (n / base) (Nat.div_lt_self (by omega) hbase) h
      · exact ⟨n % base, Nat.mod_lt n (by omega), List.mem_singleton.1 h⟩

theorem parseOctet_map (hf : KeepsDigits f) (cs : List Char) :
    parseOctet (cs.map f) = parseOctet cs := by
  have hzero : (cs.map f).head? = some '0' ↔ cs.head? = some '0' := by
    cases cs with
    | nil => simp
    | cons c cs => simp [hf.mark '0' (by decide) c]
  unfold parseOctet
  rw [List.length_map, numeral_map hf.digit]
  simp only [hzero]

theorem parseIPv4_map (hf : KeepsDigits f) (cs : List Char) :
    parseIPv4 (cs.map f) = parseIPv4 cs := by
  unfold parseIPv4
  rw [splitOn_map (hf.mark '.' (by decide)), List.mapM_map]
  have hoctet : parseOctet ∘ List.map f = parseOctet := funext (parseOctet_map hf)
  rw [hoctet]

/-! ## Version 6 -/

/-- The rest of `parseIPv6`: the parts read as hextets around at most one gap. -/
def readParts (parts : List (List Char)) : Option Nat := do
  if parts.length > 9 then none
  match innerGaps parts with
  | [] =>
    if parts.length = 8 then hextets parts else none
  | [gap] =>
    let hi := parts.take gap
    let lo := parts.drop (gap + 1)
    let hi ← if hi.head? = some [] then (if hi.length = 1 then some [] else none) else some hi
    let lo ← if lo.getLast? = some [] then (if lo.length = 1 then some [] else none) else some lo
    if hi.length + lo.length ≥ 8 then none
    let h ← hextets hi
    let l ← hextets lo
    some (h * 65536 ^ (8 - hi.length) + l)
  | _ => none

theorem parseIPv6_eq (cs : List Char) :
    parseIPv6 cs =
      if (cs.splitOn ':').length < 3 then none else (ipv6Parts cs).bind readParts := rfl

theorem parseHextet_map (hf : KeepsDigits f) (cs : List Char) :
    parseHextet (cs.map f) = parseHextet cs := by
  unfold parseHextet
  rw [List.length_map, numeral_map hf.hex]

theorem hextets_map (hf : KeepsDigits f) (parts : List (List Char)) :
    hextets (parts.map (List.map f)) = hextets parts := by
  unfold hextets
  have hhextet : parseHextet ∘ List.map f = parseHextet := funext (parseHextet_map hf)
  rw [List.mapM_map, hhextet]

theorem innerGaps_map (parts : List (List Char)) :
    innerGaps (parts.map (List.map f)) = innerGaps parts := by
  unfold innerGaps
  rw [List.length_map]
  refine List.filter_congr fun i _ => ?_
  rw [List.getElem?_map, Option.any_map]
  congr 2
  funext part
  cases part <;> rfl

theorem ipv6Parts_map (hf : KeepsDigits f) (cs : List Char) :
    ipv6Parts (cs.map f) = (ipv6Parts cs).map (List.map (List.map f)) := by
  have hprinted : ∀ n, (Nat.toDigits 16 n).map f = Nat.toDigits 16 n := by
    intro n
    refine (List.map_congr_left fun c hc => ?_).trans (List.map_id _)
    obtain ⟨d, hd, rfl⟩ := mem_toDigits (by decide) hc
    exact hf.printed d hd
  have hdot : ∀ part : List Char, '.' ∈ part.map f ↔ '.' ∈ part := by
    intro part
    simp only [List.mem_map, hf.mark '.' (by decide), exists_eq_right]
  unfold ipv6Parts
  rw [splitOn_map (hf.mark ':' (by decide))]
  dsimp only
  rw [List.getLast?_map]
  cases (cs.splitOn ':').getLast? with
  | none => rfl
  | some last =>
    simp only [Option.map_some, hdot, parseIPv4_map hf]
    split
    · cases parseIPv4 last with
      | none => rfl
      | some n => simp [List.map_dropLast, hprinted]
    · rfl

theorem readParts_map (hf : KeepsDigits f) (parts : List (List Char)) :
    readParts (parts.map (List.map f)) = readParts parts := by
  have hempty : ∀ ps : List (List Char), (ps.map (List.map f)).head? = some [] ↔
      ps.head? = some [] := by
    intro ps
    cases ps <;> simp
  have hlast : ∀ ps : List (List Char), (ps.map (List.map f)).getLast? = some [] ↔
      ps.getLast? = some [] := by
    intro ps
    rw [List.getLast?_map]
    cases ps.getLast? <;> simp
  unfold readParts
  simp only [innerGaps_map, List.length_map, hextets_map hf, ← List.map_take, ← List.map_drop,
    hempty, hlast, Option.bind_eq_bind, Option.bind_some]

theorem parseIPv6_map (hf : KeepsDigits f) (cs : List Char) :
    parseIPv6 (cs.map f) = parseIPv6 cs := by
  rw [parseIPv6_eq, parseIPv6_eq, splitOn_map (hf.mark ':' (by decide)), List.length_map,
    ipv6Parts_map hf]
  cases ipv6Parts cs with
  | none => rfl
  | some parts => simp only [Option.map_some, Option.bind_some, readParts_map hf]

/-! ## Both formats -/

theorem ipAddressOf_map (hf : KeepsDigits f) (cs : List Char) :
    ipAddressOf (cs.map f) = ipAddressOf cs := by
  have hscope : splitScopeId (cs.map f) = (splitScopeId cs).map (List.map f) := by
    unfold splitScopeId
    rw [splitOn_map (hf.mark '%' (by decide))]
    rcases cs.splitOn '%' with _ | ⟨addr, _ | ⟨scope, _ | ⟨next, rest⟩⟩⟩
    · rfl
    · rfl
    · cases scope <;> rfl
    · rfl
  unfold ipAddressOf
  rw [parseIPv4_map hf, hscope]
  cases splitScopeId cs with
  | none => rfl
  | some addr => simp only [Option.map_some, Option.bind_some, parseIPv6_map hf]

theorem parsePrefix_map (hf : KeepsDigits f) (v : IpVersion) (cs : List Char) :
    parsePrefix v (cs.map f) = parsePrefix v cs := by
  unfold parsePrefix
  rw [numeral_map hf.digit, parseIPv4_map hf, List.length_map]

theorem hostAddress_map (hf : KeepsDigits f) (text : String) :
    hostAddress (String.ofList (text.toList.map f)) = hostAddress text := by
  have hscope : '%' ∈ text.toList.map f ↔ '%' ∈ text.toList := by
    simp only [List.mem_map, hf.mark '%' (by decide), exists_eq_right]
  unfold hostAddress ipNetwork
  rw [String.toList_ofList, splitOn_map (hf.mark '/' (by decide))]
  simp only [hscope]
  rcases text.toList.splitOn '/' with _ | ⟨addr, _ | ⟨mask, _ | ⟨next, rest⟩⟩⟩
  · rfl
  · simp only [List.map_cons, List.map_nil, ipAddressOf_map hf, Option.map_map, Function.comp_def]
  · simp only [List.map_cons, List.map_nil, ipAddressOf_map hf, parsePrefix_map hf,
      Option.map_bind, Option.map_map, Function.comp_def]
  · rfl

theorem macAddress_map (hf : KeepsDigits f) (text : String) :
    macAddress (String.ofList (text.toList.map f)) = macAddress text := by
  have hread : ∀ format : MacFormat, format.mark ∈ ['.', ':', '/', '-', '%', '0'] →
      format.read (text.toList.map f) = format.read text.toList := by
    intro format hmark
    unfold MacFormat.read
    rw [splitOn_map (hf.mark format.mark hmark)]
    simp only [List.length_map, List.forall_mem_map, ← List.map_flatten, numeral_map hf.hex]
  unfold macAddress
  rw [String.toList_ofList]
  simp only [List.findSome?_cons, List.findSome?_nil, hread .colon (by decide),
    hread .hyphen (by decide), hread .dotted (by decide)]

/-! ## The characters of an address -/

/-- Texts of ASCII. -/
def Ascii (cs : List Char) : Prop := ∀ c ∈ cs, c.toNat < 128

theorem ascii_nil : Ascii [] := by
  intro c hc
  cases hc

theorem ascii_of_splitOn {sep : Char} (hsep : sep.toNat < 128) {cs : List Char}
    (h : ∀ part ∈ cs.splitOn sep, Ascii part) : Ascii cs := by
  intro c hc
  rcases Joins.mem_splitOn_of_mem sep hc with rfl | ⟨part, hpart, hc⟩
  · exact hsep
  · exact h part hpart c hc

theorem digitValue_ascii {c : Char} {d : Nat} (h : digitValue c = some d) : c.toNat < 128 := by
  unfold digitValue at h
  split at h
  · rename_i hdigit
    have hle := (Char.isDigit_iff_toNat.1 hdigit).2
    simp only [Char.reduceToNat] at hle
    omega
  · cases h

/-- The hexadecimal digits. -/
theorem hexValue_cases {c : Char} {d : Nat} (h : hexValue c = some d) :
    48 ≤ c.toNat ∧ c.toNat ≤ 57 ∧ d + 48 = c.toNat ∨
      97 ≤ c.toNat ∧ c.toNat ≤ 102 ∧ d + 87 = c.toNat ∨
        65 ≤ c.toNat ∧ c.toNat ≤ 70 ∧ d + 55 = c.toNat := by
  unfold hexValue at h
  split at h
  · rename_i hdigit
    have hrange := Char.isDigit_iff_toNat.1 hdigit
    simp only [Char.reduceToNat] at hrange
    cases h
    simp only [Char.reduceToNat]
    omega
  · split at h
    · rename_i hletter
      have hge : 'a'.toNat ≤ c.toNat := hletter.1
      have hle : c.toNat ≤ 'f'.toNat := hletter.2
      simp only [Char.reduceToNat] at hge hle
      cases h
      simp only [Char.reduceToNat]
      omega
    · split at h
      · rename_i hletter
        have hge : 'A'.toNat ≤ c.toNat := hletter.1
        have hle : c.toNat ≤ 'F'.toNat := hletter.2
        simp only [Char.reduceToNat] at hge hle
        cases h
        simp only [Char.reduceToNat]
        omega
      · cases h

theorem hexValue_ascii {c : Char} {d : Nat} (h : hexValue c = some d) : c.toNat < 128 := by
  have hcases := hexValue_cases h
  omega

theorem some_of_mapM {α β : Type} {read : α → Option β} {xs : List α} {ys : List β}
    (h : xs.mapM read = some ys) : ∀ x ∈ xs, ∃ y, read x = some y := by
  induction xs generalizing ys with
  | nil =>
    intro x hx
    cases hx
  | cons x xs ih =>
    rw [List.mapM_cons] at h
    obtain ⟨y, hy, hrest⟩ := Option.bind_eq_some_iff.1 h
    obtain ⟨ys', hys, _⟩ := Option.bind_eq_some_iff.1 hrest
    exact List.forall_mem_cons.2 ⟨⟨y, hy⟩, ih hys⟩

theorem ascii_of_numeral {value : Char → Option Nat}
    (hvalue : ∀ {c d}, value c = some d → c.toNat < 128) {base n : Nat} {cs : List Char}
    (h : numeral base value cs = some n) : Ascii cs := by
  unfold numeral at h
  split at h
  · cases h
  · obtain ⟨ds, hds, _⟩ := Option.map_eq_some_iff.1 h
    intro c hc
    obtain ⟨d, hd⟩ := some_of_mapM hds c hc
    exact hvalue hd

theorem ascii_of_parseIPv4 {cs : List Char} {n : Nat} (h : parseIPv4 cs = some n) : Ascii cs := by
  unfold parseIPv4 at h
  split at h
  · rename_i hoctets
    have hdot : '.'.toNat < 128 := by decide
    refine ascii_of_splitOn hdot fun part hpart => ?_
    obtain ⟨octet, hoctet⟩ := some_of_mapM hoctets part hpart
    unfold parseOctet at hoctet
    split at hoctet
    · cases hoctet
    · exact ascii_of_numeral digitValue_ascii (Option.filter_eq_some_iff.1 hoctet).1
  · cases h

theorem ascii_of_parseHextet {cs : List Char} {n : Nat} (h : parseHextet cs = some n) :
    Ascii cs := by
  unfold parseHextet at h
  split at h
  · cases h
  · exact ascii_of_numeral hexValue_ascii h

theorem ascii_of_hextets {parts : List (List Char)} {n : Nat} (h : hextets parts = some n) :
    ∀ part ∈ parts, Ascii part := by
  intro part hpart
  obtain ⟨hs, hhs, _⟩ := Option.map_eq_some_iff.1 h
  obtain ⟨hextet, hhextet⟩ := some_of_mapM hhs part hpart
  exact ascii_of_parseHextet hhextet

/-- At a gap there is nothing. -/
theorem empty_of_innerGaps {parts : List (List Char)} {gap : Nat} {gaps : List Nat}
    (h : innerGaps parts = gap :: gaps) : parts[gap]? = some [] := by
  have hmem : gap ∈ innerGaps parts := by
    rw [h]
    exact List.mem_cons_self
  have hempty := (List.mem_filter.1 hmem).2
  rw [Bool.and_eq_true, Option.any_eq_true] at hempty
  obtain ⟨part, hpart, hnil⟩ := hempty.2
  rw [hpart, List.isEmpty_iff.1 hnil]

/-- An edge of a gap is read, or is the empty text before or after it. -/
def Edge (parts : List (List Char)) : Prop := parts = [[]] ∨ ∃ n, hextets parts = some n

theorem ascii_of_edge {parts : List (List Char)} (h : Edge parts) : ∀ part ∈ parts, Ascii part := by
  rcases h with rfl | ⟨n, hn⟩
  · intro part hpart
    rw [List.mem_singleton.1 hpart]
    exact ascii_nil
  · exact ascii_of_hextets hn

theorem single_of_head {parts : List (List Char)} (hhead : parts.head? = some [])
    (hlength : parts.length = 1) : parts = [[]] := by
  obtain ⟨part, rfl⟩ := List.length_eq_one_iff.1 hlength
  simpa using hhead

theorem single_of_last {parts : List (List Char)} (hlast : parts.getLast? = some [])
    (hlength : parts.length = 1) : parts = [[]] := by
  obtain ⟨part, rfl⟩ := List.length_eq_one_iff.1 hlength
  simpa using hlast

/-- The two sides of a gap. -/
def readSides (hi lo : List (List Char)) : Option Nat := do
  if hi.length + lo.length ≥ 8 then none
  let h ← hextets hi
  let l ← hextets lo
  some (h * 65536 ^ (8 - hi.length) + l)

theorem readSides_eq_some {hi lo : List (List Char)} {n : Nat} (h : readSides hi lo = some n) :
    hi.length + lo.length < 8 ∧ ∃ x y, hextets hi = some x ∧ hextets lo = some y ∧
      n = x * 65536 ^ (8 - hi.length) + y := by
  unfold readSides at h
  split at h
  · cases h
  · rename_i hlength
    obtain ⟨x, hx, hrest⟩ := Option.bind_eq_some_iff.1 h
    obtain ⟨y, hy, heq⟩ := Option.bind_eq_some_iff.1 hrest
    cases heq
    exact ⟨by omega, x, y, hx, hy, rfl⟩

/-- A side is read as it stands; a single empty part is no hextet. -/
def Side (parts side : List (List Char)) : Prop := side = parts ∨ parts = [[]] ∧ side = []

theorem edge_of_side {parts side : List (List Char)} {x : Nat} (hside : Side parts side)
    (hx : hextets side = some x) : Edge parts := by
  rcases hside with rfl | ⟨rfl, -⟩
  · exact .inr ⟨x, hx⟩
  · exact .inl rfl

/-- The last part may be empty when it is the only one after the gap. -/
theorem side_of_last {hi lo : List (List Char)} {n : Nat}
    (h : (do
      let lo ← if lo.getLast? = some [] then (if lo.length = 1 then some [] else none) else some lo
      if hi.length + lo.length ≥ 8 then none
      let h ← hextets hi
      let l ← hextets lo
      some (h * 65536 ^ (8 - hi.length) + l)) = some n) :
    ∃ side, Side lo side ∧ readSides hi side = some n := by
  by_cases hlast : lo.getLast? = some []
  · by_cases hlength : lo.length = 1
    · simp only [hlast, hlength, if_true] at h
      exact ⟨[], .inr ⟨single_of_last hlast hlength, rfl⟩, h⟩
    · simp [hlast, hlength] at h
  · simp only [hlast, if_false] at h
    exact ⟨lo, .inl rfl, h⟩

/-- Parts that are read are eight hextets, or have a gap and two sides. -/
theorem readParts_cases {parts : List (List Char)} {n : Nat} (h : readParts parts = some n) :
    parts.length = 8 ∧ hextets parts = some n ∨ ∃ gap hi lo, innerGaps parts = [gap] ∧
      Side (parts.take gap) hi ∧ Side (parts.drop (gap + 1)) lo ∧ readSides hi lo = some n := by
  unfold readParts at h
  by_cases hlong : parts.length > 9
  · simp [hlong] at h
  simp only [hlong, if_false] at h
  split at h
  · split at h
    · rename_i hlength
      exact .inl ⟨hlength, h⟩
    · cases h
  · rename_i gap hgap
    refine .inr ⟨gap, ?_⟩
    generalize parts.take gap = hi at h ⊢
    generalize parts.drop (gap + 1) = lo at h ⊢
    by_cases hhead : hi.head? = some []
    · by_cases hlength : hi.length = 1
      · simp only [hhead, hlength, if_true] at h
        obtain ⟨side, hside, hread⟩ := @side_of_last [] lo n h
        exact ⟨[], side, hgap, .inr ⟨single_of_head hhead hlength, rfl⟩, hside, hread⟩
      · simp [hhead, hlength] at h
    · simp only [hhead, if_false] at h
      obtain ⟨side, hside, hread⟩ := side_of_last h
      exact ⟨hi, side, hgap, .inl rfl, hside, hread⟩
  · cases h

/-- Parts that are read have a gap and two edges, or are hextets. -/
theorem edges_of_readParts {parts : List (List Char)} {n : Nat} (h : readParts parts = some n) :
    Edge parts ∨ ∃ gap, parts[gap]? = some [] ∧ Edge (parts.take gap) ∧
      Edge (parts.drop (gap + 1)) := by
  rcases readParts_cases h with ⟨-, hread⟩ | ⟨gap, hi, lo, hgap, hhi, hlo, hread⟩
  · exact .inl (.inr ⟨n, hread⟩)
  · obtain ⟨-, x, y, hx, hy, -⟩ := readSides_eq_some hread
    exact .inr ⟨gap, empty_of_innerGaps hgap, edge_of_side hhi hx, edge_of_side hlo hy⟩

theorem ascii_of_readParts {parts : List (List Char)} {n : Nat} (h : readParts parts = some n) :
    ∀ part ∈ parts, Ascii part := by
  rcases edges_of_readParts h with hedge | ⟨gap, hgap, hhi, hlo⟩
  · exact ascii_of_edge hedge
  · intro part hpart
    obtain ⟨i, hi⟩ := List.mem_iff_getElem?.1 hpart
    rcases Nat.lt_trichotomy i gap with hlt | rfl | hgt
    · refine ascii_of_edge hhi part (List.mem_iff_getElem?.2 ⟨i, ?_⟩)
      rw [List.getElem?_take_of_lt hlt, hi]
    · rw [hgap, Option.some.injEq] at hi
      rw [← hi]
      exact ascii_nil
    · refine ascii_of_edge hlo part (List.mem_iff_getElem?.2 ⟨i - (gap + 1), ?_⟩)
      rw [List.getElem?_drop, Nat.add_sub_cancel' hgt, hi]

theorem ascii_of_parseIPv6 {cs : List Char} {n : Nat} (h : parseIPv6 cs = some n) : Ascii cs := by
  have hcolon : ':'.toNat < 128 := by decide
  rw [parseIPv6_eq] at h
  split at h
  · cases h
  · obtain ⟨parts, hparts, hread⟩ := Option.bind_eq_some_iff.1 h
    have hascii := ascii_of_readParts hread
    refine ascii_of_splitOn hcolon fun part hpart => ?_
    unfold ipv6Parts at hparts
    dsimp only at hparts
    split at hparts
    · rename_i last hlast
      split at hparts
      · obtain ⟨v4, hv4, rfl⟩ := Option.map_eq_some_iff.1 hparts
        -- the last part is dotted, and none of those read
        rw [← List.dropLast_append_getLast? last hlast, List.mem_append,
          List.mem_singleton] at hpart
        rcases hpart with hpart | rfl
        · exact hascii part (List.mem_append_left _ hpart)
        · exact ascii_of_parseIPv4 hv4
      · cases hparts
        exact hascii part hpart
    · cases hparts

theorem ascii_of_ipAddressOf {cs : List Char} {a : IpAddress} (hscope : '%' ∉ cs)
    (h : ipAddressOf cs = some a) : Ascii cs := by
  unfold ipAddressOf at h
  split at h
  · rename_i n hv4
    exact ascii_of_parseIPv4 hv4
  · obtain ⟨n, hv6, _⟩ := Option.map_eq_some_iff.1 h
    unfold splitScopeId at hv6
    rw [List.splitOn_eq_singleton hscope] at hv6
    exact ascii_of_parseIPv6 hv6

theorem ascii_of_parsePrefix {v : IpVersion} {cs : List Char} {n : Nat}
    (h : parsePrefix v cs = some n) : Ascii cs := by
  unfold parsePrefix at h
  split at h
  · rename_i p hp
    split at hp
    · exact ascii_of_numeral digitValue_ascii hp
    · cases hp
  · split at h
    · obtain ⟨mask, hmask, _⟩ := Option.bind_eq_some_iff.1 h
      exact ascii_of_parseIPv4 hmask
    · cases h

theorem ascii_of_hostAddress {text : String} {a : IpAddress} (h : hostAddress text = some a) :
    Ascii text.toList := by
  have hslash : '/'.toNat < 128 := by decide
  unfold hostAddress at h
  split at h
  · cases h
  · rename_i hscope
    have hscopes : ∀ part ∈ text.toList.splitOn '/', '%' ∉ part := by
      intro part hpart hmem
      exact hscope (Joins.mem_of_mem_splitOn hpart hmem)
    obtain ⟨network, hnetwork, _⟩ := Option.map_eq_some_iff.1 h
    refine ascii_of_splitOn hslash ?_
    unfold ipNetwork at hnetwork
    split at hnetwork
    · rename_i addr hsplit
      obtain ⟨a, ha, _⟩ := Option.map_eq_some_iff.1 hnetwork
      rw [hsplit] at hscopes ⊢
      rw [List.forall_mem_singleton] at hscopes ⊢
      exact ascii_of_ipAddressOf hscopes ha
    · rename_i addr mask hsplit
      obtain ⟨a, ha, hrest⟩ := Option.bind_eq_some_iff.1 hnetwork
      obtain ⟨p, hp, _⟩ := Option.map_eq_some_iff.1 hrest
      rw [hsplit] at hscopes ⊢
      rw [List.forall_mem_cons, List.forall_mem_singleton] at hscopes ⊢
      exact ⟨ascii_of_ipAddressOf hscopes.1 ha, ascii_of_parsePrefix hp⟩
    · cases hnetwork

theorem ascii_of_macAddress {text : String} {n : Nat} (h : macAddress text = some n) :
    Ascii text.toList := by
  obtain ⟨format, hformat, hread⟩ := List.exists_of_findSome?_eq_some h
  have hmark : format.mark.toNat < 128 := by
    simp only [List.mem_cons, List.not_mem_nil, or_false] at hformat
    rcases hformat with rfl | rfl | rfl <;> decide
  unfold MacFormat.read at hread
  dsimp only at hread
  split at hread
  · refine ascii_of_splitOn hmark fun part hpart c hc => ?_
    exact ascii_of_numeral hexValue_ascii hread c (List.mem_flatten.2 ⟨part, hpart, hc⟩)
  · cases hread

end Net
