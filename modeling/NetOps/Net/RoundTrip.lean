import Mathlib.Data.List.Nodup
import Mathlib.Tactic.Ring
import NetOps.Net.Spellings

/-!
# Net.RoundTrip

`ip_address` reads what `str` writes, and a value that is read fits in the bits of its version.

* `ipAddress_text`: the text of an address is read as the address, also with a scope id.
* `value_lt`: what `ipAddress` returns is in the address space.
-/

namespace Net

/-! ## Positional numerals -/

/-- The number of digits, the most significant one first. -/
def valueOf (b : Nat) (ds : List Nat) : Nat := ds.foldl (fun n d => n * b + d) 0

theorem foldl_digits (b n : Nat) (ds : List Nat) :
    ds.foldl (fun n d => n * b + d) n = n * b ^ ds.length + valueOf b ds := by
  unfold valueOf
  induction ds generalizing n with
  | nil => simp
  | cons d ds ih =>
    rw [List.foldl_cons, List.foldl_cons, ih (n * b + d), ih (0 * b + d), List.length_cons,
      Nat.pow_succ']
    ring

theorem valueOf_append (b : Nat) (xs ys : List Nat) :
    valueOf b (xs ++ ys) = valueOf b xs * b ^ ys.length + valueOf b ys := by
  rw [valueOf, List.foldl_append, foldl_digits]
  rfl

@[simp] theorem valueOf_singleton (b d : Nat) : valueOf b [d] = d := by simp [valueOf]

theorem valueOf_zeros (b n : Nat) : valueOf b (List.replicate n 0) = 0 := by
  induction n with
  | zero => rfl
  | succ n ih => rw [List.replicate_succ', valueOf_append, ih]; simp

theorem valueOf_lt {b : Nat} {ds : List Nat} (h : ∀ d ∈ ds, d < b) :
    valueOf b ds < b ^ ds.length := by
  induction ds with
  | nil => simp [valueOf]
  | cons d ds ih =>
    rw [List.forall_mem_cons] at h
    have hrest := ih h.2
    have hvalue : valueOf b (d :: ds) = d * b ^ ds.length + valueOf b ds := by
      simpa using valueOf_append b [d] ds
    calc valueOf b (d :: ds) < (d + 1) * b ^ ds.length := by rw [hvalue, Nat.succ_mul]; omega
      _ ≤ b * b ^ ds.length := Nat.mul_le_mul_right _ h.1
      _ = b ^ (d :: ds).length := by rw [List.length_cons, Nat.pow_succ']

@[simp] theorem length_digitsOf (b k n : Nat) : (digitsOf b k n).length = k := by
  induction k generalizing n with
  | zero => rfl
  | succ k ih => simp [digitsOf, ih]

theorem lt_of_mem_digitsOf {b k n d : Nat} (hb : 0 < b) (h : d ∈ digitsOf b k n) : d < b := by
  induction k generalizing n with
  | zero => simp [digitsOf] at h
  | succ k ih =>
    rw [digitsOf, List.mem_append, List.mem_singleton] at h
    rcases h with h | rfl
    · exact ih h
    · exact Nat.mod_lt n hb

theorem valueOf_digitsOf {b k n : Nat} (h : n < b ^ k) : valueOf b (digitsOf b k n) = n := by
  induction k generalizing n with
  | zero =>
    rw [Nat.pow_zero] at h
    simp only [digitsOf, valueOf, List.foldl_nil]
    omega
  | succ k ih =>
    have hrest : n / b < b ^ k := by
      refine Nat.div_lt_of_lt_mul ?_
      rwa [← Nat.pow_succ']
    rw [digitsOf, valueOf_append, ih hrest, valueOf_singleton, List.length_singleton, Nat.pow_one]
    exact Nat.div_add_mod' n b

/-! ## The digits of a number -/

theorem mapM_append_some {α β : Type} {read : α → Option β} {xs xs' : List α} {ys ys' : List β}
    (h : xs.mapM read = some ys) (h' : xs'.mapM read = some ys') :
    (xs ++ xs').mapM read = some (ys ++ ys') := by
  rw [List.mapM_append, h, h']
  rfl

theorem mapM_toDigits {base : Nat} {value : Char → Option Nat} (hbase : 1 < base)
    (hvalue : ∀ d < base, value d.digitChar = some d) (n : Nat) :
    ∃ ds, (Nat.toDigits base n).mapM value = some ds ∧ valueOf base ds = n := by
  induction n using Nat.strongRecOn with
  | ind n ih =>
    rw [Nat.toDigits_eq_if hbase]
    split
    · rename_i hsmall
      exact ⟨[n], by simp [hvalue n hsmall], valueOf_singleton base n⟩
    · rename_i hlarge
      obtain ⟨ds, hds, hn⟩ := ih (n / base) (Nat.div_lt_self (by omega) hbase)
      have hlast : [(n % base).digitChar].mapM value = some [n % base] := by
        simp [hvalue _ (Nat.mod_lt n (by omega))]
      refine ⟨ds ++ [n % base], mapM_append_some hds hlast, ?_⟩
      rw [valueOf_append, hn, valueOf_singleton, List.length_singleton, Nat.pow_one]
      exact Nat.div_add_mod' n base

theorem numeral_toDigits {base : Nat} {value : Char → Option Nat} (hbase : 1 < base)
    (hvalue : ∀ d < base, value d.digitChar = some d) (n : Nat) :
    numeral base value (Nat.toDigits base n) = some n := by
  obtain ⟨ds, hds, hn⟩ := mapM_toDigits hbase hvalue n
  unfold numeral
  split
  · rename_i hnil
    exact absurd hnil Nat.toDigits_ne_nil
  · rw [hds]
    exact congrArg some hn

theorem parseHextet_toDigits {n : Nat} (h : n < 65536) :
    parseHextet (Nat.toDigits 16 n) = some n := by
  have hlength : (Nat.toDigits 16 n).length ≤ 4 :=
    (Nat.length_toDigits_le_iff (by decide) (by decide)).2 h
  unfold parseHextet
  rw [if_neg (Nat.not_lt.2 hlength)]
  exact numeral_toDigits (by decide) (by decide) n

theorem parseOctet_toDigits : ∀ n < 256, parseOctet (Nat.toDigits 10 n) = some n := by
  decide +kernel

theorem mapM_map_some {α β : Type} {print : α → β} {read : β → Option α} {xs : List α}
    (h : ∀ x ∈ xs, read (print x) = some x) : (xs.map print).mapM read = some xs := by
  induction xs with
  | nil => rfl
  | cons x xs ih =>
    rw [List.forall_mem_cons] at h
    rw [List.map_cons, List.mapM_cons, h.1, ih h.2]
    rfl

theorem hextets_toDigits {hs : List Nat} (h : ∀ n ∈ hs, n < 65536) :
    hextets (hs.map (Nat.toDigits 16)) = some (valueOf 65536 hs) := by
  unfold hextets
  rw [mapM_map_some fun n hn => parseHextet_toDigits (h n hn)]
  rfl

/-! ## Joined parts -/

theorem joinWith_eq (sep : List Char) (parts : List (List Char)) :
    joinWith sep parts = sep.intercalate parts := by
  induction parts with
  | nil => rfl
  | cons part parts ih =>
    cases parts with
    | nil => simp [joinWith]
    | cons next rest =>
      rw [List.intercalate_cons_cons, ← ih, List.append_assoc]
      exact List.append_assoc part sep _

theorem splitOn_joinWith {sep : Char} {parts : List (List Char)} (hparts : parts ≠ [])
    (h : ∀ part ∈ parts, sep ∉ part) : (joinWith [sep] parts).splitOn sep = parts := by
  rw [joinWith_eq, Joins.splitOn_join hparts, Joins.pieces_of_plain h]

theorem joinWith_append {sep : List Char} {xs ys : List (List Char)} (hxs : xs ≠ [])
    (hys : ys ≠ []) : joinWith sep (xs ++ ys) = joinWith sep xs ++ sep ++ joinWith sep ys := by
  induction xs with
  | nil => exact absurd rfl hxs
  | cons x xs ih =>
    cases xs with
    | nil =>
      obtain ⟨y, ys, rfl⟩ := List.exists_cons_of_ne_nil hys
      rfl
    | cons next rest =>
      have hrest := ih (List.cons_ne_nil next rest)
      simp only [List.cons_append, joinWith, List.append_assoc] at hrest ⊢
      rw [hrest]

theorem not_mem_toDigits {c : Char} (h : ∀ d < 16, Nat.digitChar d ≠ c) (n : Nat) :
    c ∉ Nat.toDigits 16 n := by
  intro hmem
  obtain ⟨d, hd, rfl⟩ := mem_toDigits (by decide) hmem
  exact h d hd rfl

/-! ## Version 4 -/

theorem parseIPv4_text {n : Nat} (h : n < 2 ^ 32) :
    parseIPv4 (joinWith ['.'] ((digitsOf 256 4 n).map (Nat.toDigits 10))) = some n := by
  have hplain : ∀ part ∈ (digitsOf 256 4 n).map (Nat.toDigits 10), '.' ∉ part := by
    intro part hpart hdot
    obtain ⟨octet, _, rfl⟩ := List.mem_map.1 hpart
    exact absurd (Nat.isDigit_of_mem_toDigits (by decide) (by decide) hdot) (by decide)
  have hoctets : ((digitsOf 256 4 n).map (Nat.toDigits 10)).mapM parseOctet =
      some (digitsOf 256 4 n) :=
    mapM_map_some fun octet hoctet =>
      parseOctet_toDigits octet (lt_of_mem_digitsOf (by decide) hoctet)
  have hvalue : valueOf 256 (digitsOf 256 4 n) = n := valueOf_digitsOf h
  unfold parseIPv4
  rw [splitOn_joinWith (by simp [digitsOf]) hplain, hoctets]
  simp only [digitsOf, valueOf, List.nil_append, List.cons_append, List.foldl_cons,
    List.foldl_nil] at hvalue ⊢
  simpa using hvalue

/-! ## Version 6 -/

/-- Zeros of the list, at a position and as many. -/
def ZerosAt (hs : List Nat) (run : Nat × Nat) : Prop :=
  ∃ before after, hs = before ++ List.replicate run.2 0 ++ after ∧ before.length = run.1

theorem zeroRun_append (hs : List Nat) :
    ∃ after, hs = List.replicate (zeroRun hs) 0 ++ after := by
  fun_induction zeroRun hs with
  | case1 hs ih =>
    obtain ⟨after, hafter⟩ := ih
    exact ⟨after, congrArg (0 :: ·) hafter⟩
  | case2 hs => exact ⟨hs, rfl⟩

theorem bestRun_zerosAt (hs : List Nat) : ZerosAt hs (bestRun hs) := by
  unfold bestRun
  refine List.foldlRecOn (motive := ZerosAt hs) _ _ ⟨[], hs, rfl, rfl⟩ ?_
  intro best hbest i hi
  dsimp only
  split
  · obtain ⟨after, hafter⟩ := zeroRun_append (hs.drop i)
    refine ⟨hs.take i, after, ?_, ?_⟩
    · rw [List.append_assoc, ← hafter, List.take_append_drop]
    · rw [List.length_take]
      have := List.mem_range.1 hi
      omega
  · exact hbest

/-- The parts beside a gap: an empty text where there are none. -/
def beside (parts : List (List Char)) : List (List Char) := if parts = [] then [[]] else parts

theorem beside_ne_nil (parts : List (List Char)) : beside parts ≠ [] := by
  unfold beside
  split
  · exact List.cons_ne_nil _ _
  · assumption

theorem joinWith_beside (sep : List Char) (parts : List (List Char)) :
    joinWith sep (beside parts) = joinWith sep parts := by
  unfold beside
  split
  · rename_i hnil
    subst hnil
    rfl
  · rfl

/-- The text around a gap has an empty part at the gap. -/
theorem joinWith_gap (hi lo : List (List Char)) :
    joinWith [':'] hi ++ [':', ':'] ++ joinWith [':'] lo =
      joinWith [':'] (beside hi ++ [] :: beside lo) := by
  have hgap : joinWith [':'] ([] :: beside lo) = ':' :: joinWith [':'] lo := by
    have happend : joinWith [':'] ([[]] ++ beside lo) =
        joinWith [':'] [[]] ++ [':'] ++ joinWith [':'] (beside lo) :=
      joinWith_append (List.cons_ne_nil [] []) (beside_ne_nil lo)
    rwa [joinWith_beside] at happend
  rw [joinWith_append (beside_ne_nil hi) (List.cons_ne_nil _ _), joinWith_beside, hgap]
  simp

theorem innerGaps_nil {parts : List (List Char)} (h : ∀ part ∈ parts, part ≠ []) :
    innerGaps parts = [] := by
  cases hgaps : innerGaps parts with
  | nil => rfl
  | cons gap gaps =>
    have hempty := List.mem_of_getElem? (empty_of_innerGaps hgaps)
    exact absurd rfl (h [] hempty)

theorem filter_range_unique {p : Nat → Bool} {n k : Nat} (hk : k < n)
    (h : ∀ i < n, p i = true ↔ i = k) : (List.range n).filter p = [k] := by
  have hp : (List.range n).filter p = (List.range n).filter (· == k) := by
    refine List.filter_congr fun i hi => ?_
    rw [Bool.eq_iff_iff, beq_iff_eq]
    exact h i (List.mem_range.1 hi)
  rw [hp, List.filter_beq, List.count_eq_one_of_mem List.nodup_range (List.mem_range.2 hk)]
  rfl

/-- The only gap is the empty part between the two sides. -/
theorem innerGaps_gap {hi lo : List (List Char)} (hhi : ∀ part ∈ hi, part ≠ [])
    (hlo : ∀ part ∈ lo, part ≠ []) :
    innerGaps (beside hi ++ [] :: beside lo) = [(beside hi).length] := by
  have hhiPos := List.length_pos_of_ne_nil (beside_ne_nil hi)
  have hloPos := List.length_pos_of_ne_nil (beside_ne_nil lo)
  have hside : ∀ parts : List (List Char), (∀ part ∈ parts, part ≠ []) → ∀ i,
      (beside parts)[i]? = some [] → i = 0 ∧ (beside parts).length = 1 := by
    intro parts hparts i hempty
    unfold beside at hempty ⊢
    split at hempty
    · rename_i hnil
      subst hnil
      rw [List.getElem?_singleton] at hempty
      split at hempty
      · exact ⟨by assumption, rfl⟩
      · cases hempty
    · exact absurd rfl (hparts [] (List.mem_of_getElem? hempty))
  unfold innerGaps
  refine filter_range_unique (by simp) fun i _ => ?_
  rw [Bool.and_eq_true, decide_eq_true_eq, Option.any_eq_true]
  constructor
  · rintro ⟨⟨hpos, hlast⟩, part, hpart, hnil⟩
    rw [List.isEmpty_iff.1 hnil] at hpart
    rw [List.length_append, List.length_cons] at hlast
    rcases Nat.lt_trichotomy i (beside hi).length with hlt | heq | hgt
    · rw [List.getElem?_append_left hlt] at hpart
      have hfirst := (hside hi hhi i hpart).1
      omega
    · exact heq
    · rw [List.getElem?_append_right (by omega), List.getElem?_cons, if_neg (by omega)] at hpart
      have hend := hside lo hlo _ hpart
      omega
  · rintro rfl
    refine ⟨⟨hhiPos, ?_⟩, [], ?_, rfl⟩
    · rw [List.length_append, List.length_cons]
      omega
    · rw [List.getElem?_append_right (Nat.le_refl _), Nat.sub_self, List.getElem?_cons_zero]

/-- An empty first part is dropped where the gap is next to it. -/
theorem head_beside {parts : List (List Char)} (h : ∀ part ∈ parts, part ≠ [])
    (k : List (List Char) → Option Nat) :
    (if (beside parts).head? = some [] then
      (if (beside parts).length = 1 then some [] else none).bind k else k (beside parts)) =
        k parts := by
  cases parts with
  | nil => rfl
  | cons part parts =>
    have hpart : part ≠ [] := h part List.mem_cons_self
    simp [beside, hpart]

theorem last_beside {parts : List (List Char)} (h : ∀ part ∈ parts, part ≠ [])
    (k : List (List Char) → Option Nat) :
    (if (beside parts).getLast? = some [] then
      (if (beside parts).length = 1 then some [] else none).bind k else k (beside parts)) =
        k parts := by
  unfold beside
  split
  · rename_i hnil
    subst hnil
    rfl
  · rename_i hne
    have hlast : parts.getLast? ≠ some [] := fun hempty =>
      h [] (List.mem_of_getLast? hempty) rfl
    rw [if_neg hlast]

theorem length_beside (parts : List (List Char)) :
    (beside parts).length = max 1 parts.length := by
  unfold beside
  split
  · rename_i hnil
    subst hnil
    rfl
  · rename_i hne
    have := List.length_pos_of_ne_nil hne
    omega

/-- The parts of a text of hextets. -/
theorem mem_beside {hs : List Nat} {part : List Char}
    (h : part ∈ beside (hs.map (Nat.toDigits 16))) :
    part = [] ∨ ∃ n, part = Nat.toDigits 16 n := by
  unfold beside at h
  split at h
  · exact .inl (List.mem_singleton.1 h)
  · obtain ⟨n, _, rfl⟩ := List.mem_map.1 h
    exact .inr ⟨n, rfl⟩

theorem toDigits_ne_nil {hs : List Nat} : ∀ part ∈ hs.map (Nat.toDigits 16), part ≠ [] := by
  intro part hpart
  obtain ⟨n, _, rfl⟩ := List.mem_map.1 hpart
  exact Nat.toDigits_ne_nil

/-- What is read of two sides of hextets and the gap between them. -/
theorem readParts_gap {hi lo : List Nat} (hhi : ∀ n ∈ hi, n < 65536) (hlo : ∀ n ∈ lo, n < 65536)
    (hlength : hi.length + lo.length < 8) :
    readParts (beside (hi.map (Nat.toDigits 16)) ++ [] :: beside (lo.map (Nat.toDigits 16))) =
      some (valueOf 65536 hi * 65536 ^ (8 - hi.length) + valueOf 65536 lo) := by
  have hshort : ¬(beside (hi.map (Nat.toDigits 16)) ++
      [] :: beside (lo.map (Nat.toDigits 16))).length > 9 := by
    simp only [List.length_append, List.length_cons, length_beside, List.length_map]
    omega
  unfold readParts
  rw [if_neg hshort, innerGaps_gap toDigits_ne_nil toDigits_ne_nil]
  simp only [Option.bind_eq_bind, Option.bind_some, List.take_left, List.drop_length_add_append,
    List.drop_succ_cons, List.drop_zero]
  rw [head_beside toDigits_ne_nil, last_beside toDigits_ne_nil]
  simp only [List.length_map, if_neg (Nat.not_le.2 hlength), hextets_toDigits hhi,
    hextets_toDigits hlo, Option.bind_some]

theorem parseIPv6_joinWith {parts : List (List Char)} (hlength : 3 ≤ parts.length)
    (hparts : ∀ part ∈ parts, part = [] ∨ ∃ n, part = Nat.toDigits 16 n) :
    parseIPv6 (joinWith [':'] parts) = readParts parts := by
  have hplain : ∀ c, (∀ d < 16, Nat.digitChar d ≠ c) → ∀ part ∈ parts, c ∉ part := by
    intro c hc part hpart
    rcases hparts part hpart with rfl | ⟨n, rfl⟩
    · exact List.not_mem_nil
    · exact not_mem_toDigits hc n
  have hne : parts ≠ [] := List.ne_nil_of_length_pos (by omega)
  have hdot : '.' ∉ parts.getLast hne := hplain '.' (by decide) _ (List.getLast_mem hne)
  rw [parseIPv6_eq, ipv6Parts, splitOn_joinWith hne (hplain ':' (by decide)),
    List.getLast?_eq_getLast_of_ne_nil hne, if_neg (by omega)]
  simp only [hdot, if_false, Option.bind_some]

theorem readParts_full {hs : List Nat} (h : ∀ n ∈ hs, n < 65536) (hlength : hs.length = 8) :
    readParts (hs.map (Nat.toDigits 16)) = some (valueOf 65536 hs) := by
  unfold readParts
  rw [innerGaps_nil toDigits_ne_nil]
  simp [hlength, hextets_toDigits h]

/-- The parts of a compressed text, and what is read of them. -/
theorem compress_eq {hs : List Nat} (h : ∀ n ∈ hs, n < 65536) (hlength : hs.length = 8) :
    ∃ parts, compress hs = joinWith [':'] parts ∧ 3 ≤ parts.length ∧
      (∀ part ∈ parts, part = [] ∨ ∃ n, part = Nat.toDigits 16 n) ∧
      readParts parts = some (valueOf 65536 hs) := by
  obtain ⟨before, after, hhs, hbefore⟩ := bestRun_zerosAt hs
  unfold compress
  generalize bestRun hs = run at hhs hbefore
  obtain ⟨i, n⟩ := run
  dsimp only at hhs hbefore ⊢
  split
  · rename_i hn
    have hlengths : before.length + n + after.length = 8 := by
      rw [hhs] at hlength
      simpa [Nat.add_assoc] using hlength
    have htake : (hs.map (Nat.toDigits 16)).take i = before.map (Nat.toDigits 16) := by
      rw [hhs, ← hbefore, List.append_assoc, List.map_append]
      exact List.take_left' (List.length_map _)
    have hdrop : (hs.map (Nat.toDigits 16)).drop (i + n) = after.map (Nat.toDigits 16) := by
      rw [hhs, List.map_append]
      exact List.drop_left' (by simp [hbefore])
    have hsides : (∀ n ∈ before, n < 65536) ∧ ∀ n ∈ after, n < 65536 := by
      rw [hhs] at h
      exact ⟨fun n hn => h n (by simp [hn]), fun n hn => h n (by simp [hn])⟩
    have hvalue : valueOf 65536 hs =
        valueOf 65536 before * 65536 ^ (8 - before.length) + valueOf 65536 after := by
      have hzeros : valueOf 65536 (before ++ List.replicate n 0) =
          valueOf 65536 before * 65536 ^ n := by
        rw [valueOf_append, valueOf_zeros, List.length_replicate, Nat.add_zero]
      rw [hhs, valueOf_append, hzeros, Nat.mul_assoc, ← Nat.pow_add]
      congr 3
      omega
    refine ⟨beside (before.map (Nat.toDigits 16)) ++ [] :: beside (after.map (Nat.toDigits 16)),
      ?_, ?_, ?_, ?_⟩
    · rw [htake, hdrop, joinWith_gap]
    · simp only [List.length_append, List.length_cons, length_beside, List.length_map]
      omega
    · intro part hpart
      rw [List.mem_append, List.mem_cons] at hpart
      rcases hpart with hpart | rfl | hpart
      · exact mem_beside hpart
      · exact .inl rfl
      · exact mem_beside hpart
    · rw [readParts_gap hsides.1 hsides.2 (by omega), hvalue]
  · refine ⟨hs.map (Nat.toDigits 16), rfl, by simp [hlength], ?_, readParts_full h hlength⟩
    intro part hpart
    obtain ⟨n, _, rfl⟩ := List.mem_map.1 hpart
    exact .inr ⟨n, rfl⟩

theorem parseIPv6_compress {hs : List Nat} (h : ∀ n ∈ hs, n < 65536) (hlength : hs.length = 8) :
    parseIPv6 (compress hs) = some (valueOf 65536 hs) := by
  obtain ⟨parts, htext, hthree, hparts, hread⟩ := compress_eq h hlength
  rw [htext, parseIPv6_joinWith hthree hparts, hread]

theorem not_mem_compress {hs : List Nat} (h : ∀ n ∈ hs, n < 65536) (hlength : hs.length = 8)
    {c : Char} (hcolon : c ≠ ':') (hc : ∀ d < 16, Nat.digitChar d ≠ c) : c ∉ compress hs := by
  obtain ⟨parts, htext, -, hparts, -⟩ := compress_eq h hlength
  rw [htext, joinWith_eq]
  intro hmem
  rcases Joins.mem_of_mem_join hmem with heq | ⟨part, hpart, hmem⟩
  · exact hcolon heq
  · rcases hparts part hpart with rfl | ⟨n, rfl⟩
    · cases hmem
    · exact not_mem_toDigits hc n hmem

/-- A text of version 4 has dots and digits only. -/
theorem parseIPv4_eq_none {cs : List Char} {c : Char} (hdot : c ≠ '.')
    (hvalue : digitValue c = none) (h : c ∈ cs) : parseIPv4 cs = none := by
  unfold parseIPv4
  split
  · rename_i hoctets
    rcases Joins.mem_splitOn_of_mem '.' h with heq | ⟨part, hpart, hmem⟩
    · exact absurd heq hdot
    · obtain ⟨octet, hoctet⟩ := some_of_mapM hoctets part hpart
      unfold parseOctet at hoctet
      split at hoctet
      · cases hoctet
      · have hnumeral := (Option.filter_eq_some_iff.1 hoctet).1
        unfold numeral at hnumeral
        split at hnumeral
        · cases hnumeral
        · obtain ⟨ds, hds, _⟩ := Option.map_eq_some_iff.1 hnumeral
          obtain ⟨d, hd⟩ := some_of_mapM hds c hmem
          rw [hvalue] at hd
          cases hd
  · rfl

theorem colon_of_parseIPv6 {cs : List Char} {n : Nat} (h : parseIPv6 cs = some n) : ':' ∈ cs := by
  by_contra hcolon
  rw [parseIPv6_eq, List.splitOn_eq_singleton hcolon] at h
  cases h

/-! ## Addresses -/

/-- An address of its version. -/
def IpAddress.InSpace (a : IpAddress) : Prop := a.value < 2 ^ a.version.bits

theorem text_v4 (n : Nat) : (IpAddress.mk .v4 n).text.toList =
    joinWith ['.'] ((digitsOf 256 4 n).map (Nat.toDigits 10)) := String.toList_ofList

theorem text_v6 (n : Nat) : (IpAddress.mk .v6 n).text.toList = compress (digitsOf 65536 8 n) :=
  String.toList_ofList

theorem parseIPv6_text {n : Nat} (h : n < 2 ^ 128) :
    parseIPv6 (compress (digitsOf 65536 8 n)) = some n := by
  have hdigits : ∀ d ∈ digitsOf 65536 8 n, d < 65536 := fun d hd =>
    lt_of_mem_digitsOf (by decide) hd
  have hvalue : valueOf 65536 (digitsOf 65536 8 n) = n := valueOf_digitsOf h
  rw [parseIPv6_compress hdigits (length_digitsOf _ _ _), hvalue]

/-- The characters that `str` never writes. -/
theorem not_mem_text {a : IpAddress} {c : Char} (hmarks : c ≠ ':' ∧ c ≠ '.')
    (hc : ∀ d < 16, Nat.digitChar d ≠ c) : c ∉ a.text.toList := by
  obtain ⟨version, n⟩ := a
  cases version with
  | v4 =>
    rw [text_v4, joinWith_eq]
    intro hmem
    rcases Joins.mem_of_mem_join hmem with heq | ⟨part, hpart, hmem⟩
    · exact hmarks.2 heq
    · obtain ⟨octet, _, rfl⟩ := List.mem_map.1 hpart
      obtain ⟨d, hd, rfl⟩ := mem_toDigits (by decide) hmem
      exact hc d (by omega) rfl
  | v6 =>
    rw [text_v6]
    exact not_mem_compress (fun d hd => lt_of_mem_digitsOf (by decide) hd)
      (length_digitsOf _ _ _) hmarks.1 hc

/-- The text of an address of version 6, with or without a scope id. -/
theorem ipAddressOf_v6 {n : Nat} (h : n < 2 ^ 128) {cs : List Char}
    (hcs : splitScopeId cs = some (IpAddress.mk .v6 n).text.toList)
    (hmem : ∀ c ∈ (IpAddress.mk .v6 n).text.toList, c ∈ cs) :
    ipAddressOf cs = some ⟨.v6, n⟩ := by
  rw [text_v6] at hcs hmem
  have hread := parseIPv6_text h
  have hcolon : ':' ∈ cs := hmem ':' (colon_of_parseIPv6 hread)
  rw [ipAddressOf, parseIPv4_eq_none (by decide) (by decide) hcolon, hcs]
  simp only [Option.bind_some, hread, Option.map_some]

theorem ipAddressOf_text {a : IpAddress} (h : a.InSpace) : ipAddressOf a.text.toList = some a := by
  obtain ⟨version, n⟩ := a
  cases version with
  | v4 => rw [text_v4, ipAddressOf, parseIPv4_text h]
  | v6 =>
    refine ipAddressOf_v6 h ?_ fun c hc => hc
    rw [splitScopeId, List.splitOn_eq_singleton (not_mem_text (by decide) (by decide))]

theorem ipAddressOf_scoped {n : Nat} (h : n < 2 ^ 128) {scope : List Char} (hscope : scope ≠ [])
    (hplain : '%' ∉ scope) :
    ipAddressOf ((IpAddress.mk .v6 n).text.toList ++ '%' :: scope) = some ⟨.v6, n⟩ := by
  refine ipAddressOf_v6 h ?_ fun c hc => List.mem_append_left _ hc
  rw [splitScopeId, List.splitOn_append_cons_self_of_not_mem (not_mem_text (by decide) (by decide)),
    List.splitOn_eq_singleton hplain]
  exact if_neg hscope

/-- What `str` writes is read as the address. -/
theorem ipAddress_text {a : IpAddress} (h : a.InSpace) : ipAddress a.text = some a := by
  rw [ipAddress, if_neg (not_mem_text (by decide) (by decide)), ipAddressOf_text h]

/-! ## The address space -/

theorem forall_of_mapM {α β : Type} {read : α → Option β} {xs : List α} {ys : List β} {P : β → Prop}
    (hP : ∀ x y, read x = some y → P y) (h : xs.mapM read = some ys) :
    ys.length = xs.length ∧ ∀ y ∈ ys, P y := by
  induction xs generalizing ys with
  | nil =>
    cases h
    exact ⟨rfl, fun y hy => nomatch hy⟩
  | cons x xs ih =>
    rw [List.mapM_cons] at h
    obtain ⟨y, hy, hrest⟩ := Option.bind_eq_some_iff.1 h
    obtain ⟨ys', hys, heq⟩ := Option.bind_eq_some_iff.1 hrest
    cases heq
    obtain ⟨hlength, hall⟩ := ih hys
    exact ⟨congrArg (· + 1) hlength, List.forall_mem_cons.2 ⟨hP x y hy, hall⟩⟩

theorem parseIPv4_lt {cs : List Char} {n : Nat} (h : parseIPv4 cs = some n) : n < 2 ^ 32 := by
  have hoctet : ∀ part octet, parseOctet part = some octet → octet < 256 := by
    intro part octet hoctet
    unfold parseOctet at hoctet
    split at hoctet
    · cases hoctet
    · have hle := (Option.filter_eq_some_iff.1 hoctet).2
      rw [decide_eq_true_eq] at hle
      omega
  unfold parseIPv4 at h
  split at h
  · rename_i a b c d hoctets
    have hall := (forall_of_mapM hoctet hoctets).2
    have hlt := valueOf_lt hall
    cases h
    simpa [valueOf] using hlt
  · cases h

theorem hexValue_lt {c : Char} {d : Nat} (h : hexValue c = some d) : d < 16 := by
  have hcases := hexValue_cases h
  omega

theorem parseHextet_lt {cs : List Char} {n : Nat} (h : parseHextet cs = some n) : n < 65536 := by
  unfold parseHextet at h
  split at h
  · cases h
  · rename_i hshort
    unfold numeral at h
    split at h
    · cases h
    · obtain ⟨ds, hds, rfl⟩ := Option.map_eq_some_iff.1 h
      obtain ⟨hlength, hall⟩ := forall_of_mapM (fun c d hd => hexValue_lt hd) hds
      have hfour : 16 ^ ds.length ≤ 16 ^ 4 := Nat.pow_le_pow_right (by decide) (by omega)
      exact Nat.lt_of_lt_of_le (valueOf_lt hall) hfour

theorem hextets_lt {parts : List (List Char)} {n : Nat} (h : hextets parts = some n) :
    n < 65536 ^ parts.length := by
  obtain ⟨hs, hhs, rfl⟩ := Option.map_eq_some_iff.1 h
  obtain ⟨hlength, hall⟩ := forall_of_mapM (fun part n hn => parseHextet_lt hn) hhs
  rw [← hlength]
  exact valueOf_lt hall

/-- The two sides of a gap are together shorter than an address. -/
theorem readSides_lt {hi lo : List (List Char)} {n : Nat} (h : readSides hi lo = some n) :
    n < 65536 ^ 8 := by
  obtain ⟨hlength, x, y, hx, hy, rfl⟩ := readSides_eq_some h
  have hlow : y < 65536 ^ (8 - hi.length) :=
    Nat.lt_of_lt_of_le (hextets_lt hy) (Nat.pow_le_pow_right (by decide) (by omega))
  calc x * 65536 ^ (8 - hi.length) + y < (x + 1) * 65536 ^ (8 - hi.length) := by
        rw [Nat.succ_mul]
        omega
    _ ≤ 65536 ^ hi.length * 65536 ^ (8 - hi.length) := Nat.mul_le_mul_right _ (hextets_lt hx)
    _ = 65536 ^ 8 := by rw [← Nat.pow_add, Nat.add_sub_of_le (by omega)]

theorem readParts_lt {parts : List (List Char)} {n : Nat} (h : readParts parts = some n) :
    n < 65536 ^ 8 := by
  rcases readParts_cases h with ⟨hlength, hread⟩ | ⟨gap, hi, lo, -, -, -, hread⟩
  · rw [← hlength]
    exact hextets_lt hread
  · exact readSides_lt hread

theorem parseIPv6_lt {cs : List Char} {n : Nat} (h : parseIPv6 cs = some n) : n < 2 ^ 128 := by
  rw [parseIPv6_eq] at h
  split at h
  · cases h
  · obtain ⟨parts, _, hread⟩ := Option.bind_eq_some_iff.1 h
    exact readParts_lt hread

theorem inSpace_of_ipAddressOf {cs : List Char} {a : IpAddress} (h : ipAddressOf cs = some a) :
    a.InSpace := by
  unfold ipAddressOf at h
  split at h
  · rename_i n hv4
    cases h
    exact parseIPv4_lt hv4
  · obtain ⟨n, hv6, rfl⟩ := Option.map_eq_some_iff.1 h
    obtain ⟨addr, _, hread⟩ := Option.bind_eq_some_iff.1 hv6
    exact parseIPv6_lt hread

theorem inSpace_of_ipAddress {text : String} {a : IpAddress} (h : ipAddress text = some a) :
    a.InSpace := by
  unfold ipAddress at h
  split at h
  · cases h
  · exact inSpace_of_ipAddressOf h

/-! ## Networks -/

namespace IpNetwork

/-- The address after the last one of the network. -/
def bound (n : IpNetwork) : Nat := n.first + 2 ^ n.hostBits

theorem contains_iff (n : IpNetwork) (a : IpAddress) : n.contains a = true ↔
    a.version = n.address.version ∧ n.first ≤ a.value ∧ a.value < n.bound := by
  have hpos : 0 < 2 ^ n.hostBits := Nat.two_pow_pos _
  have hblock : a.value / 2 ^ n.hostBits * 2 ^ n.hostBits = n.first ↔
      n.first ≤ a.value ∧ a.value < n.bound := by
    unfold bound first
    rw [Nat.mul_left_inj (by omega), Nat.div_eq_iff hpos]
    omega
  rw [contains, Bool.and_eq_true, decide_eq_true_eq, decide_eq_true_eq, hblock]

/-- The network is in the address space of its version. -/
theorem bound_le {n : IpNetwork} (h : n.address.InSpace) :
    n.bound ≤ 2 ^ n.address.version.bits := by
  have hbits : 2 ^ (n.address.version.bits - n.hostBits) * 2 ^ n.hostBits =
      2 ^ n.address.version.bits := by
    rw [← Nat.pow_add]
    congr 1
    unfold hostBits
    omega
  have hblock : n.address.value / 2 ^ n.hostBits < 2 ^ (n.address.version.bits - n.hostBits) := by
    refine Nat.div_lt_of_lt_mul ?_
    rw [Nat.mul_comm, hbits]
    exact h
  calc n.bound = (n.address.value / 2 ^ n.hostBits + 1) * 2 ^ n.hostBits := by
        rw [bound, first, Nat.succ_mul]
    _ ≤ 2 ^ (n.address.version.bits - n.hostBits) * 2 ^ n.hostBits :=
        Nat.mul_le_mul_right _ hblock
    _ = 2 ^ n.address.version.bits := hbits

end IpNetwork

/-- What the text of a network leaves of it. -/
structure ReadNetwork (n : IpNetwork) : Prop where
  inSpace : n.address.InSpace
  version : n.scopeId ≠ [] → n.address.version = .v6 ∧ '%' ∉ n.scopeId ∧ '/' ∉ n.scopeId

theorem readNetwork_of_address {addr : List Char} {a : IpAddress} {prefixlen : Nat}
    (hslash : '/' ∉ addr) (h : ipAddressOf addr = some a) :
    ReadNetwork ⟨a, prefixlen, scopeIdOf addr⟩ := by
  refine ⟨inSpace_of_ipAddressOf h, fun hscope => ?_⟩
  dsimp only at hscope ⊢
  unfold scopeIdOf at hscope ⊢
  split at hscope
  · rename_i first scope hsplit
    have hmem : scope ∈ addr.splitOn '%' := by
      rw [hsplit]
      exact List.mem_cons_of_mem first List.mem_cons_self
    have hpercent : '%' ∈ addr := by
      by_contra hnot
      rw [List.splitOn_eq_singleton hnot] at hsplit
      cases hsplit
    rw [ipAddressOf, parseIPv4_eq_none (by decide) (by decide) hpercent] at h
    obtain ⟨n, _, rfl⟩ := Option.map_eq_some_iff.1 h
    exact ⟨rfl, Joins.not_mem_of_mem_splitOn hmem,
      fun hscoped => hslash (Joins.mem_of_mem_splitOn hmem hscoped)⟩
  · exact absurd rfl hscope

theorem readNetwork {text : String} {n : IpNetwork} (h : ipNetwork text = some n) :
    ReadNetwork n := by
  have hslash : ∀ part ∈ text.toList.splitOn '/', '/' ∉ part := fun part hpart =>
    Joins.not_mem_of_mem_splitOn hpart
  unfold ipNetwork at h
  split at h
  · rename_i addr hsplit
    obtain ⟨a, ha, rfl⟩ := Option.map_eq_some_iff.1 h
    rw [hsplit] at hslash
    exact readNetwork_of_address (hslash addr List.mem_cons_self) ha
  · rename_i addr mask hsplit
    obtain ⟨a, ha, hrest⟩ := Option.bind_eq_some_iff.1 h
    obtain ⟨p, _, rfl⟩ := Option.map_eq_some_iff.1 hrest
    rw [hsplit] at hslash
    exact readNetwork_of_address (hslash addr List.mem_cons_self) ha
  · cases h

/-- What is written of a host of a network is read as the host. -/
theorem ipAddress_suffix {n : IpNetwork} (h : ReadNetwork n) {a : IpAddress} (ha : a.InSpace)
    (hversion : a.version = n.address.version) : ipAddress (a.text ++ n.suffix) = some a := by
  unfold IpNetwork.suffix
  split
  · rename_i hscope
    obtain ⟨hv6, hpercent, hslash⟩ := h.version hscope.2
    obtain ⟨version, value⟩ := a
    obtain rfl : version = .v6 := hversion.trans hv6
    have htext : '/' ∉ (IpAddress.mk .v6 value).text.toList :=
      not_mem_text (by decide) (by decide)
    unfold ipAddress
    rw [String.toList_append, String.toList_ofList, if_neg,
      ipAddressOf_scoped ha hscope.2 hpercent]
    simp only [List.mem_append, List.mem_cons, not_or]
    exact ⟨htext, by decide, hslash⟩
  · rw [String.append_empty, ipAddress_text ha]

end Net
