import NetOps.Discovery.Policy

/-!
# Discovery.Uuids

The text form of a UUID, and that `UUID(str(id))` is `id` again (`uuidOfText_textOfUuid`).
-/

namespace NetOps
namespace Discovery

open Net (hexValue numeral)

def hexChar (d : Nat) : Char := if d < 10 then Char.ofNat (48 + d) else Char.ofNat (87 + d)

/-- The last `width` hexadecimal digits of a number. -/
def hexDigits : Nat → Nat → List Char
  | 0, _ => []
  | width + 1, n => hexDigits width (n / 16) ++ [hexChar (n % 16)]

/-- The digits in groups of 8, 4, 4, 4 and 12. -/
def grouped (digits : List Char) : List Char :=
  digits.take 8 ++ '-' :: ((digits.drop 8).take 4 ++ '-' :: ((digits.drop 12).take 4 ++
    '-' :: ((digits.drop 16).take 4 ++ '-' :: digits.drop 20)))

/-- `str(id)`. -/
def textOfUuid (id : UUID) : String := String.ofList (grouped (hexDigits 32 id))

/-! ## Digits -/

theorem hexValue_hexChar : ∀ d, d < 16 → hexValue (hexChar d) = some d := by decide

/-- The characters of a UUID's text are no letters of a prefix, no braces and no marks of a
numeral. -/
theorem hexChar_plain : ∀ d, d < 16 → hexChar d ∉ ['u', '{', '}', '-', '+', 'x', 'X', '_'] := by
  decide

theorem hexChar_read : ∀ d, d < 16 → Digits.blank (hexChar d) = false ∧
    Digits.asciiDigit (hexChar d) = hexChar d := by
  decide

@[simp] theorem length_hexDigits (width n : Nat) : (hexDigits width n).length = width := by
  induction width generalizing n with
  | zero => rfl
  | succ width ih => simp [hexDigits, ih]

theorem mem_hexDigits {width n : Nat} {c : Char} (h : c ∈ hexDigits width n) :
    ∃ d < 16, c = hexChar d := by
  induction width generalizing n with
  | zero => cases h
  | succ width ih =>
    rw [hexDigits, List.mem_append, List.mem_singleton] at h
    rcases h with h | h
    · exact ih h
    · exact ⟨n % 16, Nat.mod_lt _ (by decide), h⟩

theorem plain_of_mem_hexDigits {width n : Nat} {c : Char} (h : c ∈ hexDigits width n) :
    c ∉ ['u', '{', '}', '-', '+', 'x', 'X', '_'] := by
  obtain ⟨d, hd, rfl⟩ := mem_hexDigits h
  exact hexChar_plain d hd

/-- Read back, the digits are the number, as far as they go. -/
theorem mapM_hexDigits (width n : Nat) : ∃ ds, (hexDigits width n).mapM hexValue = some ds ∧
    ds.foldl (fun n d => n * 16 + d) 0 = n % 16 ^ width := by
  induction width generalizing n with
  | zero =>
    refine ⟨[], rfl, ?_⟩
    rw [Nat.pow_zero, Nat.mod_one]
    rfl
  | succ width ih =>
    obtain ⟨ds, hds, hvalue⟩ := ih (n / 16)
    refine ⟨ds ++ [n % 16], ?_, ?_⟩
    · rw [hexDigits, List.mapM_append, hds]
      simp [hexValue_hexChar _ (Nat.mod_lt n (by decide))]
    · rw [List.foldl_append, hvalue]
      simp only [List.foldl_cons, List.foldl_nil]
      rw [Nat.pow_succ, Nat.mul_comm (16 ^ width) 16, Nat.mod_mul]
      omega

theorem numeral_hexDigits {width n : Nat} (hwidth : width ≠ 0) (hn : n < 16 ^ width) :
    numeral 16 hexValue (hexDigits width n) = some n := by
  obtain ⟨ds, hds, hvalue⟩ := mapM_hexDigits width n
  have hne : hexDigits width n ≠ [] := by
    intro hnil
    have hlength := length_hexDigits width n
    rw [hnil] at hlength
    exact hwidth hlength.symm
  have hnumeral : numeral 16 hexValue (hexDigits width n) =
      ((hexDigits width n).mapM hexValue).map fun ds => ds.foldl (fun n d => n * 16 + d) 0 := by
    unfold numeral
    split
    · rename_i hnil
      exact absurd hnil hne
    · rfl
  rw [hnumeral, hds, Option.map_some, hvalue, Nat.mod_eq_of_lt hn]

theorem dropWhile_of_not {p : Char → Bool} {cs : List Char} (h : ∀ c ∈ cs, p c = false) :
    (cs.dropWhile p).rdropWhile p = cs := by
  have hdrop : cs.dropWhile p = cs := by
    cases cs with
    | nil => rfl
    | cons c cs => rw [List.dropWhile_cons, h c List.mem_cons_self, if_neg Bool.false_ne_true]
  rw [hdrop, List.rdropWhile_eq_self_iff]
  intro hne
  rw [h _ (List.getLast_mem hne)]
  exact Bool.false_ne_true

theorem afterPrefix_plain {cs : List Char} (h : ∀ c ∈ cs, c ≠ 'x' ∧ c ≠ 'X') :
    afterPrefix cs = cs := by
  unfold afterPrefix
  split
  · rename_i x cs
    obtain ⟨hx, hX⟩ := h x (by simp)
    rw [if_neg (by simp [hx, hX])]
  · rfl

/-- Digits alone are read as the number they stand for. -/
theorem hexInt_hexDigits {width n : Nat} (hwidth : width ≠ 0) (hn : n < 16 ^ width) :
    hexInt (hexDigits width n) = some n := by
  have htrim : Digits.trim (hexDigits width n) = hexDigits width n := by
    refine dropWhile_of_not fun c hc => ?_
    obtain ⟨d, hd, rfl⟩ := mem_hexDigits hc
    exact (hexChar_read d hd).1
  have hascii : (hexDigits width n).map Digits.asciiDigit = hexDigits width n := by
    rw [List.map_congr_left (g := id), List.map_id]
    intro c hc
    obtain ⟨d, hd, rfl⟩ := mem_hexDigits hc
    exact (hexChar_read d hd).2
  have hsign : (hexDigits width n).head? ≠ some '+' := by
    intro hplus
    exact plain_of_mem_hexDigits (List.mem_of_head? hplus) (by decide)
  have hprefix : afterPrefix (hexDigits width n) = hexDigits width n := by
    refine afterPrefix_plain fun c hc => ⟨?_, ?_⟩ <;>
      · rintro rfl
        exact plain_of_mem_hexDigits hc (by decide)
  have hne : hexDigits width n ≠ [] := by
    intro hnil
    have hlength := length_hexDigits width n
    rw [hnil] at hlength
    exact hwidth hlength.symm
  have hgroups : Digits.ungroup (fun c => (hexValue c).isSome) (hexDigits width n) =
      some (hexDigits width n) := by
    refine Digits.ungroup_digits hne (by decide) fun c hc => ?_
    obtain ⟨d, hd, rfl⟩ := mem_hexDigits hc
    rw [hexValue_hexChar d hd]
    rfl
  unfold hexInt
  simp only [htrim, hascii]
  rw [if_neg hsign, hprefix, hgroups, Option.bind_some, numeral_hexDigits hwidth hn]

/-! ## Texts -/

theorem mem_grouped {digits : List Char} {c : Char} (h : c ∈ grouped digits) :
    c ∈ digits ∨ c = '-' := by
  simp only [grouped, List.mem_append, List.mem_cons] at h
  rcases h with h | h | h | h | h | h | h | h | h
  · exact .inl (List.mem_of_mem_take h)
  · exact .inr h
  · exact .inl (List.mem_of_mem_drop (List.mem_of_mem_take h))
  · exact .inr h
  · exact .inl (List.mem_of_mem_drop (List.mem_of_mem_take h))
  · exact .inr h
  · exact .inl (List.mem_of_mem_drop (List.mem_of_mem_take h))
  · exact .inr h
  · exact .inl (List.mem_of_mem_drop h)

/-- Without its separators, a grouped text is its digits. -/
theorem filter_grouped {digits : List Char} (h : ∀ c ∈ digits, c ≠ '-') :
    (grouped digits).filter (· != '-') = digits := by
  have hpart : ∀ part : List Char, (∀ c ∈ part, c ∈ digits) → part.filter (· != '-') = part := by
    intro part hsub
    rw [List.filter_eq_self]
    intro c hc
    simpa using h c (hsub c hc)
  have htake : ∀ k n, ((digits.drop k).take n).filter (· != '-') = (digits.drop k).take n := by
    intro k n
    exact hpart _ fun c hc => List.mem_of_mem_drop (List.mem_of_mem_take hc)
  simp only [grouped, List.filter_append, List.filter_cons, bne_self_eq_false, Bool.false_eq_true,
    if_false]
  rw [htake, htake, htake, hpart (digits.take 8) fun c hc => List.mem_of_mem_take hc,
    hpart (digits.drop 20) fun c hc => List.mem_of_mem_drop hc]
  have hdrop : ∀ k, (digits.drop k).take 4 ++ digits.drop (k + 4) = digits.drop k := by
    intro k
    rw [← List.drop_drop, List.take_append_drop]
  rw [hdrop 16, hdrop 12, hdrop 8, List.take_append_drop]

theorem removeParts_of_not_mem {c : Char} {part cs : List Char} (hc : c ∉ cs) (fuel : Nat) :
    removeParts (c :: part) fuel cs = cs := by
  induction fuel generalizing cs with
  | zero => rfl
  | succ fuel ih =>
    cases cs with
    | nil => rfl
    | cons d cs =>
      rw [List.mem_cons, not_or] at hc
      have hprefix : (c :: part).isPrefixOf (d :: cs) = false := by
        simp [List.isPrefixOf, hc.1]
      rw [removeParts, hprefix, if_neg Bool.false_ne_true, ih hc.2]

/-- The text of an id of 128 bits is read as the id. -/
theorem uuidOfText_textOfUuid {id : UUID} (h : id < 16 ^ 32) :
    uuidOfText (textOfUuid id) = some id := by
  have hplain : ∀ c ∈ grouped (hexDigits 32 id), c ≠ 'u' ∧ c ≠ '{' ∧ c ≠ '}' := by
    intro c hc
    rcases mem_grouped hc with hdigit | hdash
    · have hnot := plain_of_mem_hexDigits hdigit
      simp only [List.mem_cons, List.not_mem_nil, or_false, not_or] at hnot
      exact ⟨hnot.1, hnot.2.1, hnot.2.2.1⟩
    · rw [hdash]
      decide
  have hu : 'u' ∉ grouped (hexDigits 32 id) := fun hmem => (hplain 'u' hmem).1 rfl
  have hdash : ∀ c ∈ hexDigits 32 id, c ≠ '-' := by
    intro c hc hdash
    exact plain_of_mem_hexDigits hc (by rw [hdash]; decide)
  have hurn : "urn:".toList = 'u' :: ['r', 'n', ':'] := by decide
  have huuid : "uuid:".toList = 'u' :: ['u', 'i', 'd', ':'] := by decide
  unfold uuidOfText textOfUuid
  simp only [String.toList_ofList, hurn, huuid, removeParts_of_not_mem hu]
  rw [dropWhile_of_not fun c hc => by simp [(hplain c hc).2], filter_grouped hdash,
    length_hexDigits, if_pos rfl, hexInt_hexDigits (by decide) h]

theorem hexValue_lt {c : Char} {d : Nat} (h : hexValue c = some d) : d < 16 := by
  unfold hexValue at h
  split at h
  · rename_i hdigit
    simp only [Char.isDigit, Bool.and_eq_true, decide_eq_true_eq] at hdigit
    have hle : c.toNat ≤ 57 := hdigit.2
    have hzero : '0'.toNat = 48 := by decide
    cases h
    omega
  split at h
  · rename_i hletter
    have hle : c.toNat ≤ 102 := hletter.2
    have ha : 'a'.toNat = 97 := by decide
    cases h
    omega
  split at h
  · rename_i hletter
    have hle : c.toNat ≤ 70 := hletter.2
    have hA : 'A'.toNat = 65 := by decide
    cases h
    omega
  · cases h

theorem foldl_lt {ds : List Nat} (h : ∀ d ∈ ds, d < 16) (n : Nat) :
    ds.foldl (fun n d => n * 16 + d) n < (n + 1) * 16 ^ ds.length := by
  induction ds generalizing n with
  | nil => simp
  | cons d ds ih =>
    have hd := h d List.mem_cons_self
    have hrest := ih (fun d hd => h d (List.mem_cons_of_mem _ hd)) (n * 16 + d)
    rw [List.foldl_cons, List.length_cons, Nat.pow_succ]
    calc ds.foldl (fun n d => n * 16 + d) (n * 16 + d)
        < (n * 16 + d + 1) * 16 ^ ds.length := hrest
      _ ≤ ((n + 1) * 16) * 16 ^ ds.length := Nat.mul_le_mul_right _ (by omega)
      _ = (n + 1) * (16 ^ ds.length * 16) := by rw [Nat.mul_assoc, Nat.mul_comm 16]

theorem mapM_hexValue {cs : List Char} {ds : List Nat} (h : cs.mapM hexValue = some ds) :
    ds.length = cs.length ∧ ∀ d ∈ ds, d < 16 := by
  induction cs generalizing ds with
  | nil =>
    cases h
    exact ⟨rfl, fun d hd => by cases hd⟩
  | cons c cs ih =>
    rw [List.mapM_cons] at h
    obtain ⟨d, hd, hrest⟩ := Option.bind_eq_some_iff.1 h
    obtain ⟨ds', hds, heq⟩ := Option.bind_eq_some_iff.1 hrest
    cases heq
    obtain ⟨hlength, hlt⟩ := ih hds
    refine ⟨by rw [List.length_cons, hlength, List.length_cons], fun e he => ?_⟩
    rcases List.mem_cons.1 he with rfl | he
    · exact hexValue_lt hd
    · exact hlt e he

theorem numeral_lt {cs : List Char} {n : Nat} (h : numeral 16 hexValue cs = some n) :
    n < 16 ^ cs.length := by
  unfold numeral at h
  split at h
  · cases h
  · obtain ⟨ds, hds, rfl⟩ := Option.map_eq_some_iff.1 h
    obtain ⟨hlength, hlt⟩ := mapM_hexValue hds
    have hbound := foldl_lt hlt 0
    rw [Nat.zero_add, Nat.one_mul, hlength] at hbound
    exact hbound

theorem length_afterPrefix (cs : List Char) : (afterPrefix cs).length ≤ cs.length := by
  unfold afterPrefix
  split
  · rename_i x cs
    split
    · split
      · rw [List.length_tail, List.length_cons, List.length_cons]
        omega
      · rw [List.length_cons, List.length_cons]
        omega
    · exact le_rfl
  · exact le_rfl

theorem length_trim (cs : List Char) : (Digits.trim cs).length ≤ cs.length := by
  unfold Digits.trim
  exact ((List.rdropWhile_prefix _ _).length_le).trans (List.dropWhile_suffix _).length_le

theorem hexInt_lt {cs : List Char} {n : Nat} (h : hexInt cs = some n) : n < 16 ^ cs.length := by
  unfold hexInt at h
  dsimp only at h
  obtain ⟨digits, hdigits, hread⟩ := Option.bind_eq_some_iff.1 h
  have hlength := (Digits.length_ungroup hdigits).trans (length_afterPrefix _)
  have htrim := length_trim cs
  have hle : digits.length ≤ cs.length := by
    split at hlength
    · rw [List.length_tail, List.length_map] at hlength
      omega
    · rw [List.length_map] at hlength
      omega
  exact (numeral_lt hread).trans_le (Nat.pow_le_pow_right (by decide) hle)

/-- What a text is read as has 128 bits. -/
theorem uuidOfText_lt {text : String} {id : UUID} (h : uuidOfText text = some id) :
    id < 16 ^ 32 := by
  unfold uuidOfText at h
  dsimp only at h
  split at h
  · rename_i hlength
    have hlt := hexInt_lt h
    rw [hlength] at hlt
    exact hlt
  · cases h

/-- A sign, a prefix, an underscore and the digits of another script are read. -/
example : uuidOfText " +0x_0000-0000000000000000000٣_f " = some 63 := by decide

end Discovery
end NetOps
