import NetOps.Net.IpAddress

/-!
# Json.Strings

The string literals of JSON texts: how a writer escapes the characters of a string, how a reader
undoes it, and that the reader gets back what any writer wrote (`readChars_writeChars`).

A writer decides which characters it leaves as they are; every other one becomes `\uXXXX`, two of
them for a character beyond 16 bits.
-/

namespace NetOps
namespace Json

open Net (hexValue)

def quote : Char := '\x22'

def backslash : Char := '\x5c'

/-! ## Writing -/

/-- The characters with an escape of two characters, and what follows the backslash there. -/
def shortEscapes : List (Char × Char) :=
  [(quote, quote), (backslash, backslash), ('\n', 'n'), ('\r', 'r'), ('\t', 't'), ('\x0c', 'f'),
    ('\x08', 'b')]

def shortEscape? (c : Char) : Option Char := (shortEscapes.find? (·.1 = c)).map (·.2)

/-- The four hexadecimal digits of a code unit. -/
def unitDigits (u : Nat) : List Char :=
  [(u / 4096 % 16).digitChar, (u / 256 % 16).digitChar, (u / 16 % 16).digitChar,
    (u % 16).digitChar]

/-- The escape of a code unit. -/
def escapeUnit (u : Nat) : List Char := backslash :: 'u' :: unitDigits u

/-- A character beyond 16 bits is written as a pair of surrogates. -/
def escapeUnicode (c : Char) : List Char :=
  if c.toNat < 0x10000 then escapeUnit c.toNat
  else escapeUnit (0xD800 + (c.toNat - 0x10000) / 0x400) ++
    escapeUnit (0xDC00 + (c.toNat - 0x10000) % 0x400)

/-- How a writer that leaves the `plain` characters as they are writes a character. -/
def escape (plain : Char → Bool) (c : Char) : List Char :=
  match shortEscape? c with
  | some e => [backslash, e]
  | none => if plain c then [c] else escapeUnicode c

def writeChars (plain : Char → Bool) (cs : List Char) : List Char := cs.flatMap (escape plain)

/-! ## Reading -/

def shortUnescape? (e : Char) : Option Char :=
  ((('/', '/') :: shortEscapes).find? (·.2 = e)).map (·.1)

/-- A code unit from its four digits. -/
def readUnit : List Char → Option (Nat × List Char)
  | a :: b :: c :: d :: text => do
    let a ← hexValue a
    let b ← hexValue b
    let c ← hexValue c
    let d ← hexValue d
    return (a * 4096 + b * 256 + c * 16 + d, text)
  | _ => none

/-- The second half of a pair of surrogates. -/
def readLow (high : Nat) : List Char → Option (Char × List Char)
  | e :: u :: text =>
    if e = backslash ∧ u = 'u' then
      (readUnit text).bind fun (low, text) =>
        if 0xDC00 ≤ low ∧ low < 0xE000 then
          some (Char.ofNat (0x10000 + (high - 0xD800) * 0x400 + (low - 0xDC00)), text)
        else none
    else none
  | _ => none

/-- The character a code unit begins. A surrogate without its other half is no character. -/
def readUnicode (u : Nat) (text : List Char) : Option (Char × List Char) :=
  if u < 0xD800 ∨ 0xE000 ≤ u then some (Char.ofNat u, text)
  else if u < 0xDC00 then readLow u text
  else none

/-- What follows a backslash. -/
def readEscape : List Char → Option (Char × List Char)
  | [] => none
  | e :: text =>
    if e = 'u' then (readUnit text).bind fun (u, text) => readUnicode u text
    else (shortUnescape? e).map fun c => (c, text)

def readChar : List Char → Option (Char × List Char)
  | [] => none
  | c :: text =>
    if c = backslash then readEscape text
    else if c.toNat < 32 then none
    else some (c, text)

/-- The characters up to the closing quote, and what follows it. -/
def readChars : Nat → List Char → Option (List Char × List Char)
  | 0, _ => none
  | _ + 1, [] => none
  | fuel + 1, c :: text =>
    if c = quote then some ([], text)
    else (readChar (c :: text)).bind fun (c, text) =>
      (readChars fuel text).map fun (cs, text) => (c :: cs, text)

/-! ## What was written is read -/

theorem hexValue_digitChar : ∀ d, d < 16 → hexValue d.digitChar = some d := by decide

theorem readUnit_unitDigits {u : Nat} (h : u < 0x10000) (text : List Char) :
    readUnit (unitDigits u ++ text) = some (u, text) := by
  have hdigit : ∀ k, hexValue (k % 16).digitChar = some (k % 16) := by
    intro k
    exact hexValue_digitChar _ (Nat.mod_lt k (by decide))
  have hsum : u / 4096 % 16 * 4096 + u / 256 % 16 * 256 + u / 16 % 16 * 16 + u % 16 = u := by
    omega
  simp only [unitDigits, List.cons_append, List.nil_append, readUnit, hdigit, Option.bind_eq_bind,
    Option.bind_some, hsum]
  rfl

theorem shortUnescape?_of_mem {p : Char × Char} (h : p ∈ shortEscapes) :
    shortUnescape? p.2 = some p.1 ∧ p.2 ≠ 'u' := by
  have hall : shortEscapes.all
      (fun p => shortUnescape? p.2 = some p.1 ∧ p.2 ≠ 'u') = true := by decide
  exact of_decide_eq_true (List.all_eq_true.1 hall p h)

/-- A character's code is no surrogate. -/
theorem toNat_valid (c : Char) :
    c.toNat < 0xD800 ∨ (0xE000 ≤ c.toNat ∧ c.toNat < 0x110000) := by
  rcases c.valid with h | h
  · exact .inl h
  · refine .inr ⟨?_, h.2⟩
    have hlt : 0xDFFF < c.toNat := h.1
    omega

theorem readChar_escapeUnit {u : Nat} (h : u < 0x10000) (text : List Char) :
    readChar (escapeUnit u ++ text) = readUnicode u text := by
  simp only [escapeUnit, List.cons_append, readChar, if_true, readEscape,
    readUnit_unitDigits h, Option.bind_some]

theorem readChar_escapeUnicode (c : Char) (text : List Char) :
    readChar (escapeUnicode c ++ text) = some (c, text) := by
  have hvalid := toNat_valid c
  unfold escapeUnicode
  split
  · rename_i hsmall
    have hno : c.toNat < 0xD800 ∨ 0xE000 ≤ c.toNat := by omega
    rw [readChar_escapeUnit hsmall, readUnicode, if_pos hno, Char.ofNat_toNat]
  · rename_i hbig
    have hhigh : ¬(0xD800 + (c.toNat - 0x10000) / 0x400 < 0xD800 ∨
        0xE000 ≤ 0xD800 + (c.toNat - 0x10000) / 0x400) := by
      omega
    have hlow : 0xDC00 ≤ 0xDC00 + (c.toNat - 0x10000) % 0x400 ∧
        0xDC00 + (c.toNat - 0x10000) % 0x400 < 0xE000 := by
      omega
    have hcode : 0x10000 + (0xD800 + (c.toNat - 0x10000) / 0x400 - 0xD800) * 0x400 +
        (0xDC00 + (c.toNat - 0x10000) % 0x400 - 0xDC00) = c.toNat := by
      omega
    rw [List.append_assoc, readChar_escapeUnit (by omega), readUnicode, if_neg hhigh,
      if_pos (by omega)]
    simp only [escapeUnit, List.cons_append, readLow, and_self, if_true]
    rw [readUnit_unitDigits (by omega), Option.bind_some, if_pos hlow, hcode, Char.ofNat_toNat]

theorem escape_of_short {plain : Char → Bool} {c e : Char} (h : shortEscape? c = some e) :
    escape plain c = [backslash, e] := by
  simp only [escape, h]

theorem escape_of_long {plain : Char → Bool} {c : Char} (h : shortEscape? c = none) :
    escape plain c = if plain c then [c] else escapeUnicode c := by
  simp only [escape, h]

/-- Quotes and backslashes have short escapes. -/
theorem ne_of_long {c : Char} (h : shortEscape? c = none) : c ≠ quote ∧ c ≠ backslash := by
  constructor
  · rintro rfl
    revert h
    decide
  · rintro rfl
    revert h
    decide

variable {plain : Char → Bool}

theorem readChar_escape (hplain : ∀ c, plain c = true → 32 ≤ c.toNat) (c : Char)
    (text : List Char) : readChar (escape plain c ++ text) = some (c, text) := by
  cases h : shortEscape? c with
  | some e =>
    obtain ⟨p, hp, rfl⟩ := Option.map_eq_some_iff.1 h
    obtain ⟨hread, hu⟩ := shortUnescape?_of_mem (List.mem_of_find?_eq_some hp)
    have hc : p.1 = c := by simpa using List.find?_some hp
    rw [escape_of_short h]
    simp only [List.cons_append, List.nil_append, readChar, if_true, readEscape, if_neg hu, hread,
      Option.map_some, hc]
  | none =>
    rw [escape_of_long h]
    split
    · rename_i hc
      have hcode := hplain c hc
      rw [List.cons_append, List.nil_append, readChar, if_neg (ne_of_long h).2,
        if_neg (by omega)]
    · exact readChar_escapeUnicode c text

/-- What a character is written as is not empty and does not begin with a quote. -/
theorem escape_eq_cons (plain : Char → Bool) (c : Char) :
    ∃ d ds, escape plain c = d :: ds ∧ d ≠ quote := by
  cases h : shortEscape? c with
  | some e => exact ⟨backslash, [e], escape_of_short h, by decide⟩
  | none =>
    rw [escape_of_long h]
    split
    · exact ⟨c, [], rfl, (ne_of_long h).1⟩
    · unfold escapeUnicode
      split
      · exact ⟨backslash, _, rfl, by decide⟩
      · exact ⟨backslash, _, rfl, by decide⟩

theorem length_le_writeChars (plain : Char → Bool) (cs : List Char) :
    cs.length ≤ (writeChars plain cs).length := by
  induction cs with
  | nil => exact Nat.le_refl 0
  | cons c cs ih =>
    obtain ⟨d, ds, hescape, -⟩ := escape_eq_cons plain c
    simp only [writeChars, List.flatMap_cons, hescape, List.cons_append, List.length_cons,
      List.length_append] at ih ⊢
    omega

theorem readChars_writeChars (hplain : ∀ c, plain c = true → 32 ≤ c.toNat) (cs : List Char)
    {fuel : Nat} (hfuel : cs.length < fuel) (text : List Char) :
    readChars fuel (writeChars plain cs ++ quote :: text) = some (cs, text) := by
  induction cs generalizing fuel with
  | nil =>
    obtain ⟨fuel, rfl⟩ := Nat.exists_eq_add_of_lt hfuel
    simp [writeChars, readChars]
  | cons c cs ih =>
    cases fuel with
    | zero => exact absurd hfuel (Nat.not_lt_zero _)
    | succ fuel =>
      obtain ⟨d, ds, hescape, hquote⟩ := escape_eq_cons plain c
      have hread := readChar_escape hplain c (writeChars plain cs ++ quote :: text)
      have hrest := ih (Nat.lt_of_succ_lt_succ hfuel)
      rw [writeChars, List.flatMap_cons, ← writeChars, List.append_assoc]
      rw [hescape, List.cons_append] at hread ⊢
      simp only [readChars, if_neg hquote, hread, Option.bind_some, hrest, Option.map_some]

end Json
end NetOps
