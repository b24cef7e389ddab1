import Mathlib.Algebra.Group.Nat.Defs
import Mathlib.Data.List.TakeDrop
import Mathlib.Tactic.Common

/-!
# Clock.Stamps

Datetimes with a UTC offset in whole minutes, their ISO texts and a reader of such texts, which
gets the datetime back from either of its texts (`ofText_text`).
-/

namespace NetOps
namespace Clock

def leapYear (year : Nat) : Bool := year % 4 = 0 && (year % 100 ≠ 0 || year % 400 = 0)

def daysIn (year month : Nat) : Nat :=
  if month = 2 then if leapYear year then 29 else 28
  else if month = 4 ∨ month = 6 ∨ month = 9 ∨ month = 11 then 30
  else 31

/-- What a datetime's text says; the offset is in minutes east. -/
structure Reading where
  year : Nat
  month : Nat
  day : Nat
  hour : Nat
  minute : Nat
  second : Nat
  microsecond : Nat
  offset : Int
  deriving DecidableEq

namespace Reading

structure Valid (r : Reading) : Prop where
  year : 1 ≤ r.year ∧ r.year ≤ 9999
  month : 1 ≤ r.month ∧ r.month ≤ 12
  day : 1 ≤ r.day ∧ r.day ≤ daysIn r.year r.month
  hour : r.hour < 24
  minute : r.minute < 60
  second : r.second < 60
  microsecond : r.microsecond < 1000000
  offset : r.offset.natAbs < 24 * 60

instance (r : Reading) : Decidable r.Valid :=
  decidable_of_iff ((1 ≤ r.year ∧ r.year ≤ 9999) ∧ (1 ≤ r.month ∧ r.month ≤ 12) ∧
      (1 ≤ r.day ∧ r.day ≤ daysIn r.year r.month) ∧ r.hour < 24 ∧ r.minute < 60 ∧
      r.second < 60 ∧ r.microsecond < 1000000 ∧ r.offset.natAbs < 24 * 60)
    ⟨fun ⟨h, h1, h2, h3, h4, h5, h6, h7⟩ => ⟨h, h1, h2, h3, h4, h5, h6, h7⟩,
      fun ⟨h, h1, h2, h3, h4, h5, h6, h7⟩ => ⟨h, h1, h2, h3, h4, h5, h6, h7⟩⟩

end Reading

/-- An aware datetime. -/
def Stamp : Type := { r : Reading // r.Valid }

instance : DecidableEq Stamp := inferInstanceAs (DecidableEq { r : Reading // r.Valid })

/-! ## Writing -/

/-- The last `width` decimal digits of a number. -/
def padded : Nat → Nat → List Char
  | 0, _ => []
  | width + 1, n => padded width (n / 10) ++ [(n % 10).digitChar]

def fraction (microsecond : Nat) : List Char :=
  if microsecond = 0 then [] else '.' :: padded 6 microsecond

def zone (offset : Int) : List Char :=
  (if offset < 0 then '-' else '+') ::
    (padded 2 (offset.natAbs / 60) ++ ':' :: padded 2 (offset.natAbs % 60))

/-- The texts of a datetime differ in what stands between date and time and in how UTC is
written. -/
structure Form where
  separator : Char
  utc : Bool

namespace Form

/-- `str(value)`. -/
def spaced : Form := { separator := ' ', utc := false }

/-- The text of a datetime in JSON made by `pydantic`. -/
def iso : Form := { separator := 'T', utc := true }

def zone (form : Form) (offset : Int) : List Char :=
  if form.utc = true ∧ offset = 0 then ['Z'] else Clock.zone offset

end Form

def Reading.text (form : Form) (r : Reading) : List Char :=
  padded 4 r.year ++ '-' :: (padded 2 r.month ++ '-' :: (padded 2 r.day ++
    form.separator :: (padded 2 r.hour ++ ':' :: (padded 2 r.minute ++ ':' ::
      (padded 2 r.second ++ (fraction r.microsecond ++ form.zone r.offset))))))

def Stamp.text (form : Form) (t : Stamp) : List Char := t.val.text form

/-! ## Reading -/

/-- A numeral of so many digits. -/
def readDigits (width : Nat) (text : List Char) : Option (Nat × List Char) :=
  if (text.take width).length = width ∧ (text.take width).all Char.isDigit = true then
    some (Nat.ofDigitChars 10 (text.take width) 0, text.drop width)
  else none

def expect (d : Char) : List Char → Option (List Char)
  | [] => none
  | c :: text => if c = d then some text else none

/-- What may stand between date and time. -/
def separates (c : Char) : Bool := c = 'T' || c = 't' || c = ' ' || c = '_'

def readSeparator : List Char → Option (List Char)
  | [] => none
  | c :: text => if separates c then some text else none

/-- The microseconds of a fraction of a second, which has up to nine digits; from the seventh on
they are dropped. -/
def readFraction : List Char → Option (Nat × List Char)
  | [] => some (0, [])
  | c :: text =>
    if c = '.' then
      if (text.takeWhile Char.isDigit).length = 0 ∨ 9 < (text.takeWhile Char.isDigit).length then
        none
      else
        some (Nat.ofDigitChars 10 ((text.takeWhile Char.isDigit).take 6) 0 *
          10 ^ (6 - (text.takeWhile Char.isDigit).length), text.dropWhile Char.isDigit)
    else some (0, c :: text)

/-- The minutes of an offset, with or without a colon. -/
def readOffset (text : List Char) : Option Nat :=
  (readDigits 2 text).bind fun (hours, text) =>
    (readDigits 2 (if text.head? = some ':' then text.tail else text)).bind
      fun (minutes, text) =>
        if text = [] ∧ minutes < 60 then some (hours * 60 + minutes) else none

def readZone : List Char → Option Int
  | [] => none
  | c :: text =>
    if c = 'Z' ∨ c = 'z' then if text = [] then some 0 else none
    else if c = '+' then (readOffset text).map fun (n : Nat) => (n : Int)
    else if c = '-' then (readOffset text).map fun (n : Nat) => -(n : Int)
    else none

def readText (text : List Char) : Option Reading := do
  let (year, text) ← readDigits 4 text
  let text ← expect '-' text
  let (month, text) ← readDigits 2 text
  let text ← expect '-' text
  let (day, text) ← readDigits 2 text
  let text ← readSeparator text
  let (hour, text) ← readDigits 2 text
  let text ← expect ':' text
  let (minute, text) ← readDigits 2 text
  let text ← expect ':' text
  let (second, text) ← readDigits 2 text
  let (microsecond, text) ← readFraction text
  let offset ← readZone text
  return { year, month, day, hour, minute, second, microsecond, offset }

def Stamp.ofText (text : List Char) : Option Stamp :=
  (readText text).bind fun r => if h : r.Valid then some ⟨r, h⟩ else none

/-! ## What was written is read -/

@[simp] theorem length_padded (width n : Nat) : (padded width n).length = width := by
  induction width generalizing n with
  | zero => rfl
  | succ width ih => simp [padded, ih]

theorem isDigit_digitChar : ∀ d, d < 10 → d.digitChar.isDigit = true := by decide

theorem isDigit_of_mem_padded {width n : Nat} {c : Char} (h : c ∈ padded width n) :
    c.isDigit = true := by
  induction width generalizing n with
  | zero => cases h
  | succ width ih =>
    rw [padded, List.mem_append, List.mem_singleton] at h
    rcases h with h | rfl
    · exact ih h
    · exact isDigit_digitChar _ (Nat.mod_lt n (by decide))

theorem ofDigitChars_padded {width n : Nat} (h : n < 10 ^ width) :
    Nat.ofDigitChars 10 (padded width n) 0 = n := by
  induction width generalizing n with
  | zero =>
    have hn : n = 0 := by simpa using h
    rw [hn]
    rfl
  | succ width ih =>
    have hlt : n / 10 < 10 ^ width := by
      rw [Nat.pow_succ] at h
      omega
    rw [padded, Nat.ofDigitChars_append, ih hlt,
      Nat.ofDigitChars_cons_digitChar_of_lt_ten (Nat.mod_lt n (by decide)), Nat.ofDigitChars_nil]
    omega

theorem readDigits_padded {width n : Nat} (h : n < 10 ^ width) (text : List Char) :
    readDigits width (padded width n ++ text) = some (n, text) := by
  have htake : (padded width n ++ text).take width = padded width n := by
    simp
  have hdrop : (padded width n ++ text).drop width = text := by
    simp
  have hall : (padded width n).all Char.isDigit = true := by
    rw [List.all_eq_true]
    intro c hc
    exact isDigit_of_mem_padded hc
  rw [readDigits, htake, hdrop, if_pos ⟨length_padded width n, hall⟩, ofDigitChars_padded h]

@[simp] theorem expect_cons (d : Char) (text : List Char) : expect d (d :: text) = some text := by
  rw [expect, if_pos rfl]

/-- A zone does not go on with a digit, nor with a point. -/
theorem zone_eq_cons (form : Form) (offset : Int) :
    ∃ c cs, form.zone offset = c :: cs ∧ c.isDigit = false ∧ c ≠ '.' := by
  unfold Form.zone
  split
  · exact ⟨'Z', [], rfl, by decide⟩
  · unfold zone
    split
    · exact ⟨'-', _, rfl, by decide⟩
    · exact ⟨'+', _, rfl, by decide⟩

theorem readFraction_fraction {microsecond : Nat} (h : microsecond < 1000000) (form : Form)
    (offset : Int) : readFraction (fraction microsecond ++ form.zone offset) =
      some (microsecond, form.zone offset) := by
  obtain ⟨c, cs, hzone, hdigit, hpoint⟩ := zone_eq_cons form offset
  unfold fraction
  split
  · rename_i hzero
    rw [List.nil_append, hzone, readFraction, if_neg hpoint, hzero]
  · have hall : ∀ d ∈ padded 6 microsecond, d.isDigit = true := fun d hd =>
      isDigit_of_mem_padded hd
    have htake : (padded 6 microsecond ++ form.zone offset).takeWhile Char.isDigit =
        padded 6 microsecond := by
      rw [List.takeWhile_append_of_pos hall, hzone]
      simp [hdigit]
    have hdrop : (padded 6 microsecond ++ form.zone offset).dropWhile Char.isDigit =
        form.zone offset := by
      rw [List.dropWhile_append_of_pos hall, hzone]
      simp [hdigit]
    have hfirst : (padded 6 microsecond).take 6 = padded 6 microsecond := by
      simp [List.take_of_length_le]
    simp only [List.cons_append, readFraction, if_true, htake, hdrop, length_padded, hfirst]
    rw [if_neg (by decide), ofDigitChars_padded h]
    simp

theorem readOffset_padded {n : Nat} (h : n < 24 * 60) :
    readOffset (padded 2 (n / 60) ++ ':' :: padded 2 (n % 60)) = some n := by
  have hhours := readDigits_padded (show n / 60 < 10 ^ 2 by omega)
  have hminutes := readDigits_padded (show n % 60 < 10 ^ 2 by omega) []
  have hlt : n % 60 < 60 := by omega
  have hsum : n / 60 * 60 + n % 60 = n := by omega
  rw [List.append_nil] at hminutes
  simp only [readOffset, hhours, Option.bind_some, List.head?_cons, if_true, List.tail_cons,
    hminutes, hlt, and_self, hsum]

theorem readZone_zone (form : Form) {offset : Int} (h : offset.natAbs < 24 * 60) :
    readZone (form.zone offset) = some offset := by
  have hread := readOffset_padded h
  unfold Form.zone
  split
  · rename_i hutc
    rw [hutc.2]
    rfl
  · unfold zone
    split
    · rename_i hneg
      have hother : ¬('-' = 'Z' ∨ '-' = 'z') ∧ '-' ≠ '+' := by decide
      simp only [readZone, if_neg hother.1, if_neg hother.2, if_true, hread, Option.map_some,
        Option.some.injEq]
      omega
    · rename_i hpos
      have hother : ¬('+' = 'Z' ∨ '+' = 'z') := by decide
      simp only [readZone, if_neg hother, if_true, hread, Option.map_some, Option.some.injEq]
      omega

theorem readText_text {form : Form} (hform : separates form.separator = true) {r : Reading}
    (h : r.Valid) : readText (r.text form) = some r := by
  have hdays : daysIn r.year r.month ≤ 31 := by
    unfold daysIn
    split
    · split <;> omega
    · split <;> omega
  have hyear := readDigits_padded (show r.year < 10 ^ 4 by have := h.year; omega)
  have hmonth := readDigits_padded (show r.month < 10 ^ 2 by have := h.month; omega)
  have hday := readDigits_padded (show r.day < 10 ^ 2 by have := h.day; omega)
  have hhour := readDigits_padded (show r.hour < 10 ^ 2 by have := h.hour; omega)
  have hminute := readDigits_padded (show r.minute < 10 ^ 2 by have := h.minute; omega)
  have hsecond := readDigits_padded (show r.second < 10 ^ 2 by have := h.second; omega)
  simp only [readText, Reading.text, hyear, hmonth, hday, hhour, hminute, hsecond,
    readSeparator, hform, if_true, expect_cons, readFraction_fraction h.microsecond form r.offset,
    readZone_zone form h.offset, Option.bind_eq_bind, Option.bind_some]
  rfl

theorem Stamp.ofText_text {form : Form} (hform : separates form.separator = true) (t : Stamp) :
    Stamp.ofText (t.text form) = some t := by
  rw [Stamp.ofText, Stamp.text, readText_text hform t.property, Option.bind_some,
    dif_pos t.property]
  rfl

end Clock
end NetOps
