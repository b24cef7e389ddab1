import Mathlib.Algebra.Group.Nat.Defs
import NetOps.Text

/-!
# Digits

The digits of Unicode 15 and `int` of a text. `str.isdigit` holds of more characters than
those `int` can read: the superscripts and the digits in circles have no decimal value.

* `readInt_of_readable`, `readInt_of_not_readable`: which texts of digits are read.
* `ungroup_digits`, `length_ungroup`: what is left of a numeral without its underscores.
-/

namespace Digits

/-- The zeros of the decimal digits, each followed by the other nine. -/
def zeros : List Nat :=
  [0x30, 0x660, 0x6f0, 0x7c0, 0x966, 0x9e6, 0xa66, 0xae6, 0xb66, 0xbe6, 0xc66, 0xce6, 0xd66, 0xde6,
    0xe50, 0xed0, 0xf20, 0x1040, 0x1090, 0x17e0, 0x1810, 0x1946, 0x19d0, 0x1a80, 0x1a90, 0x1b50,
    0x1bb0, 0x1c40, 0x1c50, 0xa620, 0xa8d0, 0xa900, 0xa9d0, 0xa9f0, 0xaa50, 0xabf0, 0xff10, 0x104a0,
    0x10d30, 0x11066, 0x110f0, 0x11136, 0x111d0, 0x112f0, 0x11450, 0x114d0, 0x11650, 0x116c0,
    0x11730, 0x118e0, 0x11950, 0x11c50, 0x11d50, 0x11da0, 0x11f50, 0x16a60, 0x16ac0, 0x16b50,
    0x1d7ce, 0x1d7d8, 0x1d7e2, 0x1d7ec, 0x1d7f6, 0x1e140, 0x1e2f0, 0x1e4f0, 0x1e950, 0x1fbf0]

/-- First and last of the digits that are not decimal. -/
def others : List (Nat × Nat) :=
  [(0xb2, 0xb3), (0xb9, 0xb9), (0x1369, 0x1371), (0x19da, 0x19da), (0x2070, 0x2070),
    (0x2074, 0x2079), (0x2080, 0x2089), (0x2460, 0x2468), (0x2474, 0x247c), (0x2488, 0x2490),
    (0x24ea, 0x24ea), (0x24f5, 0x24fd), (0x24ff, 0x24ff), (0x2776, 0x277e), (0x2780, 0x2788),
    (0x278a, 0x2792), (0x10a40, 0x10a43), (0x10e60, 0x10e68), (0x11052, 0x1105a),
    (0x1f100, 0x1f10a)]

/-- `unicodedata.decimal(c)`. -/
def decimal (c : Char) : Option Nat :=
  (zeros.find? fun z => z ≤ c.toNat && c.toNat ≤ z + 9).map fun z => c.toNat - z

/-- `c.isdecimal()`. -/
def decimalChar (c : Char) : Bool := (decimal c).isSome

/-- `c.isdigit()`. -/
def digitChar (c : Char) : Bool :=
  decimalChar c || others.any fun range => range.1 ≤ c.toNat && c.toNat ≤ range.2

/-- `text.isdigit()`. -/
def isDigit (text : String) : Bool := text != "" && text.toList.all digitChar

/-- `text.isdecimal()`. -/
def isDecimal (text : String) : Bool := text != "" && text.toList.all decimalChar

/-- The number that a text of decimal digits stands for. -/
def value (text : String) : Nat :=
  text.toList.foldl (fun n c => n * 10 + (decimal c).getD 0) 0

/-- `sys.get_int_max_str_digits()`, if nobody has set it. -/
def maxStrDigits : Nat := 4300

inductive IntError where
  | valueError
  deriving DecidableEq

/-- `int(text)` of a text of digits. -/
def readInt (text : String) : Except IntError Nat :=
  if isDecimal text = true ∧ text.length ≤ maxStrDigits then .ok (value text)
  else .error .valueError

/-- The digits of a numeral: one underscore may stand between two of them. -/
def ungroup (digit : Char → Bool) : List Char → Option (List Char)
  | [] => none
  | [c] => if digit c then some [c] else none
  | c :: '_' :: cs => if digit c then (ungroup digit cs).map (c :: ·) else none
  | c :: d :: cs => if digit c then (ungroup digit (d :: cs)).map (c :: ·) else none

def readNumeral (cs : List Char) : Except IntError Nat :=
  match ungroup decimalChar cs with
  | some digits => readInt (String.ofList digits)
  | none => .error .valueError

/-- A character `int` skips at either end of a text: `str.strip` skips the separators of ASCII
too. -/
def blank (c : Char) : Bool := Text.isSpace c && !(28 ≤ c.toNat && c.toNat ≤ 31)

def trim (cs : List Char) : List Char := (cs.dropWhile blank).rdropWhile blank

/-- The digit of ASCII with the decimal value of a character, if it has one. -/
def asciiDigit (c : Char) : Char := ((decimal c).map Nat.digitChar).getD c

/-- `int(text)` of a stripped text. -/
def int (text : String) : Except IntError Int :=
  match text.toList with
  | '-' :: cs => (readNumeral cs).map fun n : Nat => -(n : Int)
  | '+' :: cs => (readNumeral cs).map Int.ofNat
  | cs => (readNumeral cs).map Int.ofNat

/-- `str(n)`. -/
def writeInt (n : Int) : Except IntError String :=
  if n.natAbs < 10 ^ maxStrDigits then .ok (toString n) else .error .valueError

/-- What `int` reads. -/
def Readable (text : String) : Prop := isDecimal text = true ∧ text.length ≤ maxStrDigits

instance (text : String) : Decidable (Readable text) := inferInstanceAs (Decidable (_ ∧ _))

theorem readInt_of_readable {text : String} (h : Readable text) : readInt text = .ok (value text) :=
  if_pos h

theorem readInt_of_not_readable {text : String} (h : ¬Readable text) :
    readInt text = .error .valueError := if_neg h

theorem isDigit_of_isDecimal {text : String} (h : isDecimal text = true) : isDigit text = true := by
  unfold isDecimal at h
  unfold isDigit
  rw [Bool.and_eq_true] at h ⊢
  refine ⟨h.1, ?_⟩
  rw [List.all_eq_true] at h ⊢
  intro c hc
  unfold digitChar
  rw [h.2 c hc, Bool.true_or]

/-! ## Numerals -/

/-- A numeral without underscores. -/
theorem ungroup_digits {digit : Char → Bool} {cs : List Char} (hne : cs ≠ [])
    (hunderscore : digit '_' = false) (h : ∀ c ∈ cs, digit c = true) :
    ungroup digit cs = some cs := by
  induction cs with
  | nil => exact absurd rfl hne
  | cons c cs ih =>
    have hc := h c List.mem_cons_self
    cases cs with
    | nil => rw [ungroup, if_pos hc]
    | cons d cs =>
      have hd : d ≠ '_' := by
        rintro rfl
        rw [h '_' (by simp)] at hunderscore
        cases hunderscore
      have hrest := ih (List.cons_ne_nil d cs) fun e he => h e (List.mem_cons_of_mem c he)
      rw [ungroup, if_pos hc, hrest]
      · rfl
      · exact fun hd' => hd hd'

theorem length_ungroup {digit : Char → Bool} {cs digits : List Char}
    (h : ungroup digit cs = some digits) : digits.length ≤ cs.length := by
  fun_induction ungroup digit cs generalizing digits with
  | case2 c hc =>
    cases h
    exact le_rfl
  | case4 c cs hc ih =>
    obtain ⟨rest, hrest, rfl⟩ := Option.map_eq_some_iff.1 h
    have := ih hrest
    simp only [List.length_cons]
    omega
  | case6 c d cs hd hc ih =>
    obtain ⟨rest, hrest, rfl⟩ := Option.map_eq_some_iff.1 h
    have := ih hrest
    simp only [List.length_cons] at this ⊢
    omega
  | case1 | case3 | case5 | case7 => cases h

end Digits
