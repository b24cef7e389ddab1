import Mathlib.Data.List.DropRight
import Mathlib.Data.List.Infix

/-!
# Text

The methods of Python's `str` the code uses, on lists of characters.
-/

namespace Text

/-- `str.isspace` of one character. -/
def isSpace (c : Char) : Bool :=
  (9 ≤ c.toNat && c.toNat ≤ 13) || (28 ≤ c.toNat && c.toNat ≤ 32) ||
    (0x2000 ≤ c.toNat && c.toNat ≤ 0x200a) ||
    [0x85, 0xa0, 0x1680, 0x2028, 0x2029, 0x202f, 0x205f, 0x3000].contains c.toNat

/-- `text.strip()`. -/
def strip (text : String) : String :=
  String.ofList ((text.toList.dropWhile isSpace).rdropWhile isSpace)

/-- `text.lower()` of one character. Of the characters outside ASCII, the lower case of the Kelvin
sign is a letter of ASCII and that of the capital sharp s has one as its upper case. -/
def lowerChar (c : Char) : Char :=
  if c.toNat = 0x212a then 'k' else if c.toNat = 0x1e9e then 'ß' else c.toLower

def lower (text : String) : String := String.ofList (text.toList.map lowerChar)

/-- The characters outside ASCII whose upper case is in ASCII: sharp s, dotless i, long s and the
ligatures. -/
def specialUpper : List (Nat × List Char) :=
  [(0xdf, ['S', 'S']), (0x131, ['I']), (0x17f, ['S']), (0xfb00, ['F', 'F']), (0xfb01, ['F', 'I']),
    (0xfb02, ['F', 'L']), (0xfb03, ['F', 'F', 'I']), (0xfb04, ['F', 'F', 'L']),
    (0xfb05, ['S', 'T']), (0xfb06, ['S', 'T'])]

/-- `text.upper()` of one character. -/
def upperChars (c : Char) : List Char := (specialUpper.lookup c.toNat).getD [c.toUpper]

def upper (text : String) : String := String.ofList (text.toList.flatMap upperChars)

example : upper "ßh" = "SSH" := by decide

/-- `part in text`. -/
def hasPart (part text : String) : Bool := decide (part.toList <:+: text.toList)

/-- `any(term in text for term in terms)`. -/
def hasAny (terms : List String) (text : String) : Bool := terms.any fun t => hasPart t text

/-- `text.strip(c)`. -/
def stripChar (c : Char) (text : String) : String :=
  String.ofList ((text.toList.dropWhile (· == c)).rdropWhile (· == c))

/-- `text.replace(a, b)` for single characters. -/
def replaceChar (a b : Char) (text : String) : String :=
  String.ofList (text.toList.map fun c => if c = a then b else c)

/-- `re.sub(r"\s+", b, text)`; `inSpace` says whether the last character was a space. -/
def joinSpacesFrom (b : Char) (inSpace : Bool) : List Char → List Char
  | [] => []
  | c :: cs =>
    if isSpace c then
      if inSpace then joinSpacesFrom b true cs else b :: joinSpacesFrom b true cs
    else c :: joinSpacesFrom b false cs

def joinSpaces (b : Char) (text : String) : String :=
  String.ofList (joinSpacesFrom b false text.toList)

/-- `text[:n]`. -/
def take (n : Nat) (text : String) : String := String.ofList (text.toList.take n)

/-- `text or default`. -/
def orElse (text default : String) : String := if text = "" then default else text

/-- `text.rstrip()`. -/
def rstrip (text : String) : String := String.ofList (text.toList.rdropWhile isSpace)

/-- The characters that end a line. -/
def isLineEnd (c : Char) : Bool :=
  [10, 11, 12, 13, 0x1c, 0x1d, 0x1e, 0x85, 0x2028, 0x2029].contains c.toNat

/-- The lines of a text; `line` is what has been read of the current one, backwards. -/
def splitLinesFrom (line : List Char) : List Char → List (List Char)
  | [] => if line = [] then [] else [line.reverse]
  | '\r' :: '\n' :: cs => line.reverse :: splitLinesFrom [] cs
  | c :: cs =>
    if isLineEnd c then line.reverse :: splitLinesFrom [] cs else splitLinesFrom (c :: line) cs

/-- `text.splitlines()`. -/
def splitLines (text : String) : List String :=
  (splitLinesFrom [] text.toList).map String.ofList

/-- The words of a text; `word` is what has been read of the current one, backwards. -/
def wordsFrom (word : List Char) : List Char → List (List Char)
  | [] => if word = [] then [] else [word.reverse]
  | c :: cs =>
    if isSpace c then (if word = [] then [] else [word.reverse]) ++ wordsFrom [] cs
    else wordsFrom (c :: word) cs

/-- `text.split()`. -/
def words (text : String) : List String := (wordsFrom [] text.toList).map String.ofList

/-- `text.split(c, 1)[0]`. -/
def before (c : Char) (text : String) : String := String.ofList (text.toList.takeWhile (· != c))

/-- `text.partition(c)[2]`: what follows the first `c`. -/
def after (c : Char) (text : String) : String :=
  String.ofList ((text.toList.dropWhile (· != c)).drop 1)

/-- `text.rsplit(c, 1)[-1]`: what follows the last `c`, or the text. -/
def afterLast (c : Char) (text : String) : String :=
  String.ofList (text.toList.rtakeWhile (· != c))

/-- `text.startswith(part)`. -/
def hasPrefix (part text : String) : Bool := part.toList.isPrefixOf text.toList

/-- `text.isdigit()`, for digits of ASCII. -/
def isDigits (text : String) : Bool := text != "" && text.toList.all (·.isDigit)

/-- `int(text)` of a text of digits. -/
def natOfDigits (text : String) : Nat :=
  text.toList.foldl (fun n c => n * 10 + (c.toNat - '0'.toNat)) 0

/-- `int(text)`, for digits of ASCII, with a sign and without separators. -/
def int? (text : String) : Option Int :=
  match (strip text).toList with
  | '-' :: cs =>
    if isDigits (String.ofList cs) then some (-natOfDigits (String.ofList cs)) else none
  | '+' :: cs => if isDigits (String.ofList cs) then some (natOfDigits (String.ofList cs)) else none
  | cs => if isDigits (String.ofList cs) then some (natOfDigits (String.ofList cs)) else none

/-! ## Letters and spaces -/

theorem toLower_cases (c : Char) :
    c.toLower = c ∧ ¬ (65 ≤ c.toNat ∧ c.toNat ≤ 90) ∨
      65 ≤ c.toNat ∧ c.toNat ≤ 90 ∧ c.toLower.toNat = c.toNat + 32 := by
  unfold Char.toLower
  split
  · rename_i h
    right
    have h1 : 65 ≤ c.toNat := by simpa [UInt32.le_iff_toNat_le] using h.1
    have h2 : c.toNat ≤ 90 := by simpa [UInt32.le_iff_toNat_le] using h.2
    refine ⟨h1, h2, ?_⟩
    show (c.val + 32).toNat = _
    rw [UInt32.toNat_add]
    have : c.val.toNat = c.toNat := rfl
    simp
    omega
  · rename_i h
    refine .inl ⟨rfl, fun hc => h ⟨?_, ?_⟩⟩
    · simpa [UInt32.le_iff_toNat_le] using hc.1
    · simpa [UInt32.le_iff_toNat_le] using hc.2

theorem toUpper_cases (c : Char) :
    c.toUpper = c ∧ ¬ (97 ≤ c.toNat ∧ c.toNat ≤ 122) ∨
      97 ≤ c.toNat ∧ c.toNat ≤ 122 ∧ c.toUpper.toNat = c.toNat - 32 := by
  unfold Char.toUpper
  split
  · rename_i h
    right
    have h1 : 97 ≤ c.toNat := by simpa [UInt32.le_iff_toNat_le] using h.1
    have h2 : c.toNat ≤ 122 := by simpa [UInt32.le_iff_toNat_le] using h.2
    refine ⟨h1, h2, ?_⟩
    show (c.val + 4294967264).toNat = _
    rw [UInt32.toNat_add]
    have : c.val.toNat = c.toNat := rfl
    simp
    omega
  · rename_i h
    refine .inl ⟨rfl, fun hc => h ⟨?_, ?_⟩⟩
    · simpa [UInt32.le_iff_toNat_le] using hc.1
    · simpa [UInt32.le_iff_toNat_le] using hc.2

/-- Of a character outside the table, the upper case is one character; of the others it starts with
a letter no protocol without `s`, `i` and `f` has. -/
theorem upperChars_cases (c : Char) :
    (specialUpper.lookup c.toNat = none ∧ upperChars c = [c.toUpper]) ∨
      ∃ n ∈ specialUpper.map Prod.fst, c.toNat = n ∧
        ∃ u us, upperChars c = u :: us ∧ u ∈ ['S', 'I', 'F'] := by
  unfold upperChars
  cases h : specialUpper.lookup c.toNat with
  | none => exact .inl ⟨rfl, rfl⟩
  | some us =>
    obtain ⟨l₁, l₂, htable, -⟩ := List.lookup_eq_some_iff.1 h
    have hmem : (c.toNat, us) ∈ specialUpper := by
      rw [htable]
      simp
    have hfirst : ∀ p ∈ specialUpper, ∃ u us, p.2 = u :: us ∧ u ∈ ['S', 'I', 'F'] := by
      intro p hp
      have hall :
          specialUpper.all (fun p => p.2.head?.any (['S', 'I', 'F'].contains ·)) = true := by
        decide
      have hhead := List.all_eq_true.1 hall p hp
      cases hus : p.2 with
      | nil => rw [hus] at hhead; cases hhead
      | cons u us =>
        rw [hus] at hhead
        exact ⟨u, us, rfl, by simpa using hhead⟩
    exact .inr ⟨_, List.mem_map_of_mem hmem, rfl, hfirst _ hmem⟩

theorem upperChars_of_ascii {c : Char} (h : c.toNat < 128) : upperChars c = [c.toUpper] := by
  rcases upperChars_cases c with ⟨-, heq⟩ | ⟨n, hn, hnat, -⟩
  · exact heq
  · have hall : ∀ n ∈ specialUpper.map Prod.fst, 128 ≤ n := by decide
    have := hall n hn
    omega

/-- A letter other than `k` that `lower` makes is the `lower` of that letter, in either case. -/
theorem upperChars_of_lowerChar {c l : Char} (hl : 97 ≤ l.toNat ∧ l.toNat ≤ 122) (hk : l ≠ 'k')
    (h : lowerChar c = l) : upperChars c = [l.toUpper] := by
  obtain ⟨h1, h2⟩ := hl
  have hup : l.toUpper.toNat = l.toNat - 32 := by
    rcases toUpper_cases l with ⟨-, hn⟩ | ⟨-, -, h'⟩
    · exact absurd ⟨h1, h2⟩ hn
    · exact h'
  unfold lowerChar at h
  split at h
  · exact absurd h.symm hk
  split at h
  · have hsharp : 'ß'.toNat = 0xdf := by decide
    have := congrArg Char.toNat h
    omega
  · rcases toLower_cases c with ⟨heq, -⟩ | ⟨ha, hz, hlow⟩
    · rw [heq] at h
      subst h
      exact upperChars_of_ascii (by omega)
    · rw [h] at hlow
      rw [upperChars_of_ascii (by omega)]
      congr 1
      refine Char.toNat_inj.1 ?_
      rcases toUpper_cases c with ⟨heq, -⟩ | ⟨h', -, -⟩
      · rw [heq]
        omega
      · omega

/-- A character in lower case whose upper case starts with that of a letter is the letter, unless
characters outside ASCII share its upper case. -/
theorem lowerChar_of_upperChars {c l : Char} {us ls : List Char}
    (hl : 97 ≤ l.toNat ∧ l.toNat ≤ 122) (hs : l ≠ 's') (hi : l ≠ 'i') (hf : l ≠ 'f')
    (h : upperChars (lowerChar c) ++ us = l.toUpper :: ls) : lowerChar c = l ∧ us = ls := by
  obtain ⟨h1, h2⟩ := hl
  have hup : l.toUpper.toNat = l.toNat - 32 := by
    rcases toUpper_cases l with ⟨-, hn⟩ | ⟨-, -, h'⟩
    · exact absurd ⟨h1, h2⟩ hn
    · exact h'
  have hsmall : ¬ (65 ≤ (lowerChar c).toNat ∧ (lowerChar c).toNat ≤ 90) := by
    unfold lowerChar
    split
    · decide
    split
    · decide
    · rcases toLower_cases c with ⟨heq, hn⟩ | ⟨ha, hz, hlow⟩
      · rw [heq]
        exact hn
      · omega
  generalize lowerChar c = d at h hsmall
  rcases upperChars_cases d with ⟨-, heq⟩ | ⟨-, -, -, u, vs, heq, hu⟩
  · rw [heq, List.singleton_append, List.cons.injEq] at h
    refine ⟨Char.toNat_inj.1 ?_, h.2⟩
    have hnat := congrArg Char.toNat h.1
    rw [hup] at hnat
    rcases toUpper_cases d with ⟨heq, hn⟩ | ⟨ha, hz, hd⟩
    · rw [heq] at hnat
      omega
    · omega
  · -- a letter of the table: `l` would be `s`, `i` or `f`
    rw [heq, List.cons_append, List.cons.injEq] at h
    have hletter : ∀ a b : Char, u = a → a.toNat = b.toNat - 32 → 97 ≤ b.toNat → l = b := by
      intro a b ha hab hb
      refine Char.toNat_inj.1 ?_
      have hnat := congrArg Char.toNat h.1
      rw [ha, hup, hab] at hnat
      omega
    simp only [List.mem_cons, List.not_mem_nil, or_false] at hu
    rcases hu with hu | hu | hu
    · exact absurd (hletter 'S' 's' hu (by decide) (by decide)) hs
    · exact absurd (hletter 'I' 'i' hu (by decide) (by decide)) hi
    · exact absurd (hletter 'F' 'f' hu (by decide) (by decide)) hf

theorem upperChars_of_isSpace_lowerChar {c : Char} (h : isSpace (lowerChar c) = true) :
    isSpace c = true ∧ upperChars c = [c] := by
  have hspace : ∀ d : Char, isSpace d = true → ¬ (65 ≤ d.toNat ∧ d.toNat ≤ 122) ∧
      d.toNat ≠ 0xdf ∧ d.toNat ∉ specialUpper.map Prod.fst := by
    intro d hd
    simp only [isSpace, List.contains_cons, List.contains_nil, Bool.or_eq_true, Bool.and_eq_true,
      decide_eq_true_eq, beq_iff_eq, Bool.false_eq_true, or_false] at hd
    simp only [specialUpper, List.map_cons, List.map_nil, List.mem_cons, List.not_mem_nil, or_false]
    omega
  have hlower : lowerChar c = c := by
    unfold lowerChar at h ⊢
    split
    · rename_i hk
      rw [if_pos hk] at h
      exact absurd h (by decide)
    rename_i hk
    rw [if_neg hk] at h
    split
    · rename_i hsharp
      rw [if_pos hsharp] at h
      exact absurd h (by decide)
    · rename_i hsharp
      rw [if_neg hsharp] at h
      rcases toLower_cases c with ⟨heq, -⟩ | ⟨ha, hz, hlow⟩
      · exact heq
      · exact absurd (hspace _ h).1 (by omega)
  rw [hlower] at h
  refine ⟨h, ?_⟩
  obtain ⟨hletter, -, htable⟩ := hspace c h
  rcases upperChars_cases c with ⟨-, heq⟩ | ⟨n, hn, hnat, -⟩
  · rw [heq]
    rcases toUpper_cases c with ⟨hsame, -⟩ | ⟨ha, hz, -⟩
    · rw [hsame]
    · omega
  · exact absurd (hnat ▸ hn) htable

theorem mem_of_mem_strip {c : Char} {text : String} (h : c ∈ (strip text).toList) :
    c ∈ text.toList := by
  rw [strip, String.toList_ofList] at h
  exact (List.dropWhile_suffix _).subset ((List.rdropWhile_prefix _ _).subset h)

theorem isSpace_of_strip_eq_empty {c : Char} {text : String} (h : strip text = "")
    (hc : c ∈ text.toList) : isSpace c = true := by
  have hl : (text.toList.dropWhile isSpace).rdropWhile isSpace = [] := by
    have := congrArg String.toList h
    rwa [strip, String.toList_ofList] at this
  rw [List.rdropWhile_eq_nil_iff] at hl
  by_contra hns
  have hmem : c ∈ text.toList.dropWhile isSpace := by
    rw [← List.takeWhile_append_dropWhile (p := isSpace) (l := text.toList)] at hc
    rcases List.mem_append.1 hc with h' | h'
    · exact absurd (List.mem_takeWhile_imp h') hns
    · exact h'
  exact hns (hl c hmem)

/-- A letter of `strip (lower text)`, other than `k`, comes with its upper case in `upper text`. -/
theorem mem_upper_of_mem_strip_lower {l : Char} {text : String}
    (hl : 97 ≤ l.toNat ∧ l.toNat ≤ 122) (hk : l ≠ 'k')
    (h : l ∈ (strip (lower text)).toList) : l.toUpper ∈ (upper text).toList := by
  have hmem := mem_of_mem_strip h
  rw [lower, String.toList_ofList, List.mem_map] at hmem
  obtain ⟨c, hc, hlow⟩ := hmem
  rw [upper, String.toList_ofList, List.mem_flatMap]
  refine ⟨c, hc, ?_⟩
  rw [upperChars_of_lowerChar hl hk hlow]
  exact List.mem_singleton_self _

/-- A text in lower case whose upper case is that of a word of letters is the word. -/
theorem lower_of_upper {word text : String}
    (hw : ∀ l ∈ word.toList, (97 ≤ l.toNat ∧ l.toNat ≤ 122) ∧ l ≠ 's' ∧ l ≠ 'i' ∧ l ≠ 'f')
    (h : upper (lower text) = String.ofList (word.toList.map Char.toUpper)) :
    lower text = word := by
  have hlist := congrArg String.toList h
  rw [upper, lower, String.toList_ofList, String.toList_ofList, String.toList_ofList] at hlist
  have hmap : ∀ cs ls : List Char,
      (∀ l ∈ ls, (97 ≤ l.toNat ∧ l.toNat ≤ 122) ∧ l ≠ 's' ∧ l ≠ 'i' ∧ l ≠ 'f') →
      (cs.map lowerChar).flatMap upperChars = ls.map Char.toUpper → cs.map lowerChar = ls := by
    intro cs
    induction cs with
    | nil =>
      intro ls _ he
      cases ls with
      | nil => rfl
      | cons l ls => cases he
    | cons c cs ih =>
      intro ls hls he
      rw [List.map_cons, List.flatMap_cons] at he
      cases ls with
      | nil =>
        obtain ⟨hnil, -⟩ := List.append_eq_nil_iff.1 he
        rcases upperChars_cases (lowerChar c) with ⟨-, heq⟩ | ⟨-, -, -, u, us, heq, -⟩ <;>
          · rw [heq] at hnil
            cases hnil
      | cons l ls =>
        obtain ⟨hl, hs, hi, hf⟩ := hls l List.mem_cons_self
        obtain ⟨hhead, htail⟩ := lowerChar_of_upperChars hl hs hi hf he
        rw [List.map_cons, hhead,
          ih ls (fun l' hl' => hls l' (List.mem_cons_of_mem l hl')) htail]
  rw [lower, hmap _ _ hw hlist, String.ofList_toList]

/-- The upper case of a text whose lower case is a word of letters. -/
theorem upper_of_lower {word text : String}
    (hw : ∀ l ∈ word.toList, (97 ≤ l.toNat ∧ l.toNat ≤ 122) ∧ l ≠ 'k')
    (h : lower text = word) : upper text = String.ofList (word.toList.map Char.toUpper) := by
  have hlist := congrArg String.toList h
  rw [lower, String.toList_ofList] at hlist
  rw [← hlist] at hw ⊢
  rw [upper, List.map_map, List.map_eq_flatMap]
  congr 1
  refine List.flatMap_congr fun c hc => ?_
  obtain ⟨hl, hk⟩ := hw (lowerChar c) (List.mem_map_of_mem hc)
  exact upperChars_of_lowerChar hl hk rfl

/-- Lower case does not change the upper case, but for the Kelvin sign and the capital sharp s. -/
theorem upper_lower {text : String}
    (h : ∀ c ∈ text.toList, c.toNat ≠ 0x212a ∧ c.toNat ≠ 0x1e9e) :
    upper (lower text) = upper text := by
  rw [upper, upper, lower, String.toList_ofList, List.flatMap_map]
  congr 1
  refine List.flatMap_congr fun c hc => ?_
  have hchar : upperChars (lowerChar c) = upperChars c := by
    unfold lowerChar
    rw [if_neg (h c hc).1, if_neg (h c hc).2]
    rcases toLower_cases c with ⟨heq, _⟩ | ⟨ha, hz, hlow⟩
    · rw [heq]
    · rw [upperChars_of_ascii (by omega), upperChars_of_ascii (by omega)]
      congr 1
      refine Char.toNat_inj.1 ?_
      rcases toUpper_cases c.toLower with ⟨_, hn⟩ | ⟨_, _, hup⟩
      · exact absurd ⟨by omega, by omega⟩ hn
      · rcases toUpper_cases c with ⟨heq, _⟩ | ⟨_, _, _⟩
        · rw [heq]
          omega
        · omega
  exact hchar

theorem strip_of_visible {text : String} (h : ∀ c ∈ text.toList, isSpace c = false) :
    strip text = text := by
  have hdrop : text.toList.dropWhile isSpace = text.toList := by
    cases hcs : text.toList with
    | nil => rfl
    | cons c cs => exact List.dropWhile_cons_of_neg (by rw [h c (by rw [hcs]; simp)]; simp)
  have hrdrop : text.toList.rdropWhile isSpace = text.toList := by
    rw [List.rdropWhile_eq_self_iff]
    intro hne
    rw [h _ (List.getLast_mem hne)]
    simp
  rw [strip, hdrop, hrdrop, String.ofList_toList]

theorem lowerChar_of_isSpace {c : Char} (h : isSpace c = true) : lowerChar c = c := by
  have hnat : ¬ (65 ≤ c.toNat ∧ c.toNat ≤ 90) ∧ c.toNat ≠ 0x212a ∧ c.toNat ≠ 0x1e9e := by
    simp only [isSpace, List.contains_cons, List.contains_nil, Bool.or_eq_true,
      Bool.and_eq_true, decide_eq_true_eq, beq_iff_eq, Bool.false_eq_true, or_false] at h
    omega
  unfold lowerChar
  rw [if_neg hnat.2.1, if_neg hnat.2.2]
  rcases toLower_cases c with ⟨heq, -⟩ | ⟨ha, hz, -⟩
  · exact heq
  · exact absurd ⟨ha, hz⟩ hnat.1

theorem lowerChar_lowerChar (c : Char) : lowerChar (lowerChar c) = lowerChar c := by
  have hlow : (lowerChar c).toNat ≠ 0x212a ∧ (lowerChar c).toNat ≠ 0x1e9e ∧
      ¬ (65 ≤ (lowerChar c).toNat ∧ (lowerChar c).toNat ≤ 90) := by
    unfold lowerChar
    split
    · decide
    split
    · decide
    · rename_i hkelvin hsharp
      rcases toLower_cases c with ⟨heq, hn⟩ | ⟨ha, hz, hnat⟩
      · rw [heq]
        exact ⟨hkelvin, hsharp, hn⟩
      · omega
  generalize lowerChar c = d at hlow ⊢
  unfold lowerChar
  rw [if_neg hlow.1, if_neg hlow.2.1]
  rcases toLower_cases d with ⟨heq, -⟩ | ⟨ha, hz, -⟩
  · exact heq
  · exact absurd ⟨ha, hz⟩ hlow.2.2

@[simp] theorem lower_lower (text : String) : lower (lower text) = lower text := by
  unfold lower
  rw [String.toList_ofList, List.map_map]
  congr 1
  exact List.map_congr_left fun c _ => lowerChar_lowerChar c

/-- A text whose upper case has no spaces has none to strip, in lower case or not. -/
theorem strip_of_upper_visible {text : String} (h : ∀ c ∈ (upper text).toList, isSpace c = false) :
    strip text = text ∧ strip (lower text) = lower text := by
  have hlower : ∀ c ∈ text.toList, isSpace (lowerChar c) = false := by
    intro c hc
    by_contra hspace
    rw [Bool.not_eq_false] at hspace
    obtain ⟨hsame, hupper⟩ := upperChars_of_isSpace_lowerChar hspace
    have hup := h c (by
      rw [upper, String.toList_ofList, List.mem_flatMap]
      exact ⟨c, hc, by rw [hupper]; exact List.mem_singleton_self c⟩)
    rw [hsame] at hup
    cases hup
  constructor
  · refine strip_of_visible fun c hc => ?_
    by_contra hspace
    rw [Bool.not_eq_false] at hspace
    have hlow := hlower c hc
    rw [lowerChar_of_isSpace hspace, hspace] at hlow
    cases hlow
  · refine strip_of_visible fun c hc => ?_
    rw [lower, String.toList_ofList, List.mem_map] at hc
    obtain ⟨d, hd, rfl⟩ := hc
    exact hlower d hd

theorem isSpace_upper_of_strip_lower {text : String} (h : strip (lower text) = "") :
    ∀ c ∈ (upper text).toList, isSpace c = true := by
  intro c hc
  rw [upper, String.toList_ofList, List.mem_flatMap] at hc
  obtain ⟨d, hd, hup⟩ := hc
  obtain ⟨hspace, hupper⟩ := upperChars_of_isSpace_lowerChar (isSpace_of_strip_eq_empty h (by
    rw [lower, String.toList_ofList]
    exact List.mem_map_of_mem hd))
  rw [hupper, List.mem_singleton] at hup
  rw [hup]
  exact hspace

end Text
