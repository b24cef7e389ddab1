import Mathlib.Data.List.TakeDrop
import NetOps.Json.Text

/-!
# Json.RoundTrip

What a reader makes of a written text: the value that was written (`read_write`), when the
integers of the value are within the reader's limit. The induction is on the value, with fuel for
every character of its text.
-/

namespace NetOps
namespace Json

/-! ## Characters -/

theorem floatMark_of_digit {c : Char} (h : c.isDigit = true) : floatMark c = false := by
  cases hmark : floatMark c with
  | false => rfl
  | true =>
    simp only [floatMark, Bool.or_eq_true, decide_eq_true_eq] at hmark
    rcases hmark with (rfl | rfl) | rfl <;> exact absurd h (by decide)

theorem numberChar_of_digit {c : Char} (h : c.isDigit = true) : numberChar c = true := by
  simp [numberChar, h]

theorem wordChar_of_number {c : Char} (h : numberChar c = true) : wordChar c = true := by
  simp [wordChar, h]

/-- The characters that open a value, close one or separate two are no part of a word. -/
theorem ne_of_wordChar {c : Char} (h : wordChar c = true) :
    blank c = false ∧ c ≠ '[' ∧ c ≠ '{' ∧ c ≠ quote ∧ c ≠ ']' ∧ c ≠ '}' := by
  refine ⟨?_, ?_, ?_, ?_, ?_, ?_⟩
  · cases hblank : blank c with
    | false => rfl
    | true =>
      simp only [blank, Bool.or_eq_true, decide_eq_true_eq] at hblank
      rcases hblank with ((rfl | rfl) | rfl) | rfl <;> exact absurd h (by decide)
  all_goals
    rintro rfl
    exact absurd h (by decide)

/-- A text that goes on with no character of a word. -/
def Delimited (text : List Char) : Prop := ∀ c cs, text = c :: cs → wordChar c = false

theorem delimited_nil : Delimited [] := by
  intro c cs h
  cases h

theorem delimited_cons {c : Char} (h : wordChar c = false) (cs : List Char) :
    Delimited (c :: cs) := by
  intro d ds heq
  cases heq
  exact h

theorem takeWhile_word {word rest : List Char} (hword : ∀ c ∈ word, wordChar c = true)
    (hrest : Delimited rest) : (word ++ rest).takeWhile wordChar = word ∧
      (word ++ rest).dropWhile wordChar = rest := by
  rw [List.takeWhile_append_of_pos hword, List.dropWhile_append_of_pos hword]
  cases rest with
  | nil => simp
  | cons c cs =>
    have hc := hrest c cs rfl
    simp [hc]

theorem skip_cons {c : Char} (h : blank c = false) (text : List Char) :
    skip (c :: text) = c :: text := by
  rw [skip, List.dropWhile_cons, h, if_neg Bool.false_ne_true]

theorem skip_append {blanks : List Char} (h : ∀ c ∈ blanks, blank c = true) (text : List Char) :
    skip (blanks ++ text) = skip text :=
  List.dropWhile_append_of_pos h

/-! ## Numbers -/

theorem digits_ne_nil (n : Nat) : digits n ≠ [] := Nat.toDigits_ne_nil

theorem isDigit_of_mem_digits {n : Nat} {c : Char} (h : c ∈ digits n) : c.isDigit = true :=
  Nat.isDigit_of_mem_toDigits (by decide) (by decide) h

theorem head_digits {n : Nat} (hn : n ≠ 0) : (digits n).head? ≠ some '0' := by
  induction n using Nat.strongRecOn with
  | ind n ih =>
    cases Nat.lt_or_ge n 10 with
    | inl hlt =>
      have hdigit : ∀ d, d < 10 → d ≠ 0 → Nat.digitChar d ≠ '0' := by decide
      rw [digits, Nat.toDigits_of_lt_base hlt]
      simpa using hdigit n hlt hn
    | inr hge =>
      have hrec := ih (n / 10) (by omega) (by omega)
      rw [digits, Nat.toDigits_of_base_le (by decide) hge, List.head?_append_of_ne_nil _
        Nat.toDigits_ne_nil]
      exact hrec

variable {F : Type} {num : Numbers F}

theorem readNat_digits {n : Nat} (h : (digits n).length ≤ num.maxDigits) :
    readNat num (digits n) = some n := by
  have hall : (digits n).all Char.isDigit = true := by
    rw [List.all_eq_true]
    intro c hc
    exact isDigit_of_mem_digits hc
  have hlead : ¬(1 < (digits n).length ∧ (digits n).head? = some '0') := by
    rintro ⟨hlength, hhead⟩
    by_cases hn : n = 0
    · subst hn
      exact absurd hlength (by decide)
    · exact head_digits hn hhead
  rw [readNat, if_neg (by simp [digits_ne_nil, hall]), if_neg hlead, if_neg (by omega), digits,
    Nat.ofDigitChars_ten_toDigits]

theorem readInt_writeInt {n : Int} (h : (digits n.natAbs).length ≤ num.maxDigits) :
    readInt num (writeInt n) = some n := by
  cases n with
  | ofNat n =>
    have hread := readNat_digits h
    change readNat num (digits n) = some n at hread
    change readInt num (digits n) = some (Int.ofNat n)
    cases hdigits : digits n with
    | nil => exact absurd hdigits (digits_ne_nil n)
    | cons c ds =>
      have hc : c ≠ '-' := by
        rintro rfl
        have hminus : '-' ∈ digits n := by rw [hdigits]; exact List.mem_cons_self
        exact absurd (isDigit_of_mem_digits hminus) (by decide)
      rw [hdigits] at hread
      rw [readInt, if_neg hc, hread, Option.map_some]
  | negSucc n =>
    change (digits (n + 1)).length ≤ num.maxDigits at h
    rw [writeInt, readInt, if_pos rfl, readNat_digits h, Option.map_some]
    rfl

theorem mem_writeInt {n : Int} {c : Char} (h : c ∈ writeInt n) :
    numberChar c = true ∧ floatMark c = false := by
  have hdigit : ∀ m, c ∈ digits m → numberChar c = true ∧ floatMark c = false := by
    intro m hc
    have hc := isDigit_of_mem_digits hc
    exact ⟨numberChar_of_digit hc, floatMark_of_digit hc⟩
  cases n with
  | ofNat n => exact hdigit n h
  | negSucc n =>
    rcases List.mem_cons.1 h with rfl | h
    · decide
    · exact hdigit (n + 1) h

theorem writeInt_ne_nil (n : Int) : writeInt n ≠ [] := by
  cases n with
  | ofNat n => exact digits_ne_nil n
  | negSucc n => exact List.cons_ne_nil _ _

/-- The text of a number is none of the constants. -/
theorem readWord_number {word : List Char} (h : ∀ c ∈ word, numberChar c = true) :
    readWord num word = if word.any floatMark then (num.float word).map .float
      else (readInt num word).map .int := by
  have hne : ∀ constant : List Char, constant.all numberChar = false → word ≠ constant := by
    rintro constant hno rfl
    rw [List.all_eq_true.2 h] at hno
    cases hno
  rw [readWord, if_neg (hne _ (by decide)), if_neg (hne _ (by decide)), if_neg (hne _ (by decide))]

/-! ## Words -/

theorem wordChar_constants (word : List Char)
    (hall : (["null".toList, "true".toList, "false".toList].contains word) = true) :
    word ≠ [] ∧ ∀ c ∈ word, wordChar c = true := by
  have hword : ["null".toList, "true".toList, "false".toList].all
      (fun word => word ≠ [] && word.all wordChar) = true := by decide
  have h := List.all_eq_true.1 hword word (List.contains_iff_mem.1 hall)
  simpa using h

namespace Style

variable (style : Style num)

theorem float_ne_nil (x : F) : style.float x ≠ [] := by
  intro hnil
  have hmarked := style.float_marked x
  rw [hnil] at hmarked
  cases hmarked

/-- A leaf that is no string is written as one word, which is read as the leaf. -/
theorem word_writeScalar {a : Scalar F} (hfit : a.within num.maxDigits = true)
    (hstr : ∀ s, a ≠ .str s) : style.writeScalar a ≠ [] ∧
      (∀ c ∈ style.writeScalar a, wordChar c = true) ∧
      readWord num (style.writeScalar a) = some a := by
  cases a with
  | null =>
    obtain ⟨hne, hword⟩ := wordChar_constants "null".toList (by decide)
    exact ⟨hne, hword, rfl⟩
  | bool b =>
    cases b with
    | true =>
      obtain ⟨hne, hword⟩ := wordChar_constants "true".toList (by decide)
      exact ⟨hne, hword, rfl⟩
    | false =>
      obtain ⟨hne, hword⟩ := wordChar_constants "false".toList (by decide)
      exact ⟨hne, hword, rfl⟩
  | int n =>
    have hfit : (digits n.natAbs).length ≤ num.maxDigits := by simpa [Scalar.within] using hfit
    have hmark : (writeInt n).any floatMark = false := by
      rw [List.any_eq_false]
      intro c hc
      rw [(mem_writeInt hc).2]
      exact Bool.false_ne_true
    refine ⟨writeInt_ne_nil n, fun c hc => wordChar_of_number (mem_writeInt hc).1, ?_⟩
    rw [writeScalar, readWord_number fun c hc => (mem_writeInt hc).1, hmark,
      if_neg Bool.false_ne_true, readInt_writeInt hfit, Option.map_some]
  | float x =>
    refine ⟨style.float_ne_nil x, fun c hc => wordChar_of_number (style.float_chars x c hc), ?_⟩
    rw [writeScalar, readWord_number (style.float_chars x), style.float_marked, if_pos rfl,
      style.float_read, Option.map_some]
  | str s => exact absurd rfl (hstr s)

/-- A written value begins with no blank and closes nothing. -/
theorem write_eq_cons {t : Doc (Scalar F)} (hfit : t.all (·.within num.maxDigits) = true) :
    ∃ c cs, style.write t = c :: cs ∧ blank c = false ∧ c ≠ ']' ∧ c ≠ '}' := by
  cases t with
  | leaf a =>
    by_cases hstr : ∃ s, a = .str s
    · obtain ⟨s, rfl⟩ := hstr
      exact ⟨quote, _, rfl, by decide⟩
    · obtain ⟨hne, hword, -⟩ := style.word_writeScalar hfit fun s hs => hstr ⟨s, hs⟩
      rw [write]
      cases hwrite : style.writeScalar a with
      | nil => exact absurd hwrite hne
      | cons c cs =>
        have hc := ne_of_wordChar (hword c (by rw [hwrite]; exact List.mem_cons_self))
        exact ⟨c, cs, rfl, hc.1, hc.2.2.2.2.1, hc.2.2.2.2.2⟩
  | arr items => cases items <;> exact ⟨'[', _, rfl, by decide⟩
  | obj members => cases members <;> exact ⟨'{', _, rfl, by decide⟩

/-! ## Values -/

theorem readDoc_skip {blanks : List Char} (h : ∀ c ∈ blanks, blank c = true) (fuel : Nat)
    (text : List Char) : readDoc num fuel (blanks ++ text) = readDoc num fuel text := by
  cases fuel with
  | zero => simp only [readDoc]
  | succ fuel => simp only [readDoc, skip_append h]

theorem readKey_skip {blanks : List Char} (h : ∀ c ∈ blanks, blank c = true) (fuel : Nat)
    (text : List Char) : readKey fuel (blanks ++ text) = readKey fuel text := by
  simp only [readKey, skip_append h]

theorem readKey_write (key : String) {fuel : Nat}
    (hfuel : (style.writeString key).length ≤ fuel) (text : List Char) :
    readKey fuel (style.writeString key ++ ':' :: text) = some (key, text) := by
  have hlength : (style.writeString key).length =
      (writeChars style.plain key.toList).length + 2 := by
    simp [writeString]
  have hle := length_le_writeChars style.plain key.toList
  have hread := readChars_writeChars style.plain_printable key.toList
    (show key.toList.length < fuel by omega) (':' :: text)
  have hquote : blank quote = false := by decide
  have hcolon : blank ':' = false := by decide
  simp only [writeString, readKey, List.cons_append, List.append_assoc, List.nil_append,
    skip_cons hquote, if_true, hread, Option.bind_some, skip_cons hcolon, String.ofList_toList]

theorem readDoc_leaf {a : Scalar F} {fuel : Nat} {rest : List Char}
    (hfit : a.within num.maxDigits = true) (hfuel : (style.writeScalar a).length ≤ fuel)
    (hrest : Delimited rest) :
    readDoc num fuel (style.writeScalar a ++ rest) = some (.leaf a, rest) := by
  by_cases hstr : ∃ s, a = .str s
  · obtain ⟨s, rfl⟩ := hstr
    have hlength : (style.writeScalar (.str s)).length =
        (writeChars style.plain s.toList).length + 2 := by
      simp [writeScalar, writeString]
    have hle := length_le_writeChars style.plain s.toList
    cases fuel with
    | zero => omega
    | succ fuel =>
      have hread := readChars_writeChars style.plain_printable s.toList
        (show s.toList.length < fuel by omega) rest
      have hquote : blank quote = false := by decide
      have hopen : quote ≠ '[' ∧ quote ≠ '{' := by decide
      simp only [writeScalar, writeString, readDoc, List.cons_append, List.append_assoc,
        List.nil_append, skip_cons hquote, if_neg hopen.1, if_neg hopen.2, if_true, hread,
        Option.map_some, String.ofList_toList]
  · obtain ⟨hne, hword, hread⟩ := style.word_writeScalar hfit fun s hs => hstr ⟨s, hs⟩
    obtain ⟨htake, hdrop⟩ := takeWhile_word hword hrest
    cases hwrite : style.writeScalar a with
    | nil => exact absurd hwrite hne
    | cons c cs =>
      rw [hwrite] at hword hfuel htake hdrop hread
      obtain ⟨hblank, harr, hobj, hquote, -⟩ := ne_of_wordChar (hword c List.mem_cons_self)
      cases fuel with
      | zero => exact absurd hfuel (Nat.not_succ_le_zero _)
      | succ fuel =>
        rw [List.cons_append] at htake hdrop ⊢
        simp only [readDoc, skip_cons hblank, if_neg harr, if_neg hobj, if_neg hquote, htake,
          hdrop, hread, Option.map_some]

/-- After an item or a member comes a comma or a closing bracket. -/
theorem delimited_items (items : List (Doc (Scalar F))) (rest : List Char) :
    Delimited (style.writeItems items ++ rest) := by
  cases items <;> exact delimited_cons (by decide) _

theorem delimited_members (members : List (String × Doc (Scalar F))) (rest : List Char) :
    Delimited (style.writeMembers members ++ rest) := by
  cases members <;> exact delimited_cons (by decide) _

mutual

theorem readDoc_write (t : Doc (Scalar F)) (fuel : Nat) (rest : List Char)
    (hfit : t.all (·.within num.maxDigits) = true) (hfuel : (style.write t).length ≤ fuel)
    (hrest : Delimited rest) :
    readDoc num fuel (style.write t ++ rest) = some (t, rest) := by
  cases t with
  | leaf a => exact style.readDoc_leaf hfit hfuel hrest
  | arr items =>
    cases fuel with
    | zero => cases items <;> exact absurd hfuel (Nat.not_succ_le_zero _)
    | succ fuel =>
      have hopen : blank '[' = false := by decide
      cases items with
      | nil =>
        have hclose : blank ']' = false := by decide
        simp only [write, List.cons_append, List.nil_append, readDoc, skip_cons hopen, if_true,
          skip_cons hclose]
      | cons t items =>
        simp only [Doc.all, Doc.allItems, Bool.and_eq_true] at hfit
        simp only [write, List.length_cons, List.length_append] at hfuel
        have ht := readDoc_write t fuel (style.writeItems items ++ rest) hfit.1 (by omega)
          (style.delimited_items items rest)
        have hitems := readItems_write items fuel rest hfit.2 (by omega)
        obtain ⟨c, cs, hwrite, hblank, hclose, -⟩ := style.write_eq_cons hfit.1
        rw [hwrite, List.cons_append] at ht
        simp only [write, hwrite, List.cons_append, List.append_assoc, readDoc, skip_cons hopen,
          if_true, skip_cons hblank, if_neg hclose, ht, Option.bind_some, hitems, Option.map_some]
  | obj members =>
    cases fuel with
    | zero => cases members <;> exact absurd hfuel (Nat.not_succ_le_zero _)
    | succ fuel =>
      have hopen : blank '{' = false := by decide
      have hobj : '{' ≠ '[' := by decide
      cases members with
      | nil =>
        have hclose : blank '}' = false := by decide
        simp only [write, List.cons_append, List.nil_append, readDoc, skip_cons hopen,
          if_neg hobj, if_true, skip_cons hclose]
      | cons member members =>
        obtain ⟨key, t⟩ := member
        simp only [Doc.all, Doc.allMembers, Bool.and_eq_true] at hfit
        simp only [write, List.length_cons, List.length_append] at hfuel
        have hkey := style.readKey_write key (show _ ≤ fuel by omega)
          (style.blanks ++ (style.write t ++ (style.writeMembers members ++ rest)))
        have ht := readDoc_write t fuel (style.writeMembers members ++ rest) hfit.1 (by omega)
          (style.delimited_members members rest)
        have hmembers := readMembers_write members fuel rest hfit.2 (by omega)
        have hblank : blank quote = false := by decide
        have hclose : quote ≠ '}' := by decide
        simp only [writeString, List.cons_append, List.append_assoc, List.nil_append] at hkey
        simp only [write, writeString, List.cons_append, List.append_assoc, List.nil_append,
          readDoc, skip_cons hopen, if_neg hobj, if_true, skip_cons hblank, if_neg hclose, hkey,
          Option.bind_some, readDoc_skip style.blanks_blank, ht, hmembers, Option.map_some]

theorem readItems_write (items : List (Doc (Scalar F))) (fuel : Nat) (rest : List Char)
    (hfit : Doc.allItems (·.within num.maxDigits) items = true)
    (hfuel : (style.writeItems items).length ≤ fuel) :
    readItems num fuel (style.writeItems items ++ rest) = some (items, rest) := by
  cases fuel with
  | zero => cases items <;> exact absurd hfuel (Nat.not_succ_le_zero _)
  | succ fuel =>
    cases items with
    | nil =>
      have hclose : blank ']' = false := by decide
      simp only [writeItems, List.cons_append, List.nil_append, readItems, skip_cons hclose,
        if_true]
    | cons t items =>
      simp only [Doc.allItems, Bool.and_eq_true] at hfit
      simp only [writeItems, List.length_cons, List.length_append] at hfuel
      have ht := readDoc_write t fuel (style.writeItems items ++ rest) hfit.1 (by omega)
        (style.delimited_items items rest)
      have hitems := readItems_write items fuel rest hfit.2 (by omega)
      have hcomma : blank ',' = false := by decide
      have hclose : ',' ≠ ']' := by decide
      simp only [writeItems, List.cons_append, List.append_assoc, readItems, skip_cons hcomma,
        if_neg hclose, if_true, readDoc_skip style.blanks_blank, ht, Option.bind_some, hitems,
        Option.map_some]

theorem readMembers_write (members : List (String × Doc (Scalar F))) (fuel : Nat)
    (rest : List Char) (hfit : Doc.allMembers (·.within num.maxDigits) members = true)
    (hfuel : (style.writeMembers members).length ≤ fuel) :
    readMembers num fuel (style.writeMembers members ++ rest) = some (members, rest) := by
  cases fuel with
  | zero => cases members <;> exact absurd hfuel (Nat.not_succ_le_zero _)
  | succ fuel =>
    cases members with
    | nil =>
      have hclose : blank '}' = false := by decide
      simp only [writeMembers, List.cons_append, List.nil_append, readMembers, skip_cons hclose,
        if_true]
    | cons member members =>
      obtain ⟨key, t⟩ := member
      simp only [Doc.allMembers, Bool.and_eq_true] at hfit
      simp only [writeMembers, List.length_cons, List.length_append] at hfuel
      have hkey := style.readKey_write key (show _ ≤ fuel by omega)
        (style.blanks ++ (style.write t ++ (style.writeMembers members ++ rest)))
      have ht := readDoc_write t fuel (style.writeMembers members ++ rest) hfit.1 (by omega)
        (style.delimited_members members rest)
      have hmembers := readMembers_write members fuel rest hfit.2 (by omega)
      have hcomma : blank ',' = false := by decide
      have hclose : ',' ≠ '}' := by decide
      simp only [writeMembers, List.cons_append, List.append_assoc, readMembers,
        skip_cons hcomma, if_neg hclose, if_true, readKey_skip style.blanks_blank, hkey,
        Option.bind_some, readDoc_skip style.blanks_blank, ht, hmembers, Option.map_some]

end

/-- A text written in any style is read as the value it was written from. -/
theorem read_write {t : Doc (Scalar F)} (hfit : t.all (·.within num.maxDigits) = true) :
    read num (style.write t) = some t := by
  have hread := style.readDoc_write t ((style.write t).length + 1) [] hfit (Nat.le_succ _)
    delimited_nil
  rw [List.append_nil] at hread
  rw [read, hread, Option.bind_some]
  rfl

end Style

end Json
end NetOps
