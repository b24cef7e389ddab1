import Mathlib.Data.List.Basic
import NetOps.Text

/-!
# Patterns

What the code uses of regular expressions: `re.sub` over lists of characters, for a pattern whose
matches are not empty, and words that ignore case.

A matcher says of a text whether the pattern matches at its start, how many characters it takes
and what replaces them. `sub` goes through a text from the left; where the matcher matches, the
replacement is put down and the matched characters are skipped.
-/

namespace Substitution

variable {α : Type} (m : List α → Option (Nat × List α))

/-- `re.sub`; `skip` characters still belong to the last match. -/
def sub : Nat → List α → List α
  | _, [] => []
  | skip + 1, _ :: cs => sub skip cs
  | 0, c :: cs =>
    match m (c :: cs) with
    | some (n + 1, replacement) => replacement ++ sub n cs
    | _ => c :: sub 0 cs

@[simp] theorem sub_nil (skip : Nat) : sub m skip [] = [] := by
  cases skip <;> rfl

theorem sub_skip (xs ys : List α) : sub m xs.length (xs ++ ys) = sub m 0 ys := by
  induction xs with
  | nil => rfl
  | cons c xs ih => exact ih

variable {m}

theorem sub_cons_none {c : α} {cs : List α} (h : m (c :: cs) = none) :
    sub m 0 (c :: cs) = c :: sub m 0 cs := by
  rw [sub, h]

/-- A match is replaced, and the text goes on behind it. -/
theorem sub_match {xs ys replacement : List α} (hne : xs ≠ [])
    (h : m (xs ++ ys) = some (xs.length, replacement)) :
    sub m 0 (xs ++ ys) = replacement ++ sub m 0 ys := by
  cases xs with
  | nil => exact absurd rfl hne
  | cons c xs =>
    rw [List.cons_append] at h ⊢
    rw [sub, h]
    dsimp only [List.length_cons]
    rw [sub_skip]

/-- Where nothing matches, the text stays. -/
theorem sub_append_of_none {xs ys : List α}
    (h : ∀ zs, zs ≠ [] → zs <:+ xs → m (zs ++ ys) = none) :
    sub m 0 (xs ++ ys) = xs ++ sub m 0 ys := by
  induction xs with
  | nil => rfl
  | cons c xs ih =>
    have hnone : m (c :: (xs ++ ys)) = none :=
      h (c :: xs) (List.cons_ne_nil c xs) List.suffix_rfl
    have hrest := ih fun zs hne hsuffix => h zs hne (hsuffix.trans (List.suffix_cons c xs))
    rw [List.cons_append, sub_cons_none hnone, hrest, List.cons_append]

/-- A pattern that replaces nothing by nothing leaves a text that is not empty. -/
theorem sub_eq_nil (h : ∀ {cs n replacement}, m cs = some (n, replacement) → replacement ≠ [])
    {cs : List α} : sub m 0 cs = [] ↔ cs = [] := by
  cases cs with
  | nil => rw [sub_nil]
  | cons c cs =>
    rw [sub]
    split
    · rename_i n replacement hm
      simp [h hm]
    · simp

end Substitution

/-! ## Words that ignore case -/

namespace Patterns

open Text

/-- A character against one of a pattern in lower case, with `re.IGNORECASE`. -/
def matchesIgnoringCase (k c : Char) : Bool :=
  c.toLower = k || (k = 's' && c.toNat = 0x17f) || (k = 'k' && c.toNat = 0x212a) ||
    (k = 'i' && (c.toNat = 0x130 || c.toNat = 0x131))

/-- A text starts with a word of a pattern. -/
def startsWith : List Char → List Char → Bool
  | [], _ => true
  | _ :: _, [] => false
  | k :: ks, c :: cs => matchesIgnoringCase k c && startsWith ks cs

/-- A word of small letters. -/
def SmallLetters (keyword : List Char) : Prop :=
  ∀ k ∈ keyword, 97 ≤ k.toNat ∧ k.toNat ≤ 122

theorem matchesIgnoringCase_space {k c : Char} (hk : 97 ≤ k.toNat ∧ k.toNat ≤ 122)
    (hc : isSpace c = true) : matchesIgnoringCase k c = false := by
  have hnat : ¬ (65 ≤ c.toNat ∧ c.toNat ≤ 90) ∧ ¬ (97 ≤ c.toNat ∧ c.toNat ≤ 122) ∧
      c.toNat ≠ 0x17f ∧ c.toNat ≠ 0x212a ∧ c.toNat ≠ 0x130 ∧ c.toNat ≠ 0x131 := by
    simp only [isSpace, Bool.or_eq_true, Bool.and_eq_true, decide_eq_true_eq] at hc
    rcases hc with ((hlow | hline) | hwide) | hlisted
    · omega
    · omega
    · omega
    · have hlist : ∀ n ∈ [0x85, 0xa0, 0x1680, 0x2028, 0x2029, 0x202f, 0x205f, 0x3000],
          ¬ (65 ≤ n ∧ n ≤ 90) ∧ ¬ (97 ≤ n ∧ n ≤ 122) ∧
            n ≠ 0x17f ∧ n ≠ 0x212a ∧ n ≠ 0x130 ∧ n ≠ 0x131 := by
        simp
      exact hlist _ (List.contains_iff_mem.1 hlisted)
  obtain ⟨hupper, hlower, hs, hkelvin, hi, hdotless⟩ := hnat
  have hlow : c.toLower ≠ k := by
    rcases toLower_cases c with ⟨heq, -⟩ | ⟨ha, hz, -⟩
    · rw [heq]
      intro hck
      rw [hck] at hlower
      exact hlower hk
    · exact absurd ⟨ha, hz⟩ hupper
  simp [matchesIgnoringCase, hlow, hs, hkelvin, hi, hdotless]

/-- A word of letters matches within the first word of a text. -/
theorem startsWith_append {keyword w rest : List Char} (hk : SmallLetters keyword)
    (hrest : ∀ c ∈ rest.head?, isSpace c = true) :
    startsWith keyword (w ++ rest) = startsWith keyword w := by
  induction keyword generalizing w with
  | nil => simp only [startsWith]
  | cons k ks ih =>
    have hks : SmallLetters ks := fun l hl => hk l (List.mem_cons_of_mem k hl)
    cases w with
    | nil =>
      cases rest with
      | nil => rfl
      | cons c rest =>
        have hno := matchesIgnoringCase_space (hk k List.mem_cons_self) (hrest c rfl)
        simp only [List.nil_append, startsWith, hno, Bool.false_and]
    | cons c w =>
      simp only [List.cons_append, startsWith, ih hks]

theorem length_le_of_startsWith {keyword w : List Char} (h : startsWith keyword w = true) :
    keyword.length ≤ w.length := by
  induction keyword generalizing w with
  | nil => exact Nat.zero_le _
  | cons k ks ih =>
    cases w with
    | nil => cases h
    | cons c w =>
      rw [startsWith, Bool.and_eq_true] at h
      exact Nat.succ_le_succ (ih h.2)

end Patterns
