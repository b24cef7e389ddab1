import NetOps.Text

/-!
# Columns

Texts as columns between spaces: the words of a text that begins with a word (`words_cons`), which
the spaces at the end do not change (`words_rstrip`), and what such a text begins with.
-/

namespace Text

/-- A text without spaces that is not empty. -/
def Word (word : String) : Prop := word ≠ "" ∧ ∀ c ∈ word.toList, isSpace c = false

theorem wordsFrom_append {word : List Char} {cs : List Char} (hcs : ∀ c ∈ cs, isSpace c = false)
    (rest : List Char) : wordsFrom word (cs ++ rest) = wordsFrom (cs.reverse ++ word) rest := by
  induction cs generalizing word with
  | nil => rfl
  | cons c cs ih =>
    have hc := hcs c List.mem_cons_self
    rw [List.cons_append, wordsFrom, hc]
    simp [ih fun d hd => hcs d (List.mem_cons_of_mem _ hd)]

theorem words_cons {word : String} (hword : Word word) (rest : String) :
    words (word ++ " " ++ rest) = word :: words rest := by
  have hne : word.toList ≠ [] := by
    intro hnil
    exact hword.1 (String.toList_inj.1 hnil)
  have hspace : isSpace ' ' = true := by decide
  have hchars : (word ++ " " ++ rest).toList = word.toList ++ ' ' :: rest.toList := by simp
  unfold words
  rw [hchars, wordsFrom_append hword.2, wordsFrom, hspace]
  simp [hne]

theorem wordsFrom_of_spaces {spaces : List Char} (hspaces : ∀ c ∈ spaces, isSpace c = true) :
    wordsFrom [] spaces = [] := by
  induction spaces with
  | nil => rfl
  | cons c spaces ih =>
    have hrest := ih fun d hd => hspaces d (List.mem_cons_of_mem _ hd)
    simp [wordsFrom, hspaces c List.mem_cons_self, hrest]

/-- Spaces at the end make no word. -/
theorem wordsFrom_spaces {word spaces : List Char} (hspaces : ∀ c ∈ spaces, isSpace c = true)
    (cs : List Char) : wordsFrom word (cs ++ spaces) = wordsFrom word cs := by
  induction cs generalizing word with
  | nil =>
    cases spaces with
    | nil => rfl
    | cons c spaces =>
      have hrest := wordsFrom_of_spaces fun d hd => hspaces d (List.mem_cons_of_mem _ hd)
      simp [wordsFrom, hspaces c List.mem_cons_self, hrest]
  | cons c cs ih => rw [List.cons_append, wordsFrom, wordsFrom, ih, ih]

theorem words_rstrip (text : String) : words (rstrip text) = words text := by
  have hspaces : ∀ c ∈ text.toList.rtakeWhile isSpace, isSpace c = true :=
    fun c hc => List.mem_rtakeWhile_imp hc
  have hwords : wordsFrom []
      (text.toList.rdropWhile isSpace ++ text.toList.rtakeWhile isSpace) =
        wordsFrom [] (text.toList.rdropWhile isSpace) := wordsFrom_spaces hspaces _
  rw [List.rdropWhile_append_rtakeWhile] at hwords
  unfold words rstrip
  rw [String.toList_ofList, hwords]

theorem rdropWhile_append {p : Char → Bool} {cs : List Char} (h : cs.rdropWhile p ≠ [])
    (before : List Char) : (before ++ cs).rdropWhile p = before ++ cs.rdropWhile p := by
  unfold List.rdropWhile at h ⊢
  have hne : (cs.reverse.dropWhile p).isEmpty = false := by simpa using h
  rw [List.reverse_append, List.dropWhile_append, hne]
  simp

/-- A text of a word and others is stripped in the others. -/
theorem rstrip_cons (word : String) {rest : String} (h : words rest ≠ []) :
    (rstrip (word ++ " " ++ rest)).toList =
      word.toList ++ ' ' :: rest.toList.rdropWhile isSpace := by
  have hvisible : rest.toList.rdropWhile isSpace ≠ [] := by
    intro hnil
    rw [List.rdropWhile_eq_nil_iff] at hnil
    refine h ?_
    unfold words
    rw [wordsFrom_of_spaces hnil, List.map_nil]
  have hchars : (word ++ " " ++ rest).toList = (word.toList ++ [' ']) ++ rest.toList := by simp
  unfold rstrip
  rw [String.toList_ofList, hchars, rdropWhile_append hvisible, List.append_assoc]
  rfl

/-! ## Beginnings -/

/-- A beginning without the separator is one of what stands before it. -/
theorem prefix_append_sep {sep : Char} {part cs : List Char} (hpart : sep ∉ part)
    (rest : List Char) : part <+: cs ++ sep :: rest ↔ part <+: cs := by
  induction cs generalizing part with
  | nil =>
    cases part with
    | nil => simp
    | cons d part =>
      have hne : d ≠ sep := fun h => hpart (h ▸ List.mem_cons_self)
      simp [List.cons_prefix_cons, hne]
  | cons c cs ih =>
    cases part with
    | nil => simp
    | cons d part =>
      have hrest : sep ∉ part := fun h => hpart (List.mem_cons_of_mem _ h)
      rw [List.cons_append, List.cons_prefix_cons, List.cons_prefix_cons, ih hrest]

theorem prefix_sep {sep : Char} {part cs : List Char} (hpart : sep ∉ part) (hcs : sep ∉ cs)
    (rest : List Char) : part ++ [sep] <+: cs ++ sep :: rest ↔ part = cs := by
  induction cs generalizing part with
  | nil =>
    cases part with
    | nil => simp
    | cons d part =>
      have hne : d ≠ sep := fun h => hpart (h ▸ List.mem_cons_self)
      simp [List.cons_prefix_cons, hne]
  | cons c cs ih =>
    cases part with
    | nil =>
      have hne : sep ≠ c := fun h => hcs (h ▸ List.mem_cons_self)
      simp [List.cons_prefix_cons, hne]
    | cons d part =>
      have hrest : sep ∉ part := fun h => hpart (List.mem_cons_of_mem _ h)
      have hrest' : sep ∉ cs := fun h => hcs (List.mem_cons_of_mem _ h)
      rw [List.cons_append, List.cons_append, List.cons_prefix_cons, ih hrest hrest',
        List.cons.injEq]

end Text
