import Mathlib.Data.List.Basic

/-!
# Joins

Texts joined by a separator that may occur in them. What a join still tells is the sequence of the
texts between separators.

* `splitOn_join`: the split of a join is that of its parts.
* `join_inj_iff`: two joins are the same if and only if their parts split into the same texts.
-/

namespace Joins

variable {α : Type} [BEq α] [LawfulBEq α] {sep : α} {parts parts' : List (List α)}

/-- The texts between separators. -/
def pieces (sep : α) (parts : List (List α)) : List (List α) := parts.flatMap (List.splitOn sep)

omit [LawfulBEq α] in
@[simp] theorem pieces_cons (part : List α) :
    pieces sep (part :: parts) = part.splitOn sep ++ pieces sep parts := rfl

theorem splitOn_join (h : parts ≠ []) :
    ([sep].intercalate parts).splitOn sep = pieces sep parts := by
  induction parts with
  | nil => exact absurd rfl h
  | cons part parts ih =>
    cases parts with
    | nil => simp [pieces]
    | cons next rest =>
      rw [List.intercalate_cons_cons, List.append_assoc, List.singleton_append,
        List.splitOn_append_cons_self, ih (List.cons_ne_nil next rest),
        pieces_cons part]

theorem join_inj_iff (h : parts ≠ []) (h' : parts' ≠ []) :
    [sep].intercalate parts = [sep].intercalate parts' ↔ pieces sep parts = pieces sep parts' := by
  rw [← splitOn_join h, ← splitOn_join h']
  constructor
  · intro heq
    rw [heq]
  · intro heq
    have hsplit := congrArg ([sep].intercalate ·) heq
    simpa only [List.intercalate_splitOn] using hsplit

/-- Parts without separators are their own pieces. -/
theorem pieces_of_plain (h : ∀ part ∈ parts, sep ∉ part) : pieces sep parts = parts := by
  induction parts with
  | nil => rfl
  | cons part parts ih =>
    rw [List.forall_mem_cons] at h
    rw [pieces_cons, List.splitOn_eq_singleton h.1, ih h.2, List.singleton_append]

/-! ## What a join is made of -/

omit [BEq α] [LawfulBEq α] in
theorem mem_of_mem_join {x : α} (h : x ∈ [sep].intercalate parts) :
    x = sep ∨ ∃ part ∈ parts, x ∈ part := by
  induction parts with
  | nil => simp at h
  | cons part parts ih =>
    cases parts with
    | nil => exact .inr ⟨part, List.mem_cons_self, by simpa using h⟩
    | cons next rest =>
      rw [List.intercalate_cons_cons, List.append_assoc, List.mem_append, List.mem_append,
        List.mem_singleton] at h
      rcases h with hpart | hsep | hrest
      · exact .inr ⟨part, List.mem_cons_self, hpart⟩
      · exact .inl hsep
      · rcases ih hrest with hsep | ⟨p, hp, hx⟩
        · exact .inl hsep
        · exact .inr ⟨p, List.mem_cons_of_mem _ hp, hx⟩

omit [BEq α] [LawfulBEq α] in
theorem mem_join (sep : α) {x : α} {part : List α} (hpart : part ∈ parts) (hx : x ∈ part) :
    x ∈ [sep].intercalate parts := by
  induction parts with
  | nil => cases hpart
  | cons first parts ih =>
    cases parts with
    | nil =>
      rw [List.mem_singleton.1 hpart] at hx
      simpa using hx
    | cons next rest =>
      rw [List.intercalate_cons_cons, List.append_assoc, List.mem_append, List.mem_append]
      rcases List.mem_cons.1 hpart with rfl | hpart
      · exact .inl hx
      · exact .inr (.inr (ih hpart))

/-- A split has the elements of its text, but for separators. -/
theorem mem_of_mem_splitOn {x : α} {text part : List α} (hpart : part ∈ text.splitOn sep)
    (hx : x ∈ part) : x ∈ text := by
  have hmem := mem_join sep hpart hx
  rw [List.intercalate_splitOn] at hmem
  exact hmem

/-- The texts of a split have no separator. -/
theorem not_mem_of_mem_splitOn {text part : List α} (hpart : part ∈ text.splitOn sep) :
    sep ∉ part := by
  induction text generalizing part with
  | nil =>
    rw [List.splitOn_nil, List.mem_singleton] at hpart
    rw [hpart]
    exact List.not_mem_nil
  | cons x text ih =>
    rw [List.splitOn_cons_eq_if_modifyHead] at hpart
    split at hpart
    · rcases List.mem_cons.1 hpart with rfl | hpart
      · exact List.not_mem_nil
      · exact ih hpart
    · rename_i hx
      obtain ⟨first, rest, hsplit⟩ := List.exists_cons_of_ne_nil (List.splitOn_ne_nil sep text)
      rw [hsplit] at ih hpart
      rw [List.modifyHead_cons, List.mem_cons] at hpart
      rcases hpart with rfl | hpart
      · intro hsep
        rcases List.mem_cons.1 hsep with heq | hsep
        · exact hx (beq_iff_eq.2 heq.symm)
        · exact ih List.mem_cons_self hsep
      · exact ih (List.mem_cons_of_mem first hpart)

/-- A text has the elements of its split, and separators. -/
theorem mem_splitOn_of_mem (sep : α) {x : α} {text : List α} (hx : x ∈ text) :
    x = sep ∨ ∃ part ∈ text.splitOn sep, x ∈ part := by
  refine mem_of_mem_join ?_
  rw [List.intercalate_splitOn]
  exact hx

end Joins
