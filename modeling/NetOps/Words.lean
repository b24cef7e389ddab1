import Mathlib.Data.List.Basic

/-!
# Words

A text as its words and the gaps between them.

* `Piece`: a word with the gap before it. `render` puts pieces and a trailing gap together.
* `Proper`: words are not empty and free of separators, gaps are of separators, and no two words
  touch.
* `split`: the pieces of a text; they are proper and render to it.
-/

namespace Words

variable {α : Type}

structure Piece (α : Type) where
  gap : List α
  word : List α
  deriving DecidableEq

def render : List (Piece α) → List α → List α
  | [], trailing => trailing
  | p :: ps, trailing => p.gap ++ (p.word ++ render ps trailing)

variable (sep : α → Bool)

inductive Proper : List (Piece α) → List α → Prop where
  | nil {trailing : List α} : (∀ c ∈ trailing, sep c = true) → Proper [] trailing
  | cons {p : Piece α} {ps : List (Piece α)} {trailing : List α} :
    (∀ c ∈ p.gap, sep c = true) → p.word ≠ [] → (∀ c ∈ p.word, sep c = false) →
    (∀ q ∈ ps.head?, q.gap ≠ []) → Proper ps trailing → Proper (p :: ps) trailing

/-- Put a character before a split text. -/
def push (c : α) : List (Piece α) × List α → List (Piece α) × List α
  | ([], trailing) => if sep c then ([], c :: trailing) else ([⟨[], [c]⟩], trailing)
  | (p :: ps, trailing) =>
    if sep c then ({ p with gap := c :: p.gap } :: ps, trailing)
    else if p.gap = [] then ({ p with word := c :: p.word } :: ps, trailing)
    else (⟨[], [c]⟩ :: p :: ps, trailing)

def split : List α → List (Piece α) × List α
  | [] => ([], [])
  | c :: cs => push sep c (split cs)

variable {sep}

/-- What stands before a separator or the end. -/
theorem takeWhile_gap {p : α → Bool} {xs ys : List α} (hxs : ∀ c ∈ xs, p c = true)
    (hys : ∀ c ∈ ys.head?, p c = false) : (xs ++ ys).takeWhile p = xs := by
  rw [List.takeWhile_append_of_pos hxs]
  cases ys with
  | nil => simp
  | cons c ys => simp [hys c rfl]

theorem dropWhile_gap {p : α → Bool} {xs ys : List α} (hxs : ∀ c ∈ xs, p c = true)
    (hys : ∀ c ∈ ys.head?, p c = false) : (xs ++ ys).dropWhile p = ys := by
  rw [List.dropWhile_append_of_pos hxs]
  cases ys with
  | nil => rfl
  | cons c ys => simp [hys c rfl]

theorem proper_push {c : α} {ps : List (Piece α)} {trailing : List α}
    (h : Proper sep ps trailing) : Proper sep (push sep c (ps, trailing)).1
      (push sep c (ps, trailing)).2 := by
  have hone : ∀ {b : Bool}, sep c = b → ∀ d ∈ [c], sep d = b := by
    intro b hc d hd
    rw [List.mem_singleton.1 hd]
    exact hc
  cases h with
  | nil htrailing =>
    dsimp only [push]
    split
    · rename_i hc
      refine .nil fun d hd => ?_
      rcases List.mem_cons.1 hd with rfl | hd
      · exact hc
      · exact htrailing d hd
    · rename_i hc
      refine .cons (by simp) (List.cons_ne_nil c []) ?_ (by simp) (.nil htrailing)
      exact hone (Bool.not_eq_true _ ▸ hc)
  | @cons p ps _ hgap hne hword hnext hrest =>
    dsimp only [push]
    split
    · rename_i hc
      refine .cons (fun d hd => ?_) hne hword hnext hrest
      rcases List.mem_cons.1 hd with rfl | hd
      · exact hc
      · exact hgap d hd
    · rename_i hc
      have hc : sep c = false := Bool.not_eq_true _ ▸ hc
      split
      · refine .cons hgap (List.cons_ne_nil _ _) (fun d hd => ?_) hnext hrest
        rcases List.mem_cons.1 hd with rfl | hd
        · exact hc
        · exact hword d hd
      · rename_i hgap'
        refine .cons (by simp) (List.cons_ne_nil c []) (hone hc) ?_
          (.cons hgap hne hword hnext hrest)
        intro q hq
        rw [← Option.some.inj hq]
        exact hgap'

theorem render_push (c : α) (ps : List (Piece α)) (trailing : List α) :
    render (push sep c (ps, trailing)).1 (push sep c (ps, trailing)).2 =
      c :: render ps trailing := by
  cases ps with
  | nil =>
    dsimp only [push]
    split
    · rfl
    · rfl
  | cons p ps =>
    dsimp only [push]
    split
    · rfl
    · split
      · rename_i hgap
        simp only [render, hgap, List.nil_append, List.cons_append]
      · rfl

theorem proper_split (cs : List α) : Proper sep (split sep cs).1 (split sep cs).2 := by
  induction cs with
  | nil => exact .nil fun c hc => by cases hc
  | cons c cs ih => exact proper_push ih

@[simp] theorem render_split (cs : List α) :
    render (split sep cs).1 (split sep cs).2 = cs := by
  induction cs with
  | nil => rfl
  | cons c cs ih =>
    rw [split, render_push, ih]

/-- A proper text ends with its trailing gap or has a separator after each word. -/
theorem head_render {ps : List (Piece α)} {trailing : List α} (h : Proper sep ps trailing)
    (hnext : ∀ q ∈ ps.head?, q.gap ≠ []) : ∀ c ∈ (render ps trailing).head?, sep c = true := by
  cases h with
  | nil htrailing =>
    intro c hc
    exact htrailing c (List.mem_of_mem_head? hc)
  | @cons p ps _ hgap _ _ _ _ =>
    intro c hc
    have hne : p.gap ≠ [] := hnext p rfl
    rw [render, List.head?_append_of_ne_nil _ hne] at hc
    exact hgap c (List.mem_of_mem_head? hc)

end Words
