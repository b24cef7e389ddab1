import Mathlib.Data.List.Basic
import Mathlib.Tactic.Common
import NetOps.Text

/-!
# Lines

Items that are read block by block: a separator gives what its block stands for and starts the
next block, and so does the end. Texts are read so from their stripped lines, where a blank line
separates two blocks.

* `run_start`: the blocks are read one by one, each from the start.
* `infix_of_mem_splitOnP`: a block is a part of the items, without a separator.
* `field_foldl`: a field of the state is what the last item that writes it has written.
* `readText_append`: what stands before and after a blank line is read alone.
* `blankLine_two`: two line feeds make a blank line after every text.
-/

namespace Blocks

variable {α β σ φ : Type} (separates : α → Bool) (start : σ) (read : σ → α → σ)
  (emit : σ → List β)

/-- What the items give, from the state of the open block. -/
def run (state : σ) : List α → List β
  | [] => emit state
  | a :: as => if separates a then emit state ++ run start as else run (read state a) as

/-- What a block gives. -/
def block (as : List α) : List β := emit (as.foldl read start)

variable {separates start read emit}

/-- The open block is the first; the others are read from the start. -/
theorem run_eq (state : σ) (as : List α) :
    ∃ first rest, as.splitOnP separates = first :: rest ∧
      run separates start read emit state as =
        emit (first.foldl read state) ++ rest.flatMap (block start read emit) := by
  induction as generalizing state with
  | nil => exact ⟨[], [], List.splitOnP_nil, (List.append_nil _).symm⟩
  | cons a as ih =>
    rw [run, List.splitOnP_cons_eq_if_modifyHead]
    split
    · obtain ⟨first, rest, hsplit, hrun⟩ := ih start
      refine ⟨[], first :: rest, by rw [hsplit], ?_⟩
      rw [hrun]
      rfl
    · obtain ⟨first, rest, hsplit, hrun⟩ := ih (read state a)
      exact ⟨a :: first, rest, by rw [hsplit]; rfl, hrun⟩

theorem run_start (as : List α) :
    run separates start read emit start as =
      (as.splitOnP separates).flatMap (block start read emit) := by
  obtain ⟨first, rest, hsplit, hrun⟩ := run_eq start as
  rw [hsplit, hrun, List.flatMap_cons]
  rfl

/-- A block is a part of the items, without a separator. -/
theorem infix_of_mem_splitOnP {as block : List α} (h : block ∈ as.splitOnP separates) :
    block <:+: as ∧ ∀ a ∈ block, separates a = false := by
  have hsplit : ∃ first rest, as.splitOnP separates = first :: rest ∧
      (first <+: as ∧ ∀ a ∈ first, separates a = false) ∧
      ∀ block ∈ rest, block <:+: as ∧ ∀ a ∈ block, separates a = false := by
    clear h
    induction as with
    | nil => exact ⟨[], [], List.splitOnP_nil, ⟨List.prefix_rfl, by simp⟩, by simp⟩
    | cons a as ih =>
      obtain ⟨first, rest, hsplit, hfirst, hrest⟩ := ih
      rw [List.splitOnP_cons_eq_if_modifyHead, hsplit]
      split
      · refine ⟨[], first :: rest, rfl, ⟨List.nil_prefix, by simp⟩, fun block hblock => ?_⟩
        rcases List.mem_cons.1 hblock with rfl | hblock
        · exact ⟨hfirst.1.isInfix.trans (List.infix_cons List.infix_rfl), hfirst.2⟩
        · exact ⟨List.infix_cons (hrest block hblock).1, (hrest block hblock).2⟩
      · rename_i ha
        refine ⟨a :: first, rest, rfl, ⟨List.cons_prefix_cons.2 ⟨rfl, hfirst.1⟩, fun b hb => ?_⟩,
          fun block hblock => ⟨List.infix_cons (hrest block hblock).1, (hrest block hblock).2⟩⟩
        rcases List.mem_cons.1 hb with rfl | hb
        · exact Bool.eq_false_iff.2 ha
        · exact hfirst.2 b hb
  obtain ⟨first, rest, hfound, hfirst, hrest⟩ := hsplit
  rw [hfound] at h
  rcases List.mem_cons.1 h with rfl | h
  · exact ⟨hfirst.1.isInfix, hfirst.2⟩
  · exact hrest block h

theorem field_foldl {field : σ → Option φ} {write : α → Option φ}
    (hread : ∀ state a, field (read state a) = (write a).or (field state)) (state : σ)
    (as : List α) :
    field (as.foldl read state) = (as.filterMap write).getLast?.or (field state) := by
  induction as generalizing state with
  | nil => rfl
  | cons a as ih =>
    rw [List.foldl_cons, ih, hread]
    cases hwrite : write a with
    | none => rw [List.filterMap_cons_none hwrite, Option.none_or]
    | some value =>
      rw [List.filterMap_cons_some hwrite, List.getLast?_cons]
      cases (as.filterMap write).getLast? <;> rfl

end Blocks

namespace Lines

open Text (isSpace isLineEnd strip splitLines splitLinesFrom)

/-! ## Line ends -/

/-- The lines of a text, one character at a time: after a `\r`, a `\n` does not end another. -/
def linesFrom (afterReturn : Bool) (line : List Char) : List Char → List (List Char)
  | [] => if line = [] then [] else [line.reverse]
  | c :: cs =>
    if afterReturn && c == '\n' then linesFrom false line cs
    else if isLineEnd c then line.reverse :: linesFrom (c == '\r') [] cs
    else linesFrom false (c :: line) cs

/-- How many lines the characters end. -/
def lineEnds (afterReturn : Bool) : List Char → Nat
  | [] => 0
  | c :: cs =>
    if afterReturn && c == '\n' then lineEnds false cs
    else if isLineEnd c then lineEnds (c == '\r') cs + 1
    else lineEnds false cs

theorem linesFrom_afterReturn {cs : List Char} (h : ∀ rest, cs ≠ '\n' :: rest) :
    linesFrom true [] cs = linesFrom false [] cs := by
  cases cs with
  | nil => rfl
  | cons c cs =>
    have hc : (c == '\n') = false := by
      rw [beq_eq_false_iff_ne]
      intro hc
      exact h cs (by rw [hc])
    rw [linesFrom, linesFrom, hc]
    rfl

theorem splitLinesFrom_eq (line cs : List Char) :
    splitLinesFrom line cs = linesFrom false line cs := by
  fun_induction splitLinesFrom line cs with
  | case1 => rfl
  | case2 line hline => rw [linesFrom, if_neg hline]
  | case3 line cs ih =>
    rw [ih]
    rfl
  | case4 line c cs hreturn hend ih =>
    rw [linesFrom, Bool.false_and, if_neg Bool.false_ne_true, if_pos hend, ih]
    by_cases hc : c = '\r'
    · subst hc
      rw [beq_self_eq_true, linesFrom_afterReturn fun rest hrest => hreturn rest rfl hrest]
    · rw [beq_false_of_ne hc]
  | case5 line c cs hreturn hend ih =>
    rw [linesFrom, Bool.false_and, if_neg Bool.false_ne_true, if_neg hend, ih]

/-! ## Spaces around a line -/

theorem strip_of_white {cs : List Char} (h : ∀ c ∈ cs, isSpace c = true) :
    strip (String.ofList cs) = "" := by
  rw [strip, String.toList_ofList, List.dropWhile_eq_nil_iff.2 h, List.rdropWhile_nil]

theorem strip_cons_space {c : Char} (hc : isSpace c = true) (cs : List Char) :
    strip (String.ofList (c :: cs)) = strip (String.ofList cs) := by
  rw [strip, strip, String.toList_ofList, String.toList_ofList, List.dropWhile_cons_of_pos hc]

theorem strip_concat_space {c : Char} (hc : isSpace c = true) (cs : List Char) :
    strip (String.ofList (cs ++ [c])) = strip (String.ofList cs) := by
  rw [strip, strip, String.toList_ofList, String.toList_ofList, List.dropWhile_append]
  split
  · rename_i hempty
    rw [List.isEmpty_iff.1 hempty, List.dropWhile_cons_of_pos hc]
    rfl
  · rw [List.rdropWhile_concat_pos _ _ _ hc]

/-! ## Reading a text -/

variable {σ β : Type} (start : σ) (read : σ → String → σ) (emit : σ → List β)

/-- What lines give: a blank one separates two blocks, the others are read stripped. -/
def readLines (state : σ) (lines : List String) : List β :=
  Blocks.run (fun line => decide (strip line = "")) start (fun s line => read s (strip line)) emit
    state lines

def readText (text : String) : List β := readLines start read emit start (splitLines text)

/-- What the rest of a text gives; `line` is what has been read of the current line, backwards. -/
def readFrom (afterReturn : Bool) (state : σ) (line cs : List Char) : List β :=
  readLines start read emit state ((linesFrom afterReturn line cs).map String.ofList)

variable {start read emit}

theorem readLines_cons (state : σ) (line : String) (lines : List String) :
    readLines start read emit state (line :: lines) =
      if strip line = "" then emit state ++ readLines start read emit start lines
      else readLines start read emit (read state (strip line)) lines := by
  simp only [readLines, Blocks.run, decide_eq_true_eq]

theorem readLines_congr {line line' : String} (h : strip line = strip line') (state : σ)
    (lines : List String) :
    readLines start read emit state (line :: lines) =
      readLines start read emit state (line' :: lines) := by
  rw [readLines_cons, readLines_cons, h]

theorem readFrom_end {afterReturn : Bool} {c : Char} (hc : isLineEnd c = true)
    (hreturn : (afterReturn && c == '\n') = false) (state : σ) (line cs : List Char) :
    readFrom start read emit afterReturn state line (c :: cs) =
      readLines start read emit state (String.ofList line.reverse ::
        (linesFrom (c == '\r') [] cs).map String.ofList) := by
  rw [readFrom, linesFrom, hreturn, if_neg Bool.false_ne_true, if_pos hc, List.map_cons]

theorem readFrom_inner {afterReturn : Bool} {c : Char} (hc : isLineEnd c = false)
    (hreturn : (afterReturn && c == '\n') = false) (state : σ) (line cs : List Char) :
    readFrom start read emit afterReturn state line (c :: cs) =
      readFrom start read emit false state (c :: line) cs := by
  rw [readFrom, linesFrom, hreturn, if_neg Bool.false_ne_true, hc, if_neg Bool.false_ne_true]
  rfl

theorem readFrom_skip {afterReturn : Bool} {c : Char}
    (hreturn : (afterReturn && c == '\n') = true) (state : σ) (line cs : List Char) :
    readFrom start read emit afterReturn state line (c :: cs) =
      readFrom start read emit false state line cs := by
  rw [readFrom, linesFrom, hreturn, if_pos rfl]
  rfl

/-- A space that a line starts with does not count. -/
theorem readFrom_concat_space (hstart : emit start = []) {c : Char} (hc : isSpace c = true)
    (afterReturn : Bool) (state : σ) (line cs : List Char) :
    readFrom start read emit afterReturn state (line ++ [c]) cs =
      readFrom start read emit afterReturn state line cs := by
  have hline (l : List Char) : strip (String.ofList (l ++ [c]).reverse) =
      strip (String.ofList l.reverse) := by
    rw [List.reverse_append]
    exact strip_cons_space hc _
  induction cs generalizing afterReturn state line with
  | nil =>
    have hne : line ++ [c] ≠ [] := by simp
    rw [readFrom, readFrom, linesFrom, linesFrom, if_neg hne]
    split
    · rename_i hnil
      subst hnil
      rw [List.map_singleton, List.map_nil, readLines_cons, if_pos (strip_of_white (by simpa))]
      change emit state ++ emit start = emit state
      rw [hstart, List.append_nil]
    · exact readLines_congr (hline line) state []
  | cons d cs ih =>
    cases hreturn : afterReturn && d == '\n' with
    | true => rw [readFrom_skip hreturn, readFrom_skip hreturn, ih]
    | false =>
      cases hend : isLineEnd d with
      | true =>
        rw [readFrom_end hend hreturn, readFrom_end hend hreturn]
        exact readLines_congr (hline line) state _
      | false =>
        rw [readFrom_inner hend hreturn, readFrom_inner hend hreturn, ← List.cons_append, ih]

/-- A blank line in front of everything gives nothing. -/
theorem readFrom_feed (hstart : emit start = []) (cs : List Char) :
    readFrom start read emit true start [] cs = readFrom start read emit false start [] cs := by
  cases cs with
  | nil => rfl
  | cons c cs =>
    cases hc : c == '\n' with
    | true =>
      have hend : isLineEnd c = true := by
        rw [beq_iff_eq.1 hc]
        rfl
      have hreturn : (c == '\r') = false := by
        rw [beq_iff_eq.1 hc]
        rfl
      rw [readFrom_skip (by rw [hc]; rfl), readFrom_end hend rfl, readLines_cons,
        if_pos (strip_of_white (by simp)), hstart, hreturn]
      rfl
    | false =>
      rw [readFrom, readFrom, linesFrom, linesFrom, hc]
      rfl

/-! ## A blank line between two texts -/

section White

variable (hstart : emit start = [])
include hstart

/-- Spaces in front of everything give nothing. -/
theorem readFrom_white {gap : List Char} (hgap : ∀ c ∈ gap, isSpace c = true) (afterReturn : Bool)
    (cs : List Char) :
    readFrom start read emit afterReturn start [] (gap ++ cs) =
      readFrom start read emit false start [] cs := by
  induction gap generalizing afterReturn with
  | nil =>
    cases afterReturn with
    | false => rfl
    | true => exact readFrom_feed hstart cs
  | cons c gap ih =>
    have hrest (r : Bool) := ih (fun d hd => hgap d (List.mem_cons_of_mem c hd)) r
    rw [List.cons_append]
    cases hreturn : afterReturn && c == '\n' with
    | true => rw [readFrom_skip hreturn, hrest]
    | false =>
      cases hend : isLineEnd c with
      | true =>
        rw [readFrom_end hend hreturn, readLines_cons, if_pos (strip_of_white (by simp)), hstart]
        exact hrest _
      | false =>
        rw [readFrom_inner hend hreturn]
        exact (readFrom_concat_space hstart (hgap c List.mem_cons_self) false start [] _).trans
          (hrest false)

/-- When nothing but spaces is on the current line, one line end is a blank line. -/
theorem readFrom_blank {gap : List Char} (hgap : ∀ c ∈ gap, isSpace c = true) {afterReturn : Bool}
    {line : List Char} (hline : ∀ c ∈ line, isSpace c = true)
    (hends : 0 < lineEnds afterReturn gap) (state : σ) (cs : List Char) :
    readFrom start read emit afterReturn state line (gap ++ cs) =
      emit state ++ readFrom start read emit false start [] cs := by
  induction gap generalizing afterReturn line with
  | nil => exact absurd hends (lt_irrefl 0)
  | cons c gap ih =>
    have hspace := hgap c List.mem_cons_self
    have hrest : ∀ d ∈ gap, isSpace d = true := fun d hd => hgap d (List.mem_cons_of_mem c hd)
    rw [lineEnds] at hends
    rw [List.cons_append]
    cases hreturn : afterReturn && c == '\n' with
    | true =>
      rw [if_pos hreturn] at hends
      rw [readFrom_skip hreturn, ih hrest hline hends]
    | false =>
      rw [hreturn, if_neg Bool.false_ne_true] at hends
      cases hend : isLineEnd c with
      | true =>
        rw [readFrom_end hend hreturn, readLines_cons,
          if_pos (strip_of_white fun d hd => hline d (List.mem_reverse.1 hd))]
        exact congrArg (emit state ++ ·) (readFrom_white hstart hrest _ cs)
      | false =>
        rw [hend, if_neg Bool.false_ne_true] at hends
        rw [readFrom_inner hend hreturn]
        refine ih hrest (fun d hd => ?_) hends
        rcases List.mem_cons.1 hd with rfl | hd
        · exact hspace
        · exact hline d hd

/-- Two line ends, or one when no line is open, close the open line and are a blank line. -/
theorem readFrom_gap {gap : List Char} (hgap : ∀ c ∈ gap, isSpace c = true) {afterReturn : Bool}
    {line : List Char} (hends : (if line = [] then 0 else 1) < lineEnds afterReturn gap) (state : σ)
    (cs : List Char) :
    readFrom start read emit afterReturn state line (gap ++ cs) =
      readFrom start read emit afterReturn state line [] ++
        readFrom start read emit false start [] cs := by
  induction gap generalizing afterReturn line with
  | nil => exact absurd hends (Nat.not_lt_zero _)
  | cons c gap ih =>
    by_cases hline : line = []
    · subst hline
      rw [if_pos rfl] at hends
      exact readFrom_blank hstart hgap (by simp) hends state cs
    have hspace := hgap c List.mem_cons_self
    have hrest : ∀ d ∈ gap, isSpace d = true := fun d hd => hgap d (List.mem_cons_of_mem c hd)
    have hlast : readFrom start read emit afterReturn state line [] =
        readLines start read emit state [String.ofList line.reverse] := by
      rw [readFrom, linesFrom, if_neg hline]
      rfl
    rw [if_neg hline, lineEnds] at hends
    rw [List.cons_append]
    cases hreturn : afterReturn && c == '\n' with
    | true =>
      rw [if_pos hreturn] at hends
      rw [readFrom_skip hreturn, ih hrest (by rwa [if_neg hline])]
      rfl
    | false =>
      rw [hreturn, if_neg Bool.false_ne_true] at hends
      cases hend : isLineEnd c with
      | true =>
        rw [hend, if_pos rfl] at hends
        rw [readFrom_end hend hreturn, hlast, readLines_cons, readLines_cons]
        split
        · rw [List.append_assoc]
          refine congrArg (emit state ++ ·) ?_
          change _ = emit start ++ _
          rw [hstart]
          exact readFrom_white hstart hrest _ cs
        · exact readFrom_blank hstart hrest (by simp) (by omega) _ cs
      | false =>
        rw [hend, if_neg Bool.false_ne_true] at hends
        have hopen : c :: line ≠ [] := List.cons_ne_nil c line
        have hline : strip (String.ofList (c :: line).reverse) =
            strip (String.ofList line.reverse) := by
          rw [List.reverse_cons]
          exact strip_concat_space hspace _
        rw [readFrom_inner hend hreturn, ih hrest (by rwa [if_neg hopen]), hlast, readFrom,
          linesFrom, if_neg hopen, List.map_singleton, readLines_congr hline]

theorem readFrom_append {gap : List Char} (hgap : ∀ c ∈ gap, isSpace c = true)
    {afterReturn : Bool} {line cs : List Char}
    (hends : (linesFrom afterReturn line cs).length < lineEnds afterReturn (cs ++ gap)) (state : σ)
    (ds : List Char) :
    readFrom start read emit afterReturn state line (cs ++ (gap ++ ds)) =
      readFrom start read emit afterReturn state line cs ++
        readFrom start read emit false start [] ds := by
  induction cs generalizing afterReturn state line with
  | nil =>
    refine readFrom_gap hstart hgap ?_ state ds
    rw [linesFrom] at hends
    split at hends <;> simpa [*] using hends
  | cons c cs ih =>
    rw [linesFrom, List.cons_append, lineEnds] at hends
    rw [List.cons_append]
    cases hreturn : afterReturn && c == '\n' with
    | true =>
      rw [if_pos hreturn, if_pos hreturn] at hends
      rw [readFrom_skip hreturn, readFrom_skip hreturn, ih hends]
    | false =>
      rw [hreturn, if_neg Bool.false_ne_true, if_neg Bool.false_ne_true] at hends
      cases hend : isLineEnd c with
      | true =>
        rw [hend, if_pos rfl, if_pos rfl, List.length_cons, Nat.add_lt_add_iff_right] at hends
        rw [readFrom_end hend hreturn, readFrom_end hend hreturn, readLines_cons, readLines_cons]
        split
        · rw [List.append_assoc]
          exact congrArg (emit state ++ ·) (ih hends start)
        · exact ih hends _
      | false =>
        rw [hend, if_neg Bool.false_ne_true, if_neg Bool.false_ne_true] at hends
        rw [readFrom_inner hend hreturn, readFrom_inner hend hreturn, ih hends]

end White

/-- What puts a blank line between a text and what comes next: spaces that end more lines than the
text has. -/
structure BlankLine (text gap : String) : Prop where
  white : gap.toList.all isSpace = true
  ends : (splitLines text).length < lineEnds false (text ++ gap).toList

theorem readText_append (hstart : emit start = []) {a gap : String} (hgap : BlankLine a gap)
    (b : String) :
    readText start read emit (a ++ gap ++ b) =
      readText start read emit a ++ readText start read emit b := by
  have hread (text : String) : readText start read emit text =
      readFrom start read emit false start [] text.toList := by
    rw [readText, splitLines, splitLinesFrom_eq]
    rfl
  have hends := hgap.ends
  rw [splitLines, splitLinesFrom_eq, List.length_map, String.toList_append] at hends
  rw [hread, hread, hread, String.toList_append, String.toList_append, List.append_assoc]
  exact readFrom_append hstart (List.all_eq_true.1 hgap.white) hends start b.toList

theorem lineEnds_two {afterReturn : Bool} {line : List Char} (cs : List Char)
    (hopen : afterReturn = true → line = []) :
    (linesFrom afterReturn line cs).length < lineEnds afterReturn (cs ++ ['\n', '\n']) := by
  induction cs generalizing afterReturn line with
  | nil =>
    cases afterReturn with
    | false =>
      have hends : lineEnds false ['\n', '\n'] = 2 := by decide
      rw [linesFrom, List.nil_append, hends]
      split <;> simp
    | true =>
      rw [hopen rfl]
      decide
  | cons c cs ih =>
    rw [linesFrom, List.cons_append, lineEnds]
    split
    · exact ih (by simp)
    · split
      · rw [List.length_cons, Nat.add_lt_add_iff_right]
        exact ih fun _ => rfl
      · exact ih (by simp)

/-- Two line feeds make a blank line after every text. -/
theorem blankLine_two (text : String) : BlankLine text "\n\n" := by
  refine ⟨by decide, ?_⟩
  rw [splitLines, splitLinesFrom_eq, List.length_map, String.toList_append]
  exact lineEnds_two text.toList (by simp)

end Lines
