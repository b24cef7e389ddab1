import NetOps.Patterns
import NetOps.Words

/-!
# Discovery.Evidence

The redaction of evidence payloads (`_sanitize_payload` and `_build_evidence` of
`discovery/execution.py`), and what of the secrets in a payload it leaves.

The pattern for CLI text redacts the word after `password` or `secret`. So of two payloads that
differ in secrets only the redacted ones are equal if and only if every word they differ in is one
that directly follows a keyword which is not redacted itself (`evidence_eq_iff`); the secret of
`secret 5 SECRET` is not.
-/

namespace NetOps
namespace Discovery

open Patterns Substitution Text Words

/-! ## Patterns -/

/-- The alternatives of the pattern for keys. -/
def sensitiveWords : List (List Char) :=
  ["password".toList, "secret".toList, "token".toList, "credential".toList, "api_key".toList,
    "auth_pass".toList, "enable_pass".toList, "community".toList]

/-- `sensitive_key_pattern.search`. -/
def isSensitive (key : String) : Bool :=
  key.toList.tails.any fun cs => sensitiveWords.any fun word => startsWith word cs

/-- The keywords of the pattern for texts. -/
def keywords : List (List Char) := ["password".toList, "secret".toList]

def redacted : List Char := " [REDACTED]".toList

/-- A match of `keyword\s+([^\s]+)` at the start of a text. -/
def clauseOf (keyword cs : List Char) : Option (Nat × List Char) :=
  if startsWith keyword cs then
    let rest := cs.drop keyword.length
    let gap := rest.takeWhile isSpace
    let token := (rest.dropWhile isSpace).takeWhile fun c => !isSpace c
    if gap = [] ∨ token = [] then none
    else some (keyword.length + (gap.length + token.length), cs.take keyword.length ++ redacted)
  else none

/-- A match of `(password|secret)\s+([^\s]+)`. -/
def clauseAt (cs : List Char) : Option (Nat × List Char) :=
  keywords.findSome? fun keyword => clauseOf keyword cs

def redact (text : String) : String := String.ofList (sub clauseAt 0 text.toList)

/-! ## Payloads -/

/-- A key of a dictionary: a text, or an object of another type. -/
inductive Key (O : Type) where
  | text (value : String)
  | other (value : O)

/-- A Python value, as far as it is gone through. -/
inductive Payload (O : Type) where
  | dict (entries : List (Key O × Payload O))
  | list (items : List (Payload O))
  | tuple (items : List (Payload O))
  | text (value : String)
  | other (value : O)

def Key.isSensitive {O : Type} : Key O → Bool
  | .text value => Discovery.isSensitive value
  | .other _ => false

section Sanitize

variable {O : Type}

mutual

/-- `_sanitize_payload`. -/
def sanitizePayload : Payload O → Payload O
  | .dict entries => .dict (sanitizeEntries entries)
  | .list items => .list (sanitizeItems items)
  | .tuple items => .tuple (sanitizeItems items)
  | .text value => .text (redact value)
  | .other value => .other value

def sanitizeEntries : List (Key O × Payload O) → List (Key O × Payload O)
  | [] => []
  | (key, value) :: entries =>
    (key, if key.isSensitive then .text "[REDACTED]" else sanitizePayload value) ::
      sanitizeEntries entries

def sanitizeItems : List (Payload O) → List (Payload O)
  | [] => []
  | item :: items => sanitizePayload item :: sanitizeItems items

end

/-- The payload of `_build_evidence`. -/
def evidencePayload (payload : Payload O) : List (Key O × Payload O) :=
  match sanitizePayload payload with
  | .dict entries => entries
  | sanitized => [(.text "data", sanitized)]

mutual

/-- Payloads of one shape whose texts are related, sensitive values aside. -/
def Alike (T : String → String → Prop) : Payload O → Payload O → Prop
  | .dict entries, .dict entries' => AlikeEntries T entries entries'
  | .list items, .list items' => AlikeItems T items items'
  | .tuple items, .tuple items' => AlikeItems T items items'
  | .text value, .text value' => T value value'
  | .other value, .other value' => value = value'
  | _, _ => False

def AlikeEntries (T : String → String → Prop) :
    List (Key O × Payload O) → List (Key O × Payload O) → Prop
  | [], [] => True
  | (key, value) :: entries, (key', value') :: entries' =>
    key = key' ∧ (key.isSensitive = false → Alike T value value') ∧
      AlikeEntries T entries entries'
  | _, _ => False

def AlikeItems (T : String → String → Prop) : List (Payload O) → List (Payload O) → Prop
  | [], [] => True
  | item :: items, item' :: items' => Alike T item item' ∧ AlikeItems T items items'
  | _, _ => False

end

end Sanitize

/-! ## Secrets in texts -/

/-- The words of a text with the gaps between them, and the gap after the last. -/
def pieces (text : String) : List (Piece Char) := (split isSpace text.toList).1

def trailing (text : String) : List Char := (split isSpace text.toList).2

def words (text : String) : List (List Char) := (pieces text).map (·.word)

/-- A word that is `password` or `secret`. -/
def isKeyword (word : List Char) : Bool :=
  keywords.any fun keyword => startsWith keyword word && keyword.length = word.length

/-- The encryption type of a secret, a digit. -/
def isTypeDigit : List Char → Bool
  | [c] => c.isDigit
  | _ => false

/-- The `i`th word is the secret of a clause `password SECRET` or `password 7 SECRET`. -/
def IsSecret (ws : List (List Char)) (i : Nat) : Prop :=
  (∃ j, i = j + 1 ∧ ws[j]?.any isKeyword = true) ∨
    ∃ j, i = j + 2 ∧ ws[j]?.any isKeyword = true ∧ ws[j + 1]?.any isTypeDigit = true

/-- Two texts differ in the secrets of clauses only. -/
structure SecretsDiffer (text text' : String) : Prop where
  gaps : List.Forall₂ (fun p p' => p.gap = p'.gap) (pieces text) (pieces text')
  trailing : trailing text = trailing text'
  secrets : ∀ i, (words text)[i]? ≠ (words text')[i]? →
    IsSecret (words text) i ∧ IsSecret (words text') i

/-- A word that ends in a keyword. -/
def endsInKeyword : List Char → Bool
  | [] => false
  | c :: cs => isKeyword (c :: cs) || endsInKeyword cs

/-- One more keyword in a row, or none. -/
def countKeyword (n : Nat) (word : List Char) : Nat := if endsInKeyword word then n + 1 else 0

/-- How many words directly before the `i`th end in a keyword. -/
def keywordsBefore (ws : List (List Char)) (i : Nat) : Nat := (ws.take i).foldl countKeyword 0

/-- The words two texts differ in follow an odd number of keywords. -/
def Covered (text text' : String) : Prop :=
  ∀ i, (words text)[i]? ≠ (words text')[i]? → keywordsBefore (words text) i % 2 = 1

/-! ## Matches in words -/

theorem smallLetters_keywords : ∀ keyword ∈ keywords, SmallLetters keyword := by
  have hall : (keywords.all fun word => word.all fun k => 97 ≤ k.toNat && k.toNat ≤ 122) = true :=
    by decide
  intro keyword hkeyword k hk
  have hletter := List.all_eq_true.1 (List.all_eq_true.1 hall keyword hkeyword) k hk
  rw [Bool.and_eq_true, decide_eq_true_eq, decide_eq_true_eq] at hletter
  exact hletter

/-- What a clause of a keyword followed by more words takes, and what replaces it. -/
def clauseMatch (w : List Char) : List (Piece Char) → Option (Nat × List Char)
  | [] => none
  | q :: _ => some (w.length + (q.gap.length + q.word.length), w ++ redacted)

theorem clauseOf_word {keyword w : List Char} {ps : List (Piece Char)} {trailing : List Char}
    (hk : SmallLetters keyword) (hw : ∀ c ∈ w, isSpace c = false)
    (hps : Proper isSpace ps trailing) (hgap : ∀ q ∈ ps.head?, q.gap ≠ []) :
    clauseOf keyword (w ++ render ps trailing) =
      if startsWith keyword w && keyword.length = w.length then clauseMatch w ps else none := by
  have hrest := head_render hps hgap
  unfold clauseOf
  rw [startsWith_append hk hrest]
  by_cases hstart : startsWith keyword w = true
  · rw [if_pos hstart]
    dsimp only
    by_cases hlength : keyword.length = w.length
    · have hcond : (startsWith keyword w && decide (keyword.length = w.length)) = true := by
        rw [hstart, decide_eq_true hlength]
        rfl
      rw [if_pos hcond, hlength, List.drop_left, List.take_left]
      cases hps with
      | nil htrailing =>
        have hdrop : trailing.dropWhile isSpace = [] := List.dropWhile_eq_nil_iff.2 htrailing
        rw [render, hdrop, if_pos (Or.inr List.takeWhile_nil)]
        rfl
      | @cons q qs _ hqgap hqne hqword hqs hrestps =>
        have hword : ∀ c ∈ (q.word ++ render qs trailing).head?, isSpace c = false := by
          intro c hc
          rw [List.head?_append_of_ne_nil _ hqne] at hc
          exact hqword c (List.mem_of_mem_head? hc)
        have htoken : (q.word ++ render qs trailing).takeWhile (fun c => !isSpace c) = q.word := by
          refine takeWhile_gap ?_ ?_
          · intro c hc
            rw [hqword c hc]
            rfl
          · intro c hc
            rw [head_render hrestps hqs c hc]
            rfl
        have hno : ¬ (q.gap = [] ∨ q.word = []) := by
          rintro (h | h)
          · exact hgap q rfl h
          · exact hqne h
        rw [render, takeWhile_gap hqgap hword, dropWhile_gap hqgap hword, htoken, if_neg hno]
        rfl
    · have hcond : ¬ (startsWith keyword w && decide (keyword.length = w.length)) = true := by
        rw [decide_eq_false hlength, Bool.and_false]
        exact Bool.false_ne_true
      have hlt : keyword.length < w.length :=
        Nat.lt_of_le_of_ne (length_le_of_startsWith hstart) hlength
      rw [if_neg hcond, List.drop_append_of_le_length (Nat.le_of_lt hlt)]
      have hne : w.drop keyword.length ≠ [] := by
        intro h
        rw [List.drop_eq_nil_iff] at h
        omega
      obtain ⟨c, cs, hcs⟩ := List.exists_cons_of_ne_nil hne
      have hc : isSpace c = false := by
        refine hw c (List.mem_of_mem_drop (i := keyword.length) ?_)
        rw [hcs]
        exact List.mem_cons_self
      rw [hcs, List.cons_append, List.takeWhile_cons_of_neg (by simp [hc]), if_pos (Or.inl rfl)]
  · have hcond : ¬ (startsWith keyword w && decide (keyword.length = w.length)) = true := by
      intro h
      exact hstart (Bool.and_eq_true _ _ ▸ h).1
    rw [if_neg hstart, if_neg hcond]

/-- Alternatives that all give the same. -/
theorem findSome?_ite {α β : Type} {f : α → Option β} {p : α → Bool} {x : Option β} {xs : List α}
    (h : ∀ a ∈ xs, f a = if p a then x else none) :
    xs.findSome? f = if xs.any p then x else none := by
  induction xs with
  | nil => rfl
  | cons a xs ih =>
    have hrest := ih fun b hb => h b (List.mem_cons_of_mem a hb)
    rw [List.findSome?_cons, hrest, h a List.mem_cons_self, List.any_cons]
    cases p a with
    | false => rfl
    | true => cases x <;> cases xs.any p <;> rfl

/-- The pattern matches at a word that is a keyword and not the last word. -/
theorem clauseAt_word {w : List Char} {ps : List (Piece Char)} {trailing : List Char}
    (hw : ∀ c ∈ w, isSpace c = false) (hps : Proper isSpace ps trailing)
    (hgap : ∀ q ∈ ps.head?, q.gap ≠ []) :
    clauseAt (w ++ render ps trailing) = if isKeyword w then clauseMatch w ps else none := by
  unfold clauseAt isKeyword
  refine findSome?_ite ?_
  intro keyword hkeyword
  exact clauseOf_word (smallLetters_keywords keyword hkeyword) hw hps hgap

theorem clauseAt_space {c : Char} (cs : List Char) (hc : isSpace c = true) :
    clauseAt (c :: cs) = none := by
  have hno : ∀ keyword ∈ keywords, clauseOf keyword (c :: cs) = none := by
    intro keyword hkeyword
    have hsmall := smallLetters_keywords keyword hkeyword
    unfold clauseOf
    cases keyword with
    | nil => exact absurd hkeyword (by decide)
    | cons k ks =>
      have hk := matchesIgnoringCase_space (hsmall k List.mem_cons_self) hc
      rw [startsWith, hk, Bool.false_and, if_neg Bool.false_ne_true]
  exact List.findSome?_eq_none_iff.2 hno

/-- Gaps stay. -/
theorem sub_gap {gap cs : List Char} (hgap : ∀ c ∈ gap, isSpace c = true) :
    sub clauseAt 0 (gap ++ cs) = gap ++ sub clauseAt 0 cs := by
  refine sub_append_of_none ?_
  intro zs hne hsuffix
  obtain ⟨z, zs, rfl⟩ := List.exists_cons_of_ne_nil hne
  exact clauseAt_space _ (hgap z (hsuffix.mem List.mem_cons_self))

/-! ## Redaction by words -/

/-- The redaction of a text in words; `armed` says that the last word ends in a keyword and was not
redacted. -/
def redactPieces : Bool → List (Piece Char) → List Char → List Char
  | _, [], trailing => trailing
  | true, _ :: ps, trailing => redacted ++ redactPieces false ps trailing
  | false, p :: ps, trailing =>
    p.gap ++ (p.word ++ redactPieces (endsInKeyword p.word) ps trailing)

/-- One word, with what follows redacted already. -/
theorem sub_word {w : List Char} {ps : List (Piece Char)} {trailing : List Char}
    (hw : ∀ c ∈ w, isSpace c = false) (hps : Proper isSpace ps trailing)
    (hgap : ∀ q ∈ ps.head?, q.gap ≠ [])
    (hrest : sub clauseAt 0 (render ps trailing) = redactPieces false ps trailing)
    (hnext : sub clauseAt 0 (render ps.tail trailing) = redactPieces false ps.tail trailing) :
    sub clauseAt 0 (w ++ render ps trailing) =
      w ++ redactPieces (endsInKeyword w) ps trailing := by
  induction w with
  | nil => exact hrest
  | cons c cs ih =>
    have hone := ih fun d hd => hw d (List.mem_cons_of_mem c hd)
    have hclause := clauseAt_word hw hps hgap
    by_cases hkeyword : isKeyword (c :: cs) = true
    · rw [if_pos hkeyword] at hclause
      have hends : endsInKeyword (c :: cs) = true := by
        rw [endsInKeyword, hkeyword, Bool.true_or]
      rw [hends]
      cases ps with
      | nil =>
        rw [List.cons_append] at hclause ⊢
        rw [sub_cons_none hclause, hone]
        rfl
      | cons q qs =>
        have htext : c :: cs ++ render (q :: qs) trailing =
            (c :: cs ++ (q.gap ++ q.word)) ++ render qs trailing := by
          rw [render, List.append_assoc, List.append_assoc]
        rw [htext] at hclause ⊢
        have hlength : (c :: cs).length + (q.gap.length + q.word.length) =
            (c :: cs ++ (q.gap ++ q.word)).length := by
          rw [List.length_append, List.length_append]
        rw [clauseMatch, hlength] at hclause
        rw [sub_match (by simp) hclause]
        rw [List.tail_cons] at hnext
        rw [hnext, redactPieces, List.append_assoc]
    · rw [if_neg hkeyword] at hclause
      have hno : isKeyword (c :: cs) = false := eq_false_of_ne_true hkeyword
      have hends : endsInKeyword (c :: cs) = endsInKeyword cs := by
        rw [endsInKeyword, hno, Bool.false_or]
      rw [List.cons_append] at hclause ⊢
      rw [sub_cons_none hclause, hone, hends, List.cons_append]

/-- The first word and the words after it. -/
theorem sub_render {ps : List (Piece Char)} {trailing : List Char}
    (h : Proper isSpace ps trailing) :
    sub clauseAt 0 (render ps trailing) = redactPieces false ps trailing ∧
      sub clauseAt 0 (render ps.tail trailing) = redactPieces false ps.tail trailing := by
  induction h with
  | @nil trailing htrailing =>
    have hgap : sub clauseAt 0 (trailing ++ []) = _ := sub_gap htrailing
    rw [List.append_nil, sub_nil, List.append_nil] at hgap
    exact ⟨hgap, hgap⟩
  | @cons p ps trailing hgap hne hword hnext hps ih =>
    refine ⟨?_, ih.1⟩
    rw [render, sub_gap hgap, sub_word hword hps hnext ih.1 ih.2, redactPieces]

theorem head_redactPieces {armed : Bool} {ps : List (Piece Char)} {trailing : List Char}
    (h : Proper isSpace ps trailing) (hnext : ∀ q ∈ ps.head?, q.gap ≠ []) :
    ∀ c ∈ (redactPieces armed ps trailing).head?, isSpace c = true := by
  intro c hc
  cases h with
  | nil htrailing =>
    cases armed with
    | true => exact htrailing c (List.mem_of_mem_head? hc)
    | false => exact htrailing c (List.mem_of_mem_head? hc)
  | @cons p ps _ hgap _ _ _ _ =>
    cases armed with
    | true =>
      rw [redactPieces, List.head?_append_of_ne_nil _ (by decide)] at hc
      rw [← Option.some.inj hc]
      decide
    | false =>
      rw [redactPieces, List.head?_append_of_ne_nil _ (hnext p rfl)] at hc
      exact hgap c (List.mem_of_mem_head? hc)

/-- A word ends where the next gap starts, so equal texts have equal words. -/
theorem word_append_inj {w w' xs ys : List Char} (hw : ∀ c ∈ w, isSpace c = false)
    (hw' : ∀ c ∈ w', isSpace c = false) (hxs : ∀ c ∈ xs.head?, isSpace c = true)
    (hys : ∀ c ∈ ys.head?, isSpace c = true) :
    w ++ xs = w' ++ ys ↔ w = w' ∧ xs = ys := by
  have hfirst : ∀ {v zs : List Char}, (∀ c ∈ v, isSpace c = false) →
      (∀ c ∈ zs.head?, isSpace c = true) → (v ++ zs).takeWhile (fun c => !isSpace c) = v := by
    intro v zs hv hzs
    refine takeWhile_gap ?_ ?_
    · intro c hc
      rw [hv c hc]
      rfl
    · intro c hc
      rw [hzs c hc]
      rfl
  constructor
  · intro h
    have hword : w = w' := by
      rw [← hfirst hw hxs, h, hfirst hw' hys]
    rw [hword] at h
    exact ⟨hword, List.append_cancel_left h⟩
  · rintro ⟨rfl, rfl⟩
    rfl

/-- `Covered`, after `n` keywords in a row. -/
def CoveredFrom (n : Nat) (ws ws' : List (List Char)) : Prop :=
  ∀ i, ws[i]? ≠ ws'[i]? → (ws.take i).foldl countKeyword n % 2 = 1

theorem coveredFrom_cons {n : Nat} {w w' : List Char} {ws ws' : List (List Char)} :
    CoveredFrom n (w :: ws) (w' :: ws') ↔
      (w ≠ w' → n % 2 = 1) ∧ CoveredFrom (countKeyword n w) ws ws' := by
  constructor
  · intro h
    constructor
    · intro hne
      exact h 0 fun heq => hne (Option.some.inj heq)
    · intro i hi
      exact h (i + 1) hi
  · rintro ⟨hfirst, hrest⟩ i hi
    cases i with
    | zero => exact hfirst fun heq => hi (congrArg some heq)
    | succ i => exact hrest i hi

/-- After an even number of keywords, the next one makes it odd. -/
theorem countKeyword_odd_iff {n : Nat} (h : n % 2 = 0) (word : List Char) :
    countKeyword n word % 2 = 1 ↔ endsInKeyword word = true := by
  unfold countKeyword
  split
  · rename_i hword
    exact iff_of_true (by omega) hword
  · rename_i hword
    exact iff_of_false (by omega) hword

theorem countKeyword_even {n : Nat} (h : n % 2 = 1) (word : List Char) :
    ¬ countKeyword n word % 2 = 1 := by
  unfold countKeyword
  split <;> omega

/-- Texts with the same gaps have the same redaction if and only if they differ in redacted words
only. -/
theorem redactPieces_eq_iff {armed : Bool} {n : Nat} {ps ps' : List (Piece Char)}
    {trailing : List Char} (harmed : armed = true ↔ n % 2 = 1)
    (hgaps : List.Forall₂ (fun p p' => p.gap = p'.gap) ps ps')
    (hps : Proper isSpace ps trailing) (hps' : Proper isSpace ps' trailing) :
    redactPieces armed ps trailing = redactPieces armed ps' trailing ↔
      CoveredFrom n (ps.map (·.word)) (ps'.map (·.word)) := by
  induction hgaps generalizing armed n with
  | nil =>
    constructor
    · intro _ i hi
      exact absurd rfl hi
    · intro _
      rfl
  | @cons p p' ps ps' hgap hgaps ih =>
    cases hps with
    | cons _ _ hword hnext hrest =>
    cases hps' with
    | cons _ _ hword' hnext' hrest' =>
    rw [List.map_cons, List.map_cons, coveredFrom_cons]
    cases armed with
    | true =>
      have hodd : n % 2 = 1 := harmed.1 rfl
      have heven : false = true ↔ countKeyword n p.word % 2 = 1 :=
        iff_of_false Bool.false_ne_true (countKeyword_even hodd p.word)
      rw [redactPieces, redactPieces, List.append_cancel_left_eq, ih heven hrest hrest']
      constructor
      · intro h
        exact ⟨fun _ => hodd, h⟩
      · intro h
        exact h.2
    | false =>
      have heven : n % 2 = 0 := by
        have hno : ¬ n % 2 = 1 := fun h => Bool.false_ne_true (harmed.2 h)
        omega
      have hnextArmed := (countKeyword_odd_iff heven p.word).symm
      rw [redactPieces, redactPieces, hgap, List.append_cancel_left_eq,
        word_append_inj hword hword' (head_redactPieces hrest hnext)
          (head_redactPieces hrest' hnext')]
      constructor
      · rintro ⟨heq, h⟩
        rw [← heq] at h
        exact ⟨fun hne => absurd heq hne, (ih hnextArmed hrest hrest').1 h⟩
      · rintro ⟨hfirst, h⟩
        have heq : p.word = p'.word := by
          by_contra hne
          have := hfirst hne
          omega
        refine ⟨heq, ?_⟩
        rw [← heq]
        exact (ih hnextArmed hrest hrest').2 h

theorem redact_eq (text : String) :
    redact text = String.ofList (redactPieces false (pieces text) (trailing text)) := by
  have hproper : Proper isSpace (pieces text) (trailing text) := proper_split text.toList
  have hrender : render (pieces text) (trailing text) = text.toList := render_split text.toList
  unfold redact
  rw [← (sub_render hproper).1, hrender]

theorem redact_eq_iff {text text' : String} (h : SecretsDiffer text text') :
    redact text = redact text' ↔ Covered text text' := by
  have hproper : Proper isSpace (pieces text) (trailing text) := proper_split text.toList
  have hproper' : Proper isSpace (pieces text') (trailing text) := by
    rw [h.trailing]
    exact proper_split text'.toList
  have hpieces : redactPieces false (pieces text) (trailing text) =
        redactPieces false (pieces text') (trailing text) ↔
      CoveredFrom 0 (words text) (words text') :=
    redactPieces_eq_iff (by decide) h.gaps hproper hproper'
  rw [redact_eq, redact_eq, String.ofList_inj, ← h.trailing, hpieces]
  rfl

/-! ## Payloads that differ in secrets -/

section Payloads

variable {O : Type} {T C : String → String → Prop}

mutual

theorem sanitizePayload_eq_iff
    (h : ∀ {text text' : String}, T text text' → (redact text = redact text' ↔ C text text')) :
    ∀ {payload payload' : Payload O}, Alike T payload payload' →
      (sanitizePayload payload = sanitizePayload payload' ↔ Alike C payload payload')
  | .dict entries, .dict entries', halike => by
    rw [Alike] at halike ⊢
    rw [sanitizePayload, sanitizePayload, Payload.dict.injEq]
    exact sanitizeEntries_eq_iff h halike
  | .list items, .list items', halike => by
    rw [Alike] at halike ⊢
    rw [sanitizePayload, sanitizePayload, Payload.list.injEq]
    exact sanitizeItems_eq_iff h halike
  | .tuple items, .tuple items', halike => by
    rw [Alike] at halike ⊢
    rw [sanitizePayload, sanitizePayload, Payload.tuple.injEq]
    exact sanitizeItems_eq_iff h halike
  | .text value, .text value', halike => by
    rw [Alike] at halike ⊢
    rw [sanitizePayload, sanitizePayload, Payload.text.injEq]
    exact h halike
  | .other value, .other value', halike => by
    rw [Alike] at halike ⊢
    rw [sanitizePayload, sanitizePayload, Payload.other.injEq]

theorem sanitizeEntries_eq_iff
    (h : ∀ {text text' : String}, T text text' → (redact text = redact text' ↔ C text text')) :
    ∀ {entries entries' : List (Key O × Payload O)}, AlikeEntries T entries entries' →
      (sanitizeEntries entries = sanitizeEntries entries' ↔ AlikeEntries C entries entries')
  | [], [], _ => by
    rw [AlikeEntries]
    exact ⟨fun _ => trivial, fun _ => rfl⟩
  | (key, value) :: entries, (key', value') :: entries', halike => by
    rw [AlikeEntries] at halike ⊢
    obtain ⟨hkey, hvalue, hentries⟩ := halike
    subst hkey
    rw [sanitizeEntries, sanitizeEntries, List.cons.injEq, Prod.mk.injEq,
      sanitizeEntries_eq_iff h hentries]
    cases hsensitive : key.isSensitive with
    | true => simp
    | false =>
      have hone := sanitizePayload_eq_iff h (hvalue hsensitive)
      simp [hone]

theorem sanitizeItems_eq_iff
    (h : ∀ {text text' : String}, T text text' → (redact text = redact text' ↔ C text text')) :
    ∀ {items items' : List (Payload O)}, AlikeItems T items items' →
      (sanitizeItems items = sanitizeItems items' ↔ AlikeItems C items items')
  | [], [], _ => by
    rw [AlikeItems]
    exact ⟨fun _ => trivial, fun _ => rfl⟩
  | item :: items, item' :: items', halike => by
    rw [AlikeItems] at halike ⊢
    rw [sanitizeItems, sanitizeItems, List.cons.injEq, sanitizeItems_eq_iff h halike.2,
      sanitizePayload_eq_iff h halike.1]

end

/-- The payload of the evidence tells as much as the sanitized one. -/
theorem evidencePayload_eq_iff {payload payload' : Payload O} (h : Alike T payload payload') :
    evidencePayload payload = evidencePayload payload' ↔
      sanitizePayload payload = sanitizePayload payload' := by
  cases payload <;> cases payload' <;>
    simp_all [Alike, evidencePayload, sanitizePayload]

end Payloads

/-- Two payloads that differ in secrets leave the same evidence if and only if the words they differ
in outside of sensitive keys directly follow an odd number of words that end in a keyword. -/
theorem evidence_eq_iff {O : Type} {payload payload' : Payload O}
    (h : Alike SecretsDiffer payload payload') :
    evidencePayload payload = evidencePayload payload' ↔ Alike Covered payload payload' := by
  rw [evidencePayload_eq_iff h]
  exact sanitizePayload_eq_iff redact_eq_iff h

/-- A payload with one text. -/
def ofText (text : String) : Payload Unit := .dict [(.text "running_config", .text text)]

theorem alike_ofText {T : String → String → Prop} {text text' : String} (h : T text text') :
    Alike T (ofText text) (ofText text') := by
  unfold ofText
  rw [Alike, AlikeEntries, AlikeEntries, Alike]
  exact ⟨rfl, fun _ => h, trivial⟩

/-- Lists of words that differ in the last word only. -/
theorem eq_length_of_ne {ws : List (List Char)} {w w' : List Char} {i : Nat}
    (h : (ws ++ [w])[i]? ≠ (ws ++ [w'])[i]?) : i = ws.length := by
  by_contra hne
  rcases Nat.lt_or_gt_of_ne hne with hlt | hgt
  · rw [List.getElem?_append_left hlt, List.getElem?_append_left hlt] at h
    exact h rfl
  · rw [List.getElem?_eq_none (by simp; omega), List.getElem?_eq_none (by simp; omega)] at h
    exact h rfl

theorem evidence_eq_password : evidencePayload (ofText "username noc password AAA") =
    evidencePayload (ofText "username noc password BBB") := by
  have hwords : words "username noc password AAA" =
      ["username".toList, "noc".toList, "password".toList] ++ ["AAA".toList] := by decide
  have hwords' : words "username noc password BBB" =
      ["username".toList, "noc".toList, "password".toList] ++ ["BBB".toList] := by decide
  have hsecrets : SecretsDiffer "username noc password AAA" "username noc password BBB" := by
    refine ⟨by decide, by decide, ?_⟩
    rw [hwords, hwords']
    intro i hi
    rw [eq_length_of_ne hi]
    exact ⟨.inl ⟨2, rfl, by decide⟩, .inl ⟨2, rfl, by decide⟩⟩
  have hcovered : Covered "username noc password AAA" "username noc password BBB" := by
    unfold Covered
    rw [hwords, hwords']
    intro i hi
    rw [eq_length_of_ne hi]
    decide
  exact (evidence_eq_iff (alike_ofText hsecrets)).2 (alike_ofText hcovered)

/-- The secret after a type digit stays. -/
theorem typed_secret_is_kept :
    Alike SecretsDiffer (ofText "enable secret 5 AAA") (ofText "enable secret 5 BBB") ∧
      evidencePayload (ofText "enable secret 5 AAA") ≠
        evidencePayload (ofText "enable secret 5 BBB") := by
  have hwords : words "enable secret 5 AAA" =
      ["enable".toList, "secret".toList, "5".toList] ++ ["AAA".toList] := by decide
  have hwords' : words "enable secret 5 BBB" =
      ["enable".toList, "secret".toList, "5".toList] ++ ["BBB".toList] := by decide
  constructor
  · refine alike_ofText ⟨by decide, by decide, ?_⟩
    rw [hwords, hwords']
    intro i hi
    rw [eq_length_of_ne hi]
    exact ⟨.inr ⟨1, rfl, by decide, by decide⟩, .inr ⟨1, rfl, by decide, by decide⟩⟩
  · intro h
    have hkey : isSensitive "running_config" = false := by decide
    have hredact : redact "enable secret 5 AAA" = redact "enable secret 5 BBB" := by
      simpa [evidencePayload, sanitizePayload, sanitizeEntries, ofText, Key.isSensitive, hkey]
        using h
    exact absurd hredact (by decide)

end Discovery
end NetOps
