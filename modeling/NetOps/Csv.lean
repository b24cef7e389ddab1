import Mathlib.Data.List.Basic

/-!
# Csv

Rows of texts as comma separated values, the way Python's `csv` module writes and reads them in its
default dialect.

* `writeRow`: `csv.writer(...).writerow(fields)`; only a field with a special character is quoted.
* `Reader`: the state machine of `csv.reader`, one character at a time; a line ends after `\n`.
* `read_write`: what was written is read back, whatever the texts hold.
-/

namespace Csv

def quote : Char := '\x22'

def newline (c : Char) : Bool := c == '\n' || c == '\r'

/-- A character for which `csv.writer` quotes a field. -/
def special (c : Char) : Bool := c == ',' || c == quote || newline c

/-! ## Writing -/

/-- A quote in a quoted field is written twice. -/
def double (c : Char) : List Char := if c = quote then [quote, quote] else [c]

def writeField (field : List Char) : List Char :=
  if field.any special then quote :: (field.flatMap double ++ [quote]) else field

def writeFields : List (List Char) → List Char
  | [] => []
  | [field] => writeField field
  | field :: fields => writeField field ++ ',' :: writeFields fields

/-- A record of one empty field is quoted, to be told from an empty record. -/
def writeRow (fields : List String) : List Char :=
  (if fields = [""] then [quote, quote] else writeFields (fields.map String.toList)) ++
    ['\r', '\n']

def write (rows : List (List String)) : List Char := rows.flatMap writeRow

/-! ## Reading -/

inductive Place where
  | startRecord
  | startField
  | inField
  | inQuotedField
  | quoteInQuotedField
  | eatCrnl
  deriving DecidableEq

structure Reader where
  place : Place := .startRecord
  field : List Char := []
  fields : List String := []
  rows : List (List String) := []

namespace Reader

def add (r : Reader) (place : Place) (c : Char) : Reader :=
  { r with
    place := place
    field := r.field ++ [c] }

def save (r : Reader) (place : Place) : Reader :=
  { r with
    place := place
    field := []
    fields := r.fields ++ [String.ofList r.field] }

/-- The record is complete. -/
def emit (r : Reader) : Reader := { rows := r.rows ++ [r.fields] }

/-- What ends a field outside quotes. -/
def ends (r : Reader) (c : Char) : Option Reader :=
  if newline c then some (r.save .eatCrnl)
  else if c = ',' then some (r.save .startField)
  else none

def fieldStart (r : Reader) (c : Char) : Reader :=
  match r.ends c with
  | some r' => r'
  | none => if c = quote then { r with place := .inQuotedField } else r.add .inField c

/-- One character; `none` is `csv.Error`. -/
def char (r : Reader) (c : Char) : Option Reader :=
  match r.place with
  | .startRecord =>
    if newline c then some { r with place := .eatCrnl } else some (r.fieldStart c)
  | .startField => some (r.fieldStart c)
  | .inField => some ((r.ends c).getD (r.add .inField c))
  | .inQuotedField =>
    if c = quote then some { r with place := .quoteInQuotedField }
    else some (r.add .inQuotedField c)
  | .quoteInQuotedField =>
    if c = quote then some (r.add .inQuotedField c)
    else some ((r.ends c).getD (r.add .inField c))
  | .eatCrnl => if newline c then some r else none

/-- The end of a line. -/
def endLine (r : Reader) : Reader :=
  match r.place with
  | .startRecord | .eatCrnl => r.emit
  | .startField | .inField | .quoteInQuotedField => (r.save .startRecord).emit
  | .inQuotedField => r

def run : Reader → List Char → Option Reader
  | r, [] => some r
  | r, c :: cs =>
    match r.char c with
    | none => none
    | some r => run (if c = '\n' then r.endLine else r) cs

/-- The end of the input; an open field is a field. -/
def finish (r : Reader) : List (List String) :=
  if r.place = .inQuotedField then (r.save .startRecord).emit.rows else r.rows

end Reader

/-- `list(csv.reader(io.StringIO(text)))`, with no limit on the length of a field
(`csv.field_size_limit` is 131072 unless it is raised). -/
def read (text : List Char) : Option (List (List String)) :=
  (Reader.run {} text).map fun r =>
    (if text = [] ∨ text.getLast? = some '\n' then r else r.endLine).finish

/-! ## Round trip -/

theorem special_cases {c : Char} (h : special c = false) :
    c ≠ ',' ∧ c ≠ quote ∧ newline c = false := by
  simp only [special, Bool.or_eq_false_iff, beq_eq_false_iff_ne] at h
  exact ⟨h.1.1, h.1.2, h.2⟩

theorem ne_lineFeed {c : Char} (h : newline c = false) : c ≠ '\n' := by
  rintro rfl
  cases h

namespace Reader

theorem ends_none {c : Char} (h : newline c = false) (hc : c ≠ ',') (r : Reader) :
    r.ends c = none := by
  rw [ends, h, if_neg Bool.false_ne_true, if_neg hc]

theorem run_cons {r q : Reader} {c : Char} (h : r.char c = some q) (hc : c ≠ '\n')
    (cs : List Char) : r.run (c :: cs) = q.run cs := by
  rw [run, h]
  dsimp only
  rw [if_neg hc]

/-- Inside quotes every character is kept, line ends too. -/
theorem run_quoted (text rest : List Char) :
    ∀ r : Reader, r.place = .inQuotedField →
      r.run (text.flatMap double ++ rest) = { r with field := r.field ++ text }.run rest := by
  induction text with
  | nil =>
    intro r _
    rw [List.flatMap_nil, List.nil_append, List.append_nil]
  | cons c text ih =>
    intro r hr
    have hadd : (r.add .inQuotedField c).run (text.flatMap double ++ rest) =
        { r with field := r.field ++ c :: text }.run rest := by
      rw [ih (r.add .inQuotedField c) rfl]
      simp [add, hr]
    rw [List.flatMap_cons, List.append_assoc]
    by_cases hc : c = quote
    · subst hc
      rw [double, if_pos rfl, List.cons_append, List.singleton_append]
      rw [run_cons (q := { r with place := .quoteInQuotedField }) (by simp [char, hr])
        (by decide)]
      rw [run_cons (q := r.add .inQuotedField quote) (by simp [char, add]) (by decide)]
      exact hadd
    · rw [double, if_neg hc, List.singleton_append]
      have hchar : r.char c = some (r.add .inQuotedField c) := by simp [char, hr, hc]
      rw [run, hchar]
      have hline : (r.add .inQuotedField c).endLine = r.add .inQuotedField c := rfl
      dsimp only
      rw [hline, ite_self]
      exact hadd

/-- Outside quotes the characters that are not special are kept. -/
theorem run_plain (text rest : List Char) (h : ∀ c ∈ text, special c = false) :
    ∀ r : Reader, r.place = .inField →
      r.run (text ++ rest) = { r with field := r.field ++ text }.run rest := by
  induction text with
  | nil =>
    intro r _
    rw [List.nil_append, List.append_nil]
  | cons c text ih =>
    intro r hr
    obtain ⟨hcomma, _, hnew⟩ := special_cases (h c List.mem_cons_self)
    have hchar : r.char c = some (r.add .inField c) := by
      simp only [char, hr, ends_none hnew hcomma, Option.getD_none]
    rw [List.cons_append, run_cons hchar (ne_lineFeed hnew),
      ih (fun d hd => h d (List.mem_cons_of_mem _ hd)) (r.add .inField c) rfl]
    simp [add, hr]

/-- A comma or a carriage return ends a field at every place outside open quotes. -/
theorem char_ends {r r' : Reader} {c : Char} (h : r.ends c = some r')
    (hplace : r.place = .startField ∨ r.place = .inField ∨ r.place = .quoteInQuotedField) :
    r.char c = some r' := by
  have hc : c ≠ quote := by
    rintro rfl
    simp [ends, newline, quote] at h
  obtain hp | hp | hp := hplace <;> simp [char, hp, fieldStart, h, hc]

/-- A written field is read back, up to what ends it. -/
theorem run_field {r r' : Reader} (hplace : r.place = .startField) (hempty : r.field = [])
    (text : List Char) {c : Char} (hc : c ≠ '\n')
    (h : { r with field := text }.ends c = some r') (rest : List Char) :
    r.run (writeField text ++ c :: rest) = r'.run rest := by
  have hends : ∀ place, { r with place := place, field := text }.ends c = some r' := fun _ => h
  unfold writeField
  split
  · have hopen : r.char quote = some { r with place := .inQuotedField } := by
      simp [char, hplace, fieldStart, ends, newline, quote]
    rw [List.cons_append, run_cons hopen (by decide), List.append_assoc,
      run_quoted _ _ _ rfl, List.singleton_append]
    simp only [hempty, List.nil_append]
    rw [run_cons (q := { r with place := .quoteInQuotedField, field := text })
      (by simp [char]) (by decide)]
    exact run_cons (char_ends (hends _) (.inr (.inr rfl))) hc _
  · rename_i hplain
    have hall : ∀ d ∈ text, special d = false := by simpa using hplain
    cases text with
    | nil =>
      have hr : { r with field := [] } = r := by rw [← hempty]
      rw [hr] at h
      exact run_cons (char_ends h (.inl hplace)) hc _
    | cons d text =>
      obtain ⟨hcomma, hquote, hnew⟩ := special_cases (hall d List.mem_cons_self)
      have hstart : r.char d = some (r.add .inField d) := by
        simp only [char, hplace, fieldStart, ends_none hnew hcomma, if_neg hquote]
      rw [List.cons_append, run_cons hstart (ne_lineFeed hnew),
        run_plain _ _ (fun d hd => hall d (List.mem_cons_of_mem _ hd)) _ rfl]
      refine run_cons (char_ends ?_ (.inr (.inl rfl))) hc _
      simpa [add, hempty] using hends .inField

/-- The fields of a record, up to its line end. -/
theorem run_fields (rest : List Char) :
    ∀ (texts : List (List Char)) (r : Reader), texts ≠ [] → r.place = .startField →
      r.field = [] →
      r.run (writeFields texts ++ '\r' :: rest) =
        { r with
          place := .eatCrnl
          fields := r.fields ++ texts.map String.ofList }.run rest
  | [], _, h, _, _ => absurd rfl h
  | [text], r, _, hplace, hempty => by
    rw [writeFields, run_field hplace hempty text (c := '\r') (by decide) rfl]
    simp [save, hempty]
  | text :: text' :: texts, r, _, hplace, hempty => by
    rw [writeFields, List.append_assoc, List.cons_append,
      run_field hplace hempty text (c := ',') (by decide) rfl,
      run_fields rest (text' :: texts) _ (List.cons_ne_nil _ _) rfl rfl]
    · simp [save, hempty]
    · exact List.cons_ne_nil _ _

end Reader

/-- A written record does not begin with a line end, unless it has no fields. -/
theorem head_writeField {text : List Char} (h : writeField text ≠ []) :
    ∃ c cs, writeField text = c :: cs ∧ newline c = false := by
  unfold writeField at h ⊢
  split
  · exact ⟨quote, _, rfl, rfl⟩
  · rename_i hplain
    rw [if_neg hplain] at h
    obtain ⟨c, cs, rfl⟩ := List.exists_cons_of_ne_nil h
    have hall : ∀ d ∈ c :: cs, special d = false := by simpa using hplain
    exact ⟨c, cs, rfl, (special_cases (hall c List.mem_cons_self)).2.2⟩

theorem head_writeFields {texts : List (List Char)} (h : texts ≠ []) (h₁ : texts ≠ [[]]) :
    ∃ c cs, writeFields texts = c :: cs ∧ newline c = false := by
  match texts, h, h₁ with
  | [text], _, h₁ =>
    refine head_writeField fun hnil => h₁ ?_
    unfold writeField at hnil
    split at hnil
    · cases hnil
    · rw [hnil]
  | text :: text' :: texts, _, _ =>
    rw [writeFields]
    · by_cases hnil : writeField text = []
      · exact ⟨',', _, by rw [hnil, List.nil_append], rfl⟩
      · obtain ⟨c, cs, heq, hc⟩ := head_writeField hnil
        exact ⟨c, _, by rw [heq, List.cons_append], hc⟩
    · exact List.cons_ne_nil _ _

namespace Reader

theorem fieldStart_place {c : Char} (hc : newline c = false) (r : Reader) (place : Place) :
    { r with place := place }.fieldStart c = r.fieldStart c := by
  unfold fieldStart ends
  rw [hc, if_neg Bool.false_ne_true, if_neg Bool.false_ne_true]
  by_cases hcomma : c = ','
  · rw [if_pos hcomma, if_pos hcomma]
    rfl
  · rw [if_neg hcomma, if_neg hcomma]
    dsimp only
    split <;> rfl

/-- From the start of a record, a record's first character starts a field. -/
theorem run_startRecord {r : Reader} (hplace : r.place = .startRecord) {c : Char}
    (hc : newline c = false) (cs : List Char) :
    r.run (c :: cs) = { r with place := .startField }.run (c :: cs) := by
  have hsame : r.char c = { r with place := .startField }.char c := by
    simp only [char, hplace, hc, if_neg Bool.false_ne_true, fieldStart_place hc]
  rw [run, run, hsame]

/-- One written record is read back as one row. -/
theorem run_row (fields : List String) (rest : List Char) (rows : List (List String)) :
    Reader.run { rows := rows } (writeRow fields ++ rest) =
      Reader.run { rows := rows ++ [fields] } rest := by
  have hline : ∀ fields, Reader.run
      { place := .eatCrnl, fields := fields, rows := rows } ('\n' :: rest) =
        Reader.run { rows := rows ++ [fields] } rest := fun _ => rfl
  by_cases hnil : fields = []
  · subst hnil
    rfl
  by_cases hone : fields = [""]
  · subst hone
    rfl
  rw [writeRow, if_neg hone, List.append_assoc, List.cons_append, List.singleton_append]
  have htexts : fields.map String.toList ≠ [] := by simpa using hnil
  obtain ⟨c, cs, heq, hc⟩ := head_writeFields htexts (by
    intro h
    refine hone ?_
    have hback := congrArg (List.map String.ofList) h
    simpa using hback)
  rw [heq, List.cons_append, run_startRecord rfl hc, ← List.cons_append, ← heq,
    run_fields ('\n' :: rest) _ _ htexts rfl rfl]
  simpa using hline fields

theorem run_rows (rows : List (List String)) :
    ∀ before, Reader.run { rows := before } (write rows) =
      some { rows := before ++ rows } := by
  induction rows with
  | nil =>
    intro before
    rw [List.append_nil]
    rfl
  | cons fields rows ih =>
    intro before
    rw [write, List.flatMap_cons, run_row]
    rw [write] at ih
    rw [ih, List.append_assoc, List.singleton_append]

end Reader

theorem write_ends (rows : List (List String)) :
    write rows = [] ∨ (write rows).getLast? = some '\n' := by
  induction rows with
  | nil => exact .inl rfl
  | cons fields rows ih =>
    right
    rw [write, List.flatMap_cons]
    rw [write] at ih
    obtain hnil | hlast := ih
    · rw [hnil, List.append_nil, writeRow, List.getLast?_append]
      rfl
    · rw [List.getLast?_append, hlast]
      rfl

/-- The rows that were written are read back. -/
theorem read_write (rows : List (List String)) : read (write rows) = some rows := by
  rw [read, Reader.run_rows, Option.map_some, if_pos (write_ends rows)]
  rfl

end Csv
