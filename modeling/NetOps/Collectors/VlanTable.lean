import NetOps.Collectors.InterfaceTable
import NetOps.Outcomes

/-!
# Collectors.VlanTable

What `_vlan_records` makes of its tables. The rows of an SNMP table are numbered by their positions;
the lines of the output of `show vlan brief` are read with `int` where their first word is one of
digits, which `int` need not read.

* `vlan_iff`: exactly when the records of a table do not depend on its other rows, and every line
  that begins with a number has its record.
-/

namespace NetOps
namespace Collectors
namespace Cisco
namespace CiscoInventoryParser

open Discovery (PyVal)

/-! ## Rows and lines -/

/-- The record of the row at a position. -/
def recordAt (deviceId : String) (rows : List (String × String)) (i : Nat) :
    Option ParsedRecord := (rows[i]?).bind (snmpVlan deviceId i)

/-- A row with the same identifier and name has the same record, in the one table or the other. -/
def SameRecords (deviceId : String) (rows rows' : List (String × String)) : Prop :=
  ∀ i j : Nat, rows[i]? = rows'[j]? → recordAt deviceId rows i = recordAt deviceId rows' j

/-- A row with a name that is in both tables stands at one position. -/
def SamePlaces (rows rows' : List (String × String)) : Prop :=
  ∀ (i j : Nat) (row : String × String), rows[i]? = some row → rows'[j]? = some row →
    Text.strip row.2 ≠ "" → i = j

/-- Nothing is raised, and each line that begins with a decimal number has the record of it. -/
def Reads (deviceId output : String) : Prop :=
  ∃ records, readVlans deviceId output = .ok records ∧
    ∀ line ∈ Text.splitLines output, ∀ word, (Text.words line).head? = some word →
      Digits.isDecimal word = true → ∃ record ∈ records,
        readVlanLine deviceId line = .ok (some record) ∧
          record.payload.getD "vlan_id" = .int (Digits.value word)

/-- Of the lines that begin with a word of digits, those with three words or more begin with one
that `int` reads, and those that begin with a decimal number have three words or more. -/
def Legible (output : String) : Prop :=
  ∀ line ∈ Text.splitLines output, ∀ word, (Text.words line).head? = some word →
    Digits.isDigit word = true →
      (3 ≤ (Text.words line).length → Digits.Readable word) ∧
        (Digits.isDecimal word = true → 3 ≤ (Text.words line).length)

theorem snmpVlans_eq_records (deviceId : String) (rows : List (String × String)) :
    snmpVlans deviceId rows = (List.range rows.length).filterMap (recordAt deviceId rows) := by
  induction rows using List.reverseRecOn with
  | nil => rfl
  | append_singleton rows row ih =>
    have hbefore : (List.range rows.length).filterMap (recordAt deviceId (rows ++ [row])) =
        (List.range rows.length).filterMap (recordAt deviceId rows) := by
      refine List.filterMap_congr fun i hi => ?_
      rw [recordAt, recordAt, List.getElem?_append_left (List.mem_range.1 hi)]
    have hlast : recordAt deviceId (rows ++ [row]) rows.length =
        snmpVlan deviceId rows.length row := by
      simp [recordAt]
    rw [List.length_append, List.length_singleton, List.range_succ, List.filterMap_append, hbefore,
      ← ih]
    simp [snmpVlans, List.zipIdx_append, hlast, List.filterMap_cons]

theorem sameRecords_iff (deviceId : String) (rows rows' : List (String × String)) :
    SameRecords deviceId rows rows' ↔ SamePlaces rows rows' := by
  constructor
  · intro h i j row hi hj hname
    have hsame := h i j (hi.trans hj.symm)
    simp only [recordAt, hi, hj, Option.bind_some, snmpVlan, if_neg hname, Option.some.injEq,
      ParsedRecord.mk.injEq, List.cons.injEq, Prod.mk.injEq, PyVal.int.injEq] at hsame
    omega
  · intro h i j hij
    unfold recordAt
    cases hi : rows[i]? with
    | none =>
      rw [← hij, hi]
      rfl
    | some row =>
      rw [← hij, hi, Option.bind_some, Option.bind_some]
      by_cases hname : Text.strip row.2 = ""
      · simp [snmpVlan, hname]
      · rw [h i j row hi (hij ▸ hi) hname]

theorem readVlanLine_cases (deviceId line : String) :
    (∃ word others, Text.words line = word :: others ∧ 2 ≤ others.length ∧
      Digits.isDigit word = true ∧
        ((¬Digits.Readable word ∧ readVlanLine deviceId line = .error .valueError) ∨
          (Digits.Readable word ∧ ∃ record, readVlanLine deviceId line = .ok (some record) ∧
            record.payload.getD "vlan_id" = .int (Digits.value word)))) ∨
    (readVlanLine deviceId line = .ok none ∧ ∀ word, (Text.words line).head? = some word →
      Digits.isDigit word = true → (Text.words line).length < 3) := by
  rcases hwords : Text.words line with _ | ⟨vlanId, _ | ⟨name, _ | ⟨status, others⟩⟩⟩
  · exact .inr ⟨by simp [readVlanLine, hwords], by simp⟩
  · exact .inr ⟨by simp [readVlanLine, hwords], by simp⟩
  · exact .inr ⟨by simp [readVlanLine, hwords], by simp⟩
  · by_cases hdigits : Digits.isDigit vlanId = true
    · refine .inl ⟨vlanId, name :: status :: others, rfl, by simp, hdigits, ?_⟩
      by_cases hreadable : Digits.Readable vlanId
      · refine .inr ⟨hreadable, vlanRecord deviceId (Digits.value vlanId) name status, ?_, ?_⟩
        · simp only [readVlanLine, hwords, if_pos hdigits, Digits.readInt_of_readable hreadable]
          rfl
        · simp [vlanRecord, Discovery.PyDict.getD, Discovery.PyDict.get?]
      · refine .inl ⟨hreadable, ?_⟩
        simp only [readVlanLine, hwords, if_pos hdigits,
          Digits.readInt_of_not_readable hreadable]
        rfl
    · refine .inr ⟨by simp [readVlanLine, hwords, hdigits], ?_⟩
      intro word hword hdigit
      rw [List.head?_cons, Option.some.injEq] at hword
      rw [hword] at hdigits
      exact absurd hdigit hdigits

theorem readVlans_succeeds_iff (deviceId output : String) :
    (∃ records, readVlans deviceId output = .ok records) ↔
      ∀ line ∈ Text.splitLines output, ∃ record, readVlanLine deviceId line = .ok record := by
  rw [← Outcomes.mapM_succeeds_iff]
  unfold readVlans
  cases (Text.splitLines output).mapM (readVlanLine deviceId) with
  | error e => simp [Except.map]
  | ok found => simp [Except.map]

theorem mem_readVlans {deviceId output line : String} {records : List ParsedRecord}
    {record : ParsedRecord} (hrecords : readVlans deviceId output = .ok records)
    (hline : line ∈ Text.splitLines output)
    (hrecord : readVlanLine deviceId line = .ok (some record)) : record ∈ records := by
  unfold readVlans at hrecords
  cases hmap : (Text.splitLines output).mapM (readVlanLine deviceId) with
  | error e =>
    rw [hmap] at hrecords
    cases hrecords
  | ok found =>
    rw [hmap] at hrecords
    cases hrecords
    have hall := Outcomes.mapM_ok_iff.1 hmap
    obtain ⟨i, hi, hget⟩ := List.mem_iff_getElem.1 hline
    have hlength := hall.length_eq
    have hread := List.forall₂_iff_get.1 hall |>.2 i hi (hlength ▸ hi)
    simp only [List.get_eq_getElem, hget, hrecord, Except.ok.injEq] at hread
    rw [List.mem_filterMap]
    exact ⟨some record, hread ▸ List.getElem_mem _, rfl⟩

theorem reads_iff (deviceId output : String) : Reads deviceId output ↔ Legible output := by
  constructor
  · rintro ⟨records, hrecords, hnumbers⟩ line hline word hword hdigit
    obtain ⟨found, hfound⟩ :=
      (readVlans_succeeds_iff deviceId output).1 ⟨records, hrecords⟩ line hline
    rcases readVlanLine_cases deviceId line with
      ⟨first, others, hwords, hothers, -, h⟩ | ⟨h, hshort⟩
    · rw [hwords, List.head?_cons, Option.some.injEq] at hword
      subst hword
      rw [hwords, List.length_cons]
      rcases h with ⟨-, hraise⟩ | ⟨hreadable, -⟩
      · rw [hfound] at hraise
        cases hraise
      · exact ⟨fun _ => hreadable, fun _ => by omega⟩
    · have hlt := hshort word hword hdigit
      refine ⟨fun hlong => absurd hlt (by omega), fun hdecimal => ?_⟩
      obtain ⟨record, -, hrecord, -⟩ := hnumbers line hline word hword hdecimal
      rw [h] at hrecord
      cases hrecord
  · intro hlegible
    have hall : ∀ line ∈ Text.splitLines output, ∃ record,
        readVlanLine deviceId line = .ok record := by
      intro line hline
      rcases readVlanLine_cases deviceId line with
        ⟨first, others, hwords, hothers, hdigit, h⟩ | ⟨h, -⟩
      · have hlines := hlegible line hline first (by rw [hwords]; rfl) hdigit
        rcases h with ⟨hunreadable, -⟩ | ⟨-, record, hrecord, -⟩
        · refine absurd (hlines.1 ?_) hunreadable
          rw [hwords, List.length_cons]
          omega
        · exact ⟨_, hrecord⟩
      · exact ⟨none, h⟩
    obtain ⟨records, hrecords⟩ := (readVlans_succeeds_iff deviceId output).2 hall
    refine ⟨records, hrecords, ?_⟩
    intro line hline word hword hdecimal
    have hdigit := Digits.isDigit_of_isDecimal hdecimal
    have hlong := (hlegible line hline word hword hdigit).2 hdecimal
    rcases readVlanLine_cases deviceId line with
      ⟨first, others, hwords, -, -, h⟩ | ⟨-, hshort⟩
    · rw [hwords, List.head?_cons, Option.some.injEq] at hword
      subst hword
      rcases h with ⟨hunreadable, hraise⟩ | ⟨-, record, hrecord, hid⟩
      · obtain ⟨record, hrecord⟩ := hall line hline
        rw [hraise] at hrecord
        cases hrecord
      · exact ⟨record, mem_readVlans hrecords hline hrecord, hrecord, hid⟩
    · have hlt := hshort word hword hdigit
      omega

/-- Exactly when the records of two tables depend on the rows alone, and the lines that begin with
a number have their records. -/
theorem vlan_iff (deviceId : String) (rows rows' : List (String × String)) (output : String) :
    SameRecords deviceId rows rows' ∧ Reads deviceId output ↔
      SamePlaces rows rows' ∧ Legible output := by
  rw [sameRecords_iff, reads_iff]

/-- The names of two VLANs, of which the second is in a table of its own; and a line that begins
with a superscript. -/
theorem vlan_fails :
    ¬SameRecords "sw1" [("1.3.6.1.4.1.9.9.46.1.3.1.1.4.1.10", "users"),
        ("1.3.6.1.4.1.9.9.46.1.3.1.1.4.1.20", "voice")]
      [("1.3.6.1.4.1.9.9.46.1.3.1.1.4.1.20", "voice")] ∧
      readVlans "sw1" "² users active" = .error .valueError := by
  constructor
  · rw [sameRecords_iff]
    intro hplaces
    have hname : Text.strip "voice" ≠ "" := by decide
    exact absurd (hplaces 1 0 _ rfl rfl hname) (by decide)
  · rfl

end CiscoInventoryParser
end Cisco
end Collectors
end NetOps
