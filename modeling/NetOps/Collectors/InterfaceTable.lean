import NetOps.Collectors.CiscoInventory
import NetOps.Columns

/-!
# Collectors.InterfaceTable

What `_parse_interface_status` makes of a row in the column order of IOS. The state of the port is
the first word of the row that is a state, wherever it stands.

* `readInterfaceLine_row`: the record of a row, by the first state among its words.
* `interface_iff`: exactly when the description does not matter and `admin_status` is right.
-/

namespace NetOps
namespace Collectors
namespace Cisco
namespace CiscoInventoryParser

open Discovery (PyVal)

/-! ## Rows -/

/-- A row of the table, but for its description. -/
structure Row where
  port : String
  port_word : Text.Word port
  status : String
  vlan : String
  duplex : String
  speed : String
  type : List String

namespace Row

def columns (row : Row) : List String :=
  [row.status, row.vlan, row.duplex, row.speed] ++ row.type

/-- The line of the row; the rest holds the words of the description and the columns. -/
def line (row : Row) (rest : String) : String := row.port ++ " " ++ rest

/-- The rest of a row with a description. -/
def Rest (row : Row) (description : List String) (rest : String) : Prop :=
  Text.words rest = description ++ row.columns

/-- The last word but one. -/
def speedWord (row : Row) : String := (row.columns[row.columns.length - 2]?).getD ""

/-- The row looks like the head of the table. -/
def header (row : Row) : Bool :=
  Text.lower row.port = "port" || Text.hasPrefix "---" (Text.lower row.port)

def words (row : Row) (description : List String) : List String :=
  row.port :: (description ++ row.columns)

/-- The first state among the words of a row. -/
def firstState (row : Row) (description : List String) : Option String :=
  (row.words description).find? isState

variable {row : Row} {description : List String} {rest : String}

theorem words_line (h : row.Rest description rest) :
    Text.words (row.line rest) = row.words description := by
  rw [line, Text.words_cons row.port_word, h]
  rfl

theorem lower_line (h : row.Rest description rest) : ∃ others,
    (Text.lower (Text.rstrip (row.line rest))).toList =
      (Text.lower row.port).toList ++ ' ' :: others := by
  have hne : Text.words rest ≠ [] := by
    rw [h]
    simp [columns]
  have hspace : Text.lowerChar ' ' = ' ' := by decide
  refine ⟨(rest.toList.rdropWhile Text.isSpace).map Text.lowerChar, ?_⟩
  rw [Text.lower, String.toList_ofList, line, Text.rstrip_cons row.port hne, List.map_append,
    List.map_cons, hspace, Text.lower, String.toList_ofList]

theorem space_not_mem (row : Row) : ' ' ∉ (Text.lower row.port).toList := by
  intro hmem
  rw [Text.lower, String.toList_ofList, List.mem_map] at hmem
  obtain ⟨c, hc, hlower⟩ := hmem
  have hvisible := row.port_word.2 c hc
  unfold Text.lowerChar at hlower
  split at hlower
  · cases hlower
  split at hlower
  · cases hlower
  · rcases Text.toLower_cases c with ⟨hsame, -⟩ | ⟨hlow, hhigh, hnat⟩
    · rw [hsame] at hlower
      rw [hlower] at hvisible
      cases hvisible
    · have hspace : (' ' : Char).toNat = 32 := by decide
      rw [hlower, hspace] at hnat
      omega

theorem headerLine_row (h : row.Rest description rest) :
    headerLine (Text.rstrip (row.line rest)) = row.header := by
  obtain ⟨others, hline⟩ := lower_line h
  have hport : Text.hasPrefix "port " (Text.lower (Text.rstrip (row.line rest))) =
      decide (Text.lower row.port = "port") := by
    have hword : "port ".toList = "port".toList ++ [' '] := by decide
    rw [Text.hasPrefix, hline, hword, Bool.eq_iff_iff, List.isPrefixOf_iff_prefix,
      Text.prefix_sep (by decide) row.space_not_mem, decide_eq_true_eq, String.toList_inj, eq_comm]
  have hdashes : Text.hasPrefix "---" (Text.lower (Text.rstrip (row.line rest))) =
      Text.hasPrefix "---" (Text.lower row.port) := by
    rw [Text.hasPrefix, hline, Text.hasPrefix, Bool.eq_iff_iff, List.isPrefixOf_iff_prefix,
      List.isPrefixOf_iff_prefix, Text.prefix_append_sep (by decide)]
  rw [headerLine, hport, hdashes, header]

/-- The speed is read before the last word, which is after the description. -/
theorem speedWord_eq (row : Row) (description : List String) :
    (((row.words description)[(row.words description).length - 2]?).getD "") = row.speedWord := by
  have hcolumns : 4 ≤ row.columns.length := by simp [columns]
  have hwords : row.words description = (row.port :: description) ++ row.columns := rfl
  have hindex : (row.words description).length - 2 =
      (row.port :: description).length + (row.columns.length - 2) := by
    rw [hwords, List.length_append]
    omega
  rw [hindex, hwords, List.getElem?_append_right (Nat.le_add_right _ _), Nat.add_sub_cancel_left]
  rfl

end Row

/-- What the claims about a row are about. -/
def status (record : ParsedRecord) : List PyVal :=
  ["name", "oper_status", "admin_status", "speed_mbps"].map record.payload.getD

def statusOf (port state : String) (speed : Option Nat) : List PyVal :=
  [.str port, .str state, .str (adminStatus state), speedValue speed]

theorem status_interfaceRecord (deviceId : String) (parts : List String) (i : Nat)
    (speed : Option Nat) : status (interfaceRecord deviceId parts i speed) =
      statusOf (parts.head?.getD "") ((parts[i]?).getD "") speed := by
  simp [status, interfaceRecord, statusOf, Discovery.PyDict.getD, Discovery.PyDict.get?]

theorem find?_of_findIdx? {parts : List String} {i : Nat} (h : parts.findIdx? isState = some i) :
    parts.find? isState = some ((parts[i]?).getD "") := by
  obtain ⟨hlt, -, -⟩ := List.findIdx?_eq_some_iff_getElem.1 h
  rw [List.find?_eq_bind_findIdx?_getElem?, h, Option.bind_some, List.getElem?_eq_getElem hlt,
    Option.getD_some]

/-- The record of a row. -/
theorem readInterfaceLine_row {row : Row} {description : List String} {rest : String}
    (deviceId : String) (h : row.Rest description rest) :
    (readInterfaceLine deviceId (row.line rest)).map (Option.map status) =
      if row.header = true then .ok none
      else match row.firstState description with
        | none => .ok none
        | some state =>
          (readSpeed row.speedWord).map fun speed => some (statusOf row.port state speed) := by
  have hskip : (Text.rstrip (row.line rest) = "" || headerLine (Text.rstrip (row.line rest)) ||
      (Text.words (Text.rstrip (row.line rest))).length < 4) = row.header := by
    have hlong : ¬(Text.words (row.line rest)).length < 4 := by
      rw [Row.words_line h]
      simp [Row.words, Row.columns]
      omega
    have hnotEmpty : Text.rstrip (row.line rest) ≠ "" := by
      intro hempty
      have hnil := Text.words_rstrip (row.line rest)
      rw [hempty, Row.words_line h] at hnil
      cases hnil
    rw [Row.headerLine_row h, Text.words_rstrip]
    simp [hlong, hnotEmpty]
  unfold readInterfaceLine
  dsimp only
  rw [hskip, Text.words_rstrip, Row.words_line h, Row.speedWord_eq]
  by_cases hheader : row.header = true
  · rw [if_pos hheader, if_pos hheader]
    rfl
  · rw [if_neg hheader, if_neg hheader]
    cases hindex : (row.words description).findIdx? isState with
    | none =>
      have hnone : row.firstState description = none := by
        rw [Row.firstState, List.find?_eq_bind_findIdx?_getElem?, hindex]
        rfl
      rw [hnone]
      rfl
    | some i =>
      rw [Row.firstState, find?_of_findIdx? hindex]
      cases readSpeed row.speedWord with
      | error e => rfl
      | ok speed =>
        simp only [Except.map, Option.map_some, status_interfaceRecord]
        rfl

/-! ## Descriptions -/

/-- Two lines have records of the same port, states and speed, or neither has one. -/
def Unchanged (deviceId line line' : String) : Prop :=
  (readInterfaceLine deviceId line).map (Option.map status) =
    (readInterfaceLine deviceId line').map (Option.map status)

/-- The port is down for its administrator exactly if the status column says so. -/
def AdminRight (deviceId : String) (row : Row) (line : String) : Prop :=
  ∀ record, readInterfaceLine deviceId line = .ok (some record) →
    (record.payload.getD "admin_status" = .str "down" ↔ Text.lower row.status = "disabled")

/-- The row begins like the head of the table, and is skipped; or the first state among its words
is the same; or both rows have one and the speed cannot be read. -/
def SameState (row : Row) (description description' : List String) : Prop :=
  row.header = true ∨ row.firstState description = row.firstState description' ∨
    (readSpeed row.speedWord = .error .valueError ∧
      (row.firstState description).isSome = (row.firstState description').isSome)

/-- The first state among the words is `connected` exactly if the status column does not say
`disabled`; or the row is skipped, or its speed cannot be read. -/
def StateRight (row : Row) (description : List String) : Prop :=
  row.header = true ∨ readSpeed row.speedWord = .error .valueError ∨
    ∀ state, row.firstState description = some state →
      (state = "connected" ↔ Text.lower row.status ≠ "disabled")

theorem readSpeed_cases (value : String) :
    readSpeed value = .error .valueError ∨ ∃ speed, readSpeed value = .ok speed := by
  cases readSpeed value with
  | error e => exact .inl rfl
  | ok speed => exact .inr ⟨speed, rfl⟩

theorem statusOf_state {port state state' : String} {speed speed' : Option Nat}
    (h : statusOf port state speed = statusOf port state' speed') : state = state' := by
  unfold statusOf at h
  injection h with _ h
  injection h with h _
  injection h

section Row

variable {row : Row} {description description' : List String} {rest rest' : String}

theorem unchanged_iff (deviceId : String) (h : row.Rest description rest)
    (h' : row.Rest description' rest') :
    Unchanged deviceId (row.line rest) (row.line rest') ↔
      SameState row description description' := by
  unfold Unchanged SameState
  rw [readInterfaceLine_row deviceId h, readInterfaceLine_row deviceId h']
  by_cases hheader : row.header = true
  · simp [hheader]
  · rw [if_neg hheader, if_neg hheader]
    rcases readSpeed_cases row.speedWord with hspeed | ⟨speed, hspeed⟩
    · rw [hspeed]
      cases row.firstState description with
      | none => cases row.firstState description' <;> simp [hheader, Except.map]
      | some state => cases row.firstState description' <;> simp [hheader, Except.map]
    · rw [hspeed]
      cases row.firstState description with
      | none => cases row.firstState description' <;> simp [hheader, Except.map]
      | some state =>
        cases row.firstState description' with
        | none => simp [hheader, Except.map]
        | some state' =>
          simp only [hheader, Except.map, Except.ok.injEq, Option.some.injEq, reduceCtorEq,
            Option.isSome_some, false_and, or_false, false_or, Bool.false_eq_true]
          constructor
          · exact statusOf_state
          · intro hstate
            rw [hstate]

/-- Which rows have a record. -/
theorem record_iff (deviceId : String) (h : row.Rest description rest) (found : List PyVal) :
    (∃ record, readInterfaceLine deviceId (row.line rest) = .ok (some record) ∧
      status record = found) ↔
    row.header = false ∧ ∃ state speed, row.firstState description = some state ∧
      readSpeed row.speedWord = .ok speed ∧ statusOf row.port state speed = found := by
  have hmap : (∃ record, readInterfaceLine deviceId (row.line rest) = .ok (some record) ∧
      status record = found) ↔
      (readInterfaceLine deviceId (row.line rest)).map (Option.map status) = .ok (some found) := by
    cases readInterfaceLine deviceId (row.line rest) with
    | error e => simp [Except.map]
    | ok record => simp [Except.map, Option.map_eq_some_iff]
  rw [hmap, readInterfaceLine_row deviceId h]
  by_cases hheader : row.header = true
  · simp [hheader]
  · rw [if_neg hheader]
    rw [Bool.not_eq_true] at hheader
    cases row.firstState description with
    | none => simp [hheader]
    | some state =>
      cases readSpeed row.speedWord with
      | error e => simp [Except.map]
      | ok speed => simp [Except.map, hheader]

theorem adminStatus_down (state : String) : adminStatus state = "down" ↔ state ≠ "connected" := by
  unfold adminStatus
  split
  · rename_i hconnected
    simp [hconnected]
  · rename_i hother
    simp [hother]

theorem adminRight_iff (deviceId : String) (h : row.Rest description rest) :
    AdminRight deviceId row (row.line rest) ↔ StateRight row description := by
  have hadmin (record : ParsedRecord) {state : String} {speed : Option Nat}
      (hstatus : status record = statusOf row.port state speed) :
      record.payload.getD "admin_status" = .str "down" ↔ state ≠ "connected" := by
    unfold status statusOf at hstatus
    injection hstatus with _ htail
    injection htail with _ htail
    injection htail with hadmin _
    rw [hadmin, PyVal.str.injEq, adminStatus_down]
  constructor
  · intro hright
    by_cases hheader : row.header = true
    · exact .inl hheader
    · rcases readSpeed_cases row.speedWord with hspeed | ⟨speed, hspeed⟩
      · exact .inr (.inl hspeed)
      · refine .inr (.inr ?_)
        intro state hstate
        obtain ⟨record, hrecord, hstatus⟩ := (record_iff deviceId h _).2
          ⟨Bool.not_eq_true _ ▸ hheader, state, speed, hstate, hspeed, rfl⟩
        have hdown := hright record hrecord
        rw [hadmin record hstatus] at hdown
        rw [ne_eq, ← hdown, not_not]
  · intro hright record hrecord
    obtain ⟨hheader, state, speed, hstate, hspeed, hstatus⟩ :=
      (record_iff deviceId h (status record)).1 ⟨record, hrecord, rfl⟩
    rw [hadmin record hstatus.symm]
    rcases hright with hright | hright | hright
    · rw [hheader] at hright
      cases hright
    · rw [hspeed] at hright
      cases hright
    · have hconnected := hright state hstate
      rw [ne_eq, hconnected, ne_eq, not_not]

/-- Exactly when the description of a row does not matter and `admin_status` is right. -/
theorem interface_iff (deviceId : String) (h : row.Rest description rest)
    (h' : row.Rest description' rest') :
    Unchanged deviceId (row.line rest) (row.line rest') ∧ AdminRight deviceId row (row.line rest) ↔
      SameState row description description' ∧ StateRight row description := by
  rw [unchanged_iff deviceId h h', adminRight_iff deviceId h]

end Row

/-- A port without a link. -/
def userPort : Row where
  port := "Gi1/0/2"
  port_word := by
    refine ⟨by decide, ?_⟩
    intro c hc
    have hall : ("Gi1/0/2".toList.all fun c => !Text.isSpace c) = true := by decide
    simpa using List.all_eq_true.1 hall c hc
  status := "notconnect"
  vlan := "10"
  duplex := "auto"
  speed := "auto"
  type := ["10/100/1000BaseTX"]

theorem rest_userPort : userPort.Rest [] "notconnect 10 auto auto 10/100/1000BaseTX" := by
  unfold Row.Rest
  decide

theorem rest_userPort_described :
    userPort.Rest ["connected"] "connected notconnect 10 auto auto 10/100/1000BaseTX" := by
  unfold Row.Rest
  decide

theorem interface_iff_userPort :
    Unchanged "sw1" (userPort.line "notconnect 10 auto auto 10/100/1000BaseTX")
        (userPort.line "connected notconnect 10 auto auto 10/100/1000BaseTX") ∧
      AdminRight "sw1" userPort
        (userPort.line "notconnect 10 auto auto 10/100/1000BaseTX") ↔
    SameState userPort [] ["connected"] ∧ StateRight userPort [] :=
  interface_iff "sw1" rest_userPort rest_userPort_described

theorem firstState_userPort : userPort.firstState [] = some "notconnect" := by decide

theorem firstState_userPort_described : userPort.firstState ["connected"] = some "connected" := by
  decide

/-- Described as `connected`, the port is up; and without a description, it is down for its
administrator though its status is `notconnect`. -/
theorem interface_fails :
    ¬Unchanged "sw1"
        (userPort.line "notconnect 10 auto auto 10/100/1000BaseTX")
        (userPort.line "connected notconnect 10 auto auto 10/100/1000BaseTX") ∧
      ¬AdminRight "sw1" userPort
        (userPort.line "notconnect 10 auto auto 10/100/1000BaseTX") := by
  have hheader : userPort.header = false := by decide
  have hspeed : readSpeed userPort.speedWord = .ok (some 100) := by decide
  rw [unchanged_iff "sw1" rest_userPort rest_userPort_described,
    adminRight_iff "sw1" rest_userPort]
  unfold SameState StateRight
  rw [hheader, hspeed, firstState_userPort, firstState_userPort_described]
  constructor
  · simp
  · have hstatus : Text.lower userPort.status ≠ "disabled" := by decide
    simp [hstatus]

end CiscoInventoryParser
end Cisco
end Collectors
end NetOps
