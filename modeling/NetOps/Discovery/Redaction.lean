import NetOps.Discovery.Records
import NetOps.Patterns

/-!
# Discovery.Redaction

The substitutions of `_safe_failure_message` (`discovery/execution.py`,
`discovery/multi_transport.py`), and exceptions whose texts differ in what they redact.
-/

namespace NetOps
namespace Discovery

open Patterns Substitution Text

/-! ## Assignments -/

/-- `[^\s,;]`. -/
def isValueChar (c : Char) : Bool := !(isSpace c || c = ',' || c = ';')

/-- The names of the first pattern, as their words; `[_-]?` stands between two words. -/
def secretNames : List (List (List Char)) :=
  [["password".toList], ["secret".toList], ["token".toList], ["api".toList, "key".toList],
    ["auth".toList, "pass".toList], ["enable".toList, "pass".toList], ["community".toList]]

/-- How many characters of a text a name at its start takes. -/
def nameLength : List (List Char) → List Char → Option Nat
  | [], _ => some 0
  | [word], cs => if startsWith word cs then some word.length else none
  | word :: words, cs =>
    if startsWith word cs then
      let rest := cs.drop word.length
      let joint := if rest.head?.any fun c => c = '_' || c = '-' then 1 else 0
      (nameLength words (rest.drop joint)).map fun n => word.length + joint + n
    else none

/-- A match of `name\s*[:=]\s*([^\s,;]+)`. -/
def assignmentOf (name : List (List Char)) (cs : List Char) : Option (Nat × List Char) :=
  (nameLength name cs).bind fun n =>
    let rest := cs.drop n
    let gap := rest.takeWhile isSpace
    match rest.dropWhile isSpace with
    | [] => none
    | c :: rest =>
      let gap' := rest.takeWhile isSpace
      let value := (rest.dropWhile isSpace).takeWhile isValueChar
      if (c = ':' ∨ c = '=') ∧ value ≠ [] then
        some (n + (gap.length + (1 + (gap'.length + value.length))),
          cs.take n ++ "=[REDACTED]".toList)
      else none

/-- A match of the first pattern. -/
def assignmentAt (cs : List Char) : Option (Nat × List Char) :=
  secretNames.findSome? fun name => assignmentOf name cs

/-! ## References -/

/-- `[A-Z0-9_]`, with `re.IGNORECASE`. -/
def isNameChar (c : Char) : Bool :=
  (c.toUpper.toNat ≥ 65 && c.toUpper.toNat ≤ 90) || c.isDigit || c = '_' ||
    [0x130, 0x131, 0x17f, 0x212a].contains c.toNat

/-- The words the second pattern starts with, and what goes on after each. -/
def references : List (List Char × (Char → Bool)) :=
  [("nop_secret_".toList, isNameChar), ("vault:".toList, isValueChar),
    ("credential:".toList, isValueChar)]

def referenceOf (word : List Char) (p : Char → Bool) (cs : List Char) : Option (Nat × List Char) :=
  if startsWith word cs then
    let value := (cs.drop word.length).takeWhile p
    if value = [] then none else some (word.length + value.length, "[REDACTED]".toList)
  else none

/-- A match of the second pattern. -/
def referenceAt (cs : List Char) : Option (Nat × List Char) :=
  references.findSome? fun r => referenceOf r.1 r.2 cs

/-- Both substitutions. -/
def redactMessage (message : String) : String :=
  String.ofList (sub referenceAt 0 (sub assignmentAt 0 message.toList))

example : redactMessage "login failed: api-key : abc, via vault:x" =
    "login failed: api-key=[REDACTED], via [REDACTED]" := by decide

theorem assignmentAt_ne_nil {cs replacement : List Char} {n : Nat}
    (h : assignmentAt cs = some (n, replacement)) : replacement ≠ [] := by
  obtain ⟨name, -, hname⟩ := List.exists_of_findSome?_eq_some h
  unfold assignmentOf at hname
  obtain ⟨k, -, hmatch⟩ := Option.bind_eq_some_iff.1 hname
  dsimp only at hmatch
  split at hmatch
  · cases hmatch
  · split at hmatch
    · rw [← (Prod.mk.inj (Option.some.inj hmatch)).2]
      simp
    · cases hmatch

theorem referenceAt_ne_nil {cs replacement : List Char} {n : Nat}
    (h : referenceAt cs = some (n, replacement)) : replacement ≠ [] := by
  obtain ⟨r, -, hr⟩ := List.exists_of_findSome?_eq_some h
  unfold referenceOf at hr
  dsimp only at hr
  split at hr
  · split at hr
    · cases hr
    · rw [← (Prod.mk.inj (Option.some.inj hr)).2]
      decide
  · cases hr

/-- A message that is not blank is not blank when redacted. -/
theorem redactMessage_eq_empty {message : String} : redactMessage message = "" ↔ message = "" := by
  have hempty : ∀ {cs : List Char}, String.ofList cs = "" ↔ cs = [] := by
    intro cs
    rw [← String.ofList_nil, String.ofList_inj]
  have hchars : message.toList = [] ↔ message = "" := by simp
  unfold redactMessage
  rw [hempty, sub_eq_nil referenceAt_ne_nil, sub_eq_nil assignmentAt_ne_nil, hchars]

/-! ## Exceptions -/

/-- The exception with another text. -/
def Exn.withText (text : String) : Exn → Exn
  | resourceNotFound _ => resourceNotFound text
  | invalidTransition _ => invalidTransition text
  | duplicateActive _ => duplicateActive text
  | cancellationConflict _ => cancellationConflict text
  | persistence _ => persistence text
  | executionFailure code _ => executionFailure code text
  | cancellationRequested => cancellationRequested
  | leaseLost => leaseLost
  | scopeError _ => scopeError text
  | valueError _ => valueError text
  | credentialResolution _ => credentialResolution text
  | secretProvider _ => secretProvider text
  | transportAuthentication _ => transportAuthentication text
  | transportUnavailable _ => transportUnavailable text
  | timeout _ => timeout text
  | connectionRefused _ => connectionRefused text
  | db e => db e
  | raised _ => raised text

/-- Exceptions of one class whose texts differ in redacted values only. -/
structure Exn.Alike (e e' : Exn) : Prop where
  sameClass : e.withText "" = e'.withText ""
  redacted : redactMessage (strip e.text) = redactMessage (strip e'.text)

namespace Exn.Alike

variable {e e' : Exn}

theorem blank_iff (h : e.Alike e') : strip e.text = "" ↔ strip e'.text = "" := by
  rw [← redactMessage_eq_empty, h.redacted, redactMessage_eq_empty]

theorem cancellation_iff (h : e.Alike e') :
    e = .cancellationRequested ↔ e' = .cancellationRequested := by
  have hclass : ∀ e : Exn, e = .cancellationRequested ↔ e.withText "" = .cancellationRequested := by
    intro e
    cases e <;> simp [Exn.withText]
  rw [hclass, h.sameClass, ← hclass]

theorem leaseLost_iff (h : e.Alike e') : e = .leaseLost ↔ e' = .leaseLost := by
  have hclass : ∀ e : Exn, e = .leaseLost ↔ e.withText "" = .leaseLost := by
    intro e
    cases e <;> simp [Exn.withText]
  rw [hclass, h.sameClass, ← hclass]

end Exn.Alike
end Discovery
end NetOps
