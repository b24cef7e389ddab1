import NetOps.Dict
import NetOps.Text

/-!
# Comparison.Differences

Inventory differences and their registry (`comparison/diff.py`, `comparison/registry.py`,
`comparison/filters.py`, `comparison/result.py`). The registry keeps one difference of every key.
-/

namespace NetOps
namespace Comparison

inductive DifferenceType where
  | missing
  | unexpected
  | modified
  | conflict
  | duplicate
  | unsupported
  | unknown
  deriving DecidableEq

def DifferenceType.value : DifferenceType → String
  | .missing => "missing"
  | .unexpected => "unexpected"
  | .modified => "modified"
  | .conflict => "conflict"
  | .duplicate => "duplicate"
  | .unsupported => "unsupported"
  | .unknown => "unknown"

/-- An expected or observed value. -/
inductive Value where
  | none
  | text (value : String)
  | flag (value : Bool)
  deriving DecidableEq

def Value.ofOption : Option String → Value
  | .none => .none
  | .some value => .text value

structure Difference where
  differenceType : DifferenceType
  subjectType : String
  subjectId : String
  fieldName : Option String := none
  expected : Value := .none
  observed : Value := .none
  description : String
  deriving DecidableEq

def Difference.key (d : Difference) : String :=
  d.differenceType.value ++ ":" ++ d.subjectType ++ ":" ++ d.subjectId ++ ":" ++ d.fieldName.getD ""

/-! ## Building differences -/

namespace DifferenceBuilder

def missing (subjectType subjectId expected description : String) : Difference where
  differenceType := .missing
  subjectType := subjectType
  subjectId := subjectId
  expected := .text expected
  description := description

def unexpected (subjectType subjectId observed description : String) : Difference where
  differenceType := .unexpected
  subjectType := subjectType
  subjectId := subjectId
  observed := .text observed
  description := description

def modified (subjectType subjectId fieldName : String) (expected observed : Value) :
    Difference where
  differenceType := .modified
  subjectType := subjectType
  subjectId := subjectId
  fieldName := some fieldName
  expected := expected
  observed := observed
  description := s!"{subjectType} {subjectId} field {fieldName} differs."

def duplicate (subjectType subjectId observed description : String) : Difference where
  differenceType := .duplicate
  subjectType := subjectType
  subjectId := subjectId
  observed := .text observed
  description := description

def unsupported (subjectType subjectId observed description : String) : Difference where
  differenceType := .unsupported
  subjectType := subjectType
  subjectId := subjectId
  observed := .text observed
  description := description

end DifferenceBuilder

/-! ## The registry -/

/-- `DifferenceRegistry`, extended with all the differences in turn. -/
def registry (differences : List Difference) : Dict String Difference :=
  Dict.byKey Difference.key differences

/-- `all`. -/
def registered (differences : List Difference) : List Difference := (registry differences).values

theorem mem_of_mem_registered {ds : List Difference} {d : Difference} (h : d ∈ registered ds) :
    d ∈ ds := by
  obtain ⟨k, hk⟩ := Dict.mem_values.1 h
  exact (Dict.get?_byKey hk).1

/-- Of every key, one difference is registered. -/
theorem registered_of_mem {ds : List Difference} {d : Difference} (h : d ∈ ds) :
    ∃ d' ∈ registered ds, d' ∈ ds ∧ d'.key = d.key := by
  obtain ⟨d', hd'⟩ := Dict.get?_byKey_isSome Difference.key h
  obtain ⟨hmem, hkey⟩ := Dict.get?_byKey hd'
  exact ⟨d', Dict.mem_values.2 ⟨_, hd'⟩, hmem, hkey⟩

theorem nodup_registered (ds : List Difference) : ((registered ds).map Difference.key).Nodup :=
  Dict.nodup_values_byKey _ _

/-! ## Filters and metrics -/

structure DifferenceFilter where
  includeTypes : List DifferenceType := []
  excludeTypes : List DifferenceType := []
  subjectTypes : List String := []

def DifferenceFilter.apply (f : DifferenceFilter) (differences : List Difference) :
    List Difference :=
  differences.filter fun d =>
    !((f.includeTypes ≠ [] && !f.includeTypes.contains d.differenceType) ||
      f.excludeTypes.contains d.differenceType ||
      (f.subjectTypes ≠ [] && !f.subjectTypes.contains d.subjectType))

/-- What a filter lets through of a type and a subject type. -/
def admits (filter : Option DifferenceFilter) (t : DifferenceType) (subjectType : String) : Bool :=
  match filter with
  | none => true
  | some f => !((f.includeTypes ≠ [] && !f.includeTypes.contains t) ||
      f.excludeTypes.contains t || (f.subjectTypes ≠ [] && !f.subjectTypes.contains subjectType))

/-- `ComparisonMetrics`. The engine makes one finding of every difference. -/
structure ComparisonMetrics where
  totalDifferences : Nat
  totalFindings : Nat
  count : DifferenceType → Nat

def ComparisonMetrics.fromDifferences (differences : List Difference) : ComparisonMetrics where
  totalDifferences := differences.length
  totalFindings := differences.length
  count t := differences.countP fun d => d.differenceType = t

/-! ## Keys -/

/-- Two texts before the first separator are the same if the texts with what follows are. -/
theorem append_separator_inj {c : Char} {a b x y : List Char} (ha : c ∉ a) (hb : c ∉ b)
    (h : a ++ c :: x = b ++ c :: y) : a = b ∧ x = y := by
  induction a generalizing b with
  | nil =>
    cases b with
    | nil => exact ⟨rfl, by simpa using h⟩
    | cons d b =>
      simp only [List.nil_append, List.cons_append, List.cons.injEq] at h
      exact absurd (h.1 ▸ List.mem_cons_self) hb
  | cons d a ih =>
    cases b with
    | nil =>
      simp only [List.nil_append, List.cons_append, List.cons.injEq] at h
      exact absurd (h.1 ▸ List.mem_cons_self) ha
    | cons e b =>
      simp only [List.cons_append, List.cons.injEq] at h
      obtain ⟨rfl, hrest⟩ := h
      obtain ⟨rfl, hxy⟩ := ih (fun hc => ha (List.mem_cons_of_mem _ hc))
        (fun hc => hb (List.mem_cons_of_mem _ hc)) hrest
      exact ⟨rfl, hxy⟩

theorem DifferenceType.value_inj {s t : DifferenceType} (h : s.value = t.value) : s = t := by
  cases s <;> cases t <;> first | rfl | exact absurd h (by decide)

theorem DifferenceType.value_plain (t : DifferenceType) : ':' ∉ t.value.toList := by
  cases t <;> decide

/-- A key says of what type a difference and its subject are. -/
theorem key_subject {d d' : Difference} (h : d.key = d'.key) (hd : ':' ∉ d.subjectType.toList)
    (hd' : ':' ∉ d'.subjectType.toList) :
    d.differenceType = d'.differenceType ∧ d.subjectType = d'.subjectType := by
  have hlist := congrArg String.toList h
  have hsep : ":".toList = [':'] := by decide
  simp only [Difference.key, String.toList_append, hsep, List.append_assoc,
    List.singleton_append] at hlist
  obtain ⟨htype, hrest⟩ := append_separator_inj d.differenceType.value_plain
    d'.differenceType.value_plain hlist
  obtain ⟨hsubject, _⟩ := append_separator_inj hd hd' hrest
  exact ⟨DifferenceType.value_inj (String.toList_inj.1 htype), String.toList_inj.1 hsubject⟩

end Comparison
end NetOps
